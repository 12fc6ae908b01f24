import ModalEditor.CommandLine

/-!
# The program

Reads the arguments and the text, and prints what `CommandLine` makes of them.
-/

namespace ModalEditor

/-- The text to edit, or why it cannot be read. -/
def readText (file : Option Text) : IO (Except String Text) :=
  try
    let text ← match file with
      | some path => IO.FS.readFile (String.ofList path)
      | none => (← IO.getStdin).readToEnd
    return .ok text.toList
  catch
    | .noFileOrDirectory .. => return .error CommandLine.missingFile
    | e => return .error (toString e)

/-- Prints a result and answers its exit code. -/
def printResult (r : CommandLine.Result) : IO UInt32 := do
  let out ← IO.getStdout
  out.putStr (String.ofList r.output)
  out.flush
  (← IO.getStderr).putStr (String.ofList r.errors)
  return r.exitCode.toUInt32

end ModalEditor

open ModalEditor in
/-- Runs keys on a text. -/
def main (args : List String) : IO UInt32 := do
  match CommandLine.parse (args.map String.toList) with
  | .error e => printResult (.ofArgError e)
  | .ok config =>
    match ← readText config.file with
    | .error message => printResult (.ofReadError message)
    | .ok text => printResult (config.run text)
