import ModalEditor.Interpreter
import ModalEditor.Summary

/-!
# The command line

The program reads a text from a file or from its input, runs keys on it, and prints the result. Its
arguments are options, the keys and the file; options may stand anywhere before a `--`. This module
holds all of it but the reading and the printing.
-/

namespace ModalEditor

namespace CommandLine

/-- What the arguments ask for. -/
structure Config where
  /-- The settings of the interpreter. -/
  settings : Settings := {}
  /-- The keys to run. -/
  keys : Text := []
  /-- The file to read instead of the input. -/
  file : Option Text := none
  /-- Whether the keys are names that white space separates. -/
  names : Bool := false
  /-- Whether the state is summed up at the end. -/
  showState : Bool := false
  deriving DecidableEq

/-- Why the arguments are not run. -/
inductive ArgError where
  /-- They ask for help. -/
  | help
  /-- An option lacks its value. -/
  | missingValue (option : Text)
  /-- The value of an option is no number. -/
  | notNumber (option value : Text)
  /-- A directive fails. -/
  | badDirective (e : SettingError)
  /-- An option is unknown. -/
  | unknownOption (option : Text)
  /-- There are no keys. -/
  | missingKeys
  /-- There is an argument too many. -/
  | unexpected (argument : Text)
  deriving DecidableEq

/-- The wording of an error. -/
def ArgError.message : ArgError → String
  | help => ""
  | missingValue option => String.ofList option ++ " needs a value"
  | notNumber option value =>
    String.ofList option ++ " expects a number, got " ++ String.ofList value
  | badDirective e => e.message
  | unknownOption option => "unknown option " ++ String.ofList option
  | missingKeys => "missing <keys>"
  | unexpected argument => "unexpected argument " ++ String.ofList argument

/-- The kinds of arguments. -/
inductive Arg where
  /-- Asks for help. -/
  | help
  /-- Makes searches ignore case. -/
  | ignoreCase
  /-- Makes the keys names. -/
  | names
  /-- Asks for the summary of the state. -/
  | state
  /-- Takes directives as its value. -/
  | set
  /-- Takes the limit on nesting as its value. -/
  | depth
  /-- Takes the limit on played keys as its value. -/
  | budget
  /-- Ends the options. -/
  | endOfOptions
  /-- Looks like an option. -/
  | unknown
  /-- Is the keys or the file. -/
  | positional
  deriving DecidableEq

/-- The kind of an argument. -/
def Arg.ofText : Text → Arg
  | ['-', 'h'] => help
  | '-' :: '-' :: name =>
    match name with
    | [] => endOfOptions
    | ['h', 'e', 'l', 'p'] => help
    | ['i', 'g', 'n', 'o', 'r', 'e', '-', 'c', 'a', 's', 'e'] => ignoreCase
    | ['n', 'a', 'm', 'e', 's'] => names
    | ['s', 't', 'a', 't', 'e'] => state
    | ['s', 'e', 't'] => set
    | ['d', 'e', 'p', 't', 'h'] => depth
    | ['b', 'u', 'd', 'g', 'e', 't'] => budget
    | _ => unknown
  | _ => positional

/-- Applies the directives of an option. -/
def Config.set (c : Config) (directives : Text) : Except ArgError Config :=
  match c.settings.set directives with
  | (settings, none) => .ok { c with settings := settings }
  | (_, some e) => .error (.badDirective e)

/-- Reads a number that is the value of an option. -/
def readValue (option value : Text) : Except ArgError Nat :=
  match readNumber? value with
  | some n => .ok n
  | none => .error (.notNumber option value)

/-- Applies an option that has a value. -/
def Config.withValue (c : Config) (option : Text) (kind : Arg) (value : Text) :
    Except ArgError Config :=
  match kind with
  | .set => c.set value
  | .depth => do return { c with settings.macroDepth := ← readValue option value }
  | .budget => do return { c with settings.macroBudget := ← readValue option value }
  | _ => .ok c

/-- Reads arguments from left to right: the options applied to `c`, and the positional arguments
after those in `found`. -/
def readOptions (c : Config) (found : List Text) : List Text →
    Except ArgError (Config × List Text)
  | [] => .ok (c, found)
  | arg :: rest =>
    match Arg.ofText arg with
    | .help => .error .help
    | .ignoreCase => readOptions { c with settings.ignoreCase := true } found rest
    | .names => readOptions { c with names := true } found rest
    | .state => readOptions { c with showState := true } found rest
    | .endOfOptions => .ok (c, found ++ rest)
    | .unknown => .error (.unknownOption arg)
    | .positional => readOptions c (found ++ [arg]) rest
    | kind =>
      match rest with
      | [] => .error (.missingValue arg)
      | value :: rest =>
        match c.withValue arg kind value with
        | .ok c => readOptions c found rest
        | .error e => .error e

/-- Reads all arguments: the first positional one is the keys, the second the file. -/
def parse (args : List Text) : Except ArgError Config :=
  match readOptions {} [] args with
  | .error e => .error e
  | .ok (_, []) => .error .missingKeys
  | .ok (c, [keys]) => .ok { c with keys := keys }
  | .ok (c, [keys, file]) => .ok { c with keys := keys, file := some file }
  | .ok (_, _ :: _ :: extra :: _) => .error (.unexpected extra)

/-- The keys to run. Names that no key has are left out. -/
def Config.keyList (c : Config) : List Key :=
  if c.names then (splitWhiteSpace c.keys).filterMap Key.ofName? else Key.readAll c.keys

/-- How the program is used. -/
def usage : String :=
  "usage: n-modal [options] <keys> [file]\n\n" ++
  "Reads the buffer from <file> (or stdin), runs <keys>, prints the result.\n\n" ++
  "options:\n" ++
  "  --set <directives>   apply set-style options, e.g. \"ic macrodepth=8\"\n" ++
  "  --depth <n>          deepest nested macro playback (default 64)\n" ++
  "  --budget <n>         replayed macro tokens per run (default 100000)\n" ++
  "  --ignore-case        case-insensitive search\n" ++
  "  --names              keys are whitespace-separated key names\n" ++
  "  --state              print a state summary to stderr\n" ++
  "  -h, --help           show this help"

/-- What the program prints, and its exit code. -/
structure Result where
  /-- What goes to the output. -/
  output : Text := []
  /-- What goes to the error output. -/
  errors : Text := []
  /-- The exit code. -/
  exitCode : Nat := 0
  deriving DecidableEq

/-- The result when the arguments are not run. -/
def Result.ofArgError : ArgError → Result
  | .help => { output := (usage ++ "\n").toList }
  | e =>
    { errors := ("n-modal: " ++ e.message ++ "\n\n" ++ usage ++ "\n").toList, exitCode := 2 }

/-- The result when the text cannot be read. -/
def Result.ofReadError (message : String) : Result :=
  { errors := ("n-modal: " ++ message ++ "\n").toList, exitCode := 1 }

/-- Runs the program on a text. -/
def Config.run (c : Config) (text : Text) : Result :=
  let (b, s) := interpret c.settings ⟨text⟩ none c.keyList
  { output := b.text, errors := if c.showState then s.summary else [] }

/-- What a missing file is called. -/
def missingFile : String := "No such file or directory (os error 2)"

end CommandLine

end ModalEditor
