import ModalEditor.State

/-!
# The state summary

What a host usually wants to know of a state, one line for each: the mode and the cursor, a line of
input being typed, a recording, the search, the last command, registers, marks and the history.
Rows and columns count from zero.
-/

namespace ModalEditor

namespace State

/-- A line of the summary. -/
def summaryLine (label : String) (content : Text) : Text :=
  label.toList ++ [':', ' '] ++ content ++ ['\n']

/-- A position with a colon in between. -/
def showPosition (p : Position) : Text := showNumber p.row ++ ':' :: showNumber p.col

/-- The line of input being typed, with the key that started it. -/
def inputLine (s : State) : Text :=
  match s.mode with
  | .commandLine => summaryLine "input" (':' :: s.commandQuery.text)
  | .search =>
    summaryLine "input" ((s.searchDirection.getD .forward).searchKey :: s.searchQuery.text)
  | _ => []

/-- What is searched for and whether it was found. -/
def searchLine (s : State) : Text :=
  match s.searchPattern with
  | none => []
  | some p =>
    let found := if s.matchFound then " found=true" else " found=false"
    let wrapped := if s.matchWrapped then " (wrapped)" else ""
    summaryLine "search" (p.source ++ found.toList ++ wrapped.toList)

/-- The summary of a state. -/
def summary (s : State) : Text :=
  summaryLine "mode" s.mode.displayName.toList ++
  summaryLine "cursor" (showPosition s.cursor) ++
  s.inputLine ++
  s.recording.elim [] (fun name => summaryLine "recording" [name]) ++
  s.searchLine ++
  s.searchError.elim [] (fun e => summaryLine "search error" e.message.toList) ++
  s.lastCommand.elim [] (fun command => summaryLine "command" (':' :: command)) ++
  (s.registers.entries.flatMap fun (name, t) =>
    summaryLine (String.ofList ("register ".toList ++ [name])) (quote t)) ++
  (s.marks.entries.flatMap fun (name, p) =>
    summaryLine (String.ofList ("mark ".toList ++ [name])) (showPosition p)) ++
  summaryLine "history" (showNumber (s.history.index?.elim 0 (· + 1)) ++
    '/' :: showNumber s.history.size)

end State

end ModalEditor
