import ModalEditor.Editor.Motion
import ModalEditor.Settings

/-!
# Searching

A committed query is compiled and searched for; later searches repeat it either way. A search is a
motion to the start of the match. A search that fails clears what was pending and leaves the cursor
where it is.
-/

namespace ModalEditor

namespace Buffer

/-- The match nearest to an offset in one direction. -/
def findTowards (b : Buffer) (p : SearchPattern) (d : Direction) (offset : Nat) :
    Option SearchHit :=
  match d with
  | .forward => b.findNext p offset
  | .backward => b.findPrevious p offset

/-- The offset from which the search goes on after a match. -/
def offsetAfter (d : Direction) (hit : SearchHit) : Nat :=
  match d with
  | .forward => hit.span.start + 1
  | .backward => hit.span.start

/-- The last of `n` matches found one after the other. -/
def findNth (b : Buffer) (p : SearchPattern) (d : Direction) : Nat → Nat → Option SearchHit
  | 0, _ => none
  | n + 1, offset =>
    match b.findTowards p d offset with
    | none => none
    | some hit => (b.findNth p d n (offsetAfter d hit)).or (some hit)

end Buffer

namespace Editor

/-- Notes that a search found nothing. -/
def recordMiss (e : Editor) : Editor :=
  { e with matchFound := false, matchWrapped := false, matchSpan := none }.clearPending

/-- Notes a match and moves to it. -/
def recordHit (e : Editor) (hit : SearchHit) : Editor :=
  { e with
    matchFound := true
    matchWrapped := hit.wrapped
    matchSpan := some hit.span }.reach (.char hit.span.start false)

/-- Searches from the cursor. Only the first search for a query may match at the cursor itself. As
many searches as there are characters, and one more, are made at most. -/
def runSearch (e : Editor) (d : Direction) (first : Bool) : Editor :=
  match e.searchPattern with
  | none => e.clearPending
  | some p =>
    let count := min e.count (e.buffer.length + 1)
    let here := e.cursorOffset
    let offset := if d = .forward ∧ first = false then here + 1 else here
    let hit? := e.buffer.findNth p d count offset
    let e := e.dropCounts
    match hit? with
    | some hit => e.recordHit hit
    | none => e.recordMiss

/-- Repeats the last search, or searches the other way. -/
def repeatSearch (e : Editor) (reverse : Bool) : Editor :=
  let d := e.searchDirection.getD .forward
  e.runSearch (if reverse then d.opposite else d) false

/-- Compiles the query that the search register holds, if nothing is being searched for. -/
def recallPattern (e : Editor) (settings : Settings) : Editor :=
  let source := e.registers.read searchRegister
  if e.searchPattern.isSome || source.isEmpty then e
  else
    match SearchPattern.compile source settings.ignoreCase with
    | .ok p => { e with searchPattern := some p }
    | .error _ => e

/-- Searches for a new query. -/
def searchFor (e : Editor) (settings : Settings) (query : Text) : Editor :=
  let e := { e with registers := e.registers.write searchRegister query }
  match SearchPattern.compile query settings.ignoreCase with
  | .ok p =>
    { e with searchPattern := some p, searchError := none }.runSearch
      (e.searchDirection.getD .forward) true
  | .error err => { e with searchError := some err, searchPattern := none }.recordMiss

/-- Commits the query being typed. An empty one repeats the last search. -/
def commitSearch (e : Editor) (settings : Settings) : Editor :=
  let query := e.searchQuery.text
  let e := { e with mode := .normal, searchQuery := {} }
  if query.isEmpty then (e.recallPattern settings).repeatSearch false
  else e.searchFor settings query

end Editor

end ModalEditor
