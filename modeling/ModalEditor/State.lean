import ModalEditor.Command
import ModalEditor.History
import ModalEditor.LineInput
import ModalEditor.Mark
import ModalEditor.Mode
import ModalEditor.Number
import ModalEditor.Register
import ModalEditor.Search

/-!
# State

The state is all that the interpreter knows between two keys, the text apart. One part of it, the
snapshot, is kept in every checkpoint and brought back by undo: the cursor, the start of the
selection, the last jump and the outcome of searches. Registers, marks, the mode and half-typed
commands are left alone by undo.
-/

namespace ModalEditor

/-- The part of the state that undo brings back. -/
structure Snapshot where
  /-- Where the cursor stands. -/
  cursor : Position := .origin
  /-- Where the selection started. -/
  visualAnchor : Option Position := none
  /-- The last jump to a character. -/
  lastJump : Option Jump := none
  /-- Which way the last search went. -/
  searchDirection : Option Direction := none
  /-- What is searched for. -/
  searchPattern : Option SearchPattern := none
  /-- Whether the last search found a match. -/
  matchFound : Bool := false
  /-- Whether the last match was found after starting over from the other edge. -/
  matchWrapped : Bool := false
  /-- Where the last match is. -/
  matchSpan : Option Span := none
  /-- Why the last query is no pattern. -/
  searchError : Option PatternError := none
  deriving DecidableEq, Inhabited

/-- The parts of a command that wait for a motion. -/
structure Pending where
  /-- The operator. -/
  operator : Option Operator := none
  /-- The count typed before the operator. -/
  operatorCount : Option Nat := none
  /-- How the operator widens its range. -/
  modifier : Option Modifier := none
  /-- The count typed since. -/
  repeatCount : Option Nat := none
  deriving DecidableEq, Inhabited

namespace Pending

/-- How often a motion is repeated: the product of the two counts, or the one that is there, or
once. -/
def count (p : Pending) : Nat :=
  match p.operatorCount, p.repeatCount with
  | none, none => 1
  | some n, none => n
  | none, some n => n
  | some m, some n => mulCounts m n

end Pending

/-- All that is known between two keys. -/
structure State extends Snapshot, Pending where
  /-- What keys mean. -/
  mode : Mode := .normal
  /-- The command of two keys that waits for its second. -/
  continuation : Option Continuation := none
  /-- The register chosen for the next operator or put. -/
  selected : Option Char := none
  /-- The registers. -/
  registers : RegisterFile := {}
  /-- The marks. -/
  marks : MarkSet := {}
  /-- The register that a macro is recorded into, as it was typed. -/
  recording : Option Char := none
  /-- The register that was played last. -/
  lastPlayed : Option Char := none
  /-- The search query being typed. -/
  searchQuery : LineInput := {}
  /-- The command line being typed. -/
  commandQuery : LineInput := {}
  /-- The command line committed last. -/
  lastCommand : Option Text := none
  /-- Whether leaving insert mode moves the cursor back. -/
  insertAppend : Bool := false
  /-- The checkpoints. -/
  history : History Snapshot := .empty
  deriving DecidableEq, Inhabited

namespace State

/-- The part that undo brings back. -/
abbrev snapshot (s : State) : Snapshot := s.toSnapshot

/-- The state with another snapshot. -/
def restore (s : State) (snapshot : Snapshot) : State := { s with toSnapshot := snapshot }

/-- Takes a checkpoint of a buffer and the state. -/
def checkpoint (s : State) (b : Buffer) : State :=
  { s with history := s.history.checkpoint ⟨b, s.snapshot⟩ }

/-- The state an interpreter starts in: nothing typed, and one checkpoint. -/
def initial (b : Buffer) : State := ({} : State).checkpoint b

end State

end ModalEditor
