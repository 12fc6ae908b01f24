import ModalEditor.State

/-!
# The editor

A buffer together with the state, and the small changes that all commands are made of.
-/

namespace ModalEditor

/-- A text being edited and all that is known about it. -/
structure Editor extends State where
  /-- The text. -/
  buffer : Buffer
  deriving DecidableEq, Inhabited

namespace Editor

/-- The offset of the cursor. -/
def cursorOffset (e : Editor) : Nat := e.buffer.offsetAt e.cursor

/-- Takes a checkpoint of the text and the state. -/
def takeCheckpoint (e : Editor) : Editor := { e with toState := e.toState.checkpoint e.buffer }

/-- Moves the cursor to an offset. -/
def moveTo (e : Editor) (offset : Nat) : Editor :=
  { e with cursor := e.buffer.positionAt offset }

/-- Forgets the counts. -/
def dropCounts (e : Editor) : Editor := { e with operatorCount := none, repeatCount := none }

/-- Forgets the operator, its modifier and the counts. -/
def clearPending (e : Editor) : Editor := { e with toPending := {} }

/-- Switches to insert mode and starts a new record of the typed text. -/
def enterInsert (e : Editor) : Editor :=
  { e with
    mode := .insert
    insertAppend := true
    registers := e.registers.clear lastInsertRegister }

/-- Records a text that an operator took, also in the chosen register if there is one. -/
def recordTaken (e : Editor) (t : Text) : Editor :=
  let registers := e.registers.record t
  { e with registers := e.selected.elim registers fun name => registers.store name t }

/-- The rightmost column of a row for a mode: the last character, or the place after it where the
mode allows that. -/
def lastColumn (e : Editor) (row : Nat) : Nat :=
  if e.mode.cursorPastEnd then e.buffer.rowLength row else e.buffer.rowLength row - 1

/-- Moves the cursor into the text, as far to the right as the mode allows. -/
def clampCursor (e : Editor) : Editor :=
  let row := min e.cursor.row e.buffer.lastRow
  { e with cursor := ⟨row, min e.cursor.col (e.lastColumn row)⟩ }

theorem clampCursor_clampCursor (e : Editor) : e.clampCursor.clampCursor = e.clampCursor := by
  simp only [clampCursor, lastColumn]
  congr 4 <;> simp only [Nat.min_assoc, Nat.min_self]

end Editor

end ModalEditor
