import ModalEditor.Editor.Range
import ModalEditor.Key

/-!
# Editing

The commands that edit without an operator: insert sessions, opening a row, deleting, putting and
replacing characters, undo and redo. Each takes a checkpoint before it changes the text; the keys of
an insert session take none, so that undo goes back to its start.
-/

namespace ModalEditor

namespace Editor

/-! ### Insert sessions -/

/-- Starts an insert session. -/
def startInsert (e : Editor) : Editor :=
  { e.takeCheckpoint with repeatCount := none }.enterInsert

/-- Opens a row below or above that of the cursor, indented as that one, and starts an insert
session there. -/
def openRow (e : Editor) (below : Bool) : Editor :=
  let e := { e.takeCheckpoint with repeatCount := none }
  let row := e.cursor.row
  let indent := leadingBlanks (e.buffer.rowText row)
  let e :=
    if below then
      { e with
        buffer := e.buffer.insert (e.buffer.rowEnd row) ('\n' :: indent)
        cursor := ⟨row + 1, indent.length⟩ }
    else
      { e with
        buffer := e.buffer.insert (e.buffer.rowStart row) (indent ++ ['\n'])
        cursor := ⟨row, indent.length⟩ }
  e.enterInsert

/-- Adds to the record of the typed text. -/
def recordTyped (e : Editor) (t : Text) : Editor :=
  { e with registers := e.registers.append lastInsertRegister t }

/-- Drops the last character from the record of the typed text, if there is one. -/
def unrecordTyped (e : Editor) : Editor :=
  let typed := e.registers.read lastInsertRegister
  if typed.isEmpty then e
  else { e with registers := e.registers.write lastInsertRegister typed.dropLast }

/-- Types a character. -/
def typeChar (e : Editor) (c : Char) : Editor :=
  { e with
    buffer := e.buffer.insert e.cursorOffset [c]
    cursor := ⟨e.cursor.row, e.cursor.col + 1⟩ }.recordTyped [c]

/-- Starts a new row, indented as the one before. The indentation does not count as typed. -/
def typeNewline (e : Editor) : Editor :=
  let indent := leadingBlanks (e.buffer.rowText e.cursor.row)
  { e with
    buffer := e.buffer.insert e.cursorOffset ('\n' :: indent)
    cursor := ⟨e.cursor.row + 1, indent.length⟩ }.recordTyped ['\n']

/-- Removes the character before the cursor, if there is one. -/
def eraseBack (e : Editor) : Editor :=
  let here := e.cursorOffset
  if here = 0 then e
  else
    ({ e with buffer := e.buffer.remove ⟨here - 1, here⟩ }.moveTo (here - 1)).unrecordTyped

/-- A key in insert mode. -/
def insertKey (e : Editor) : Key → Editor
  | .char c => e.typeChar c
  | .enter => e.typeNewline
  | .backspace => e.eraseBack
  | _ => e

/-! ### Single characters -/

/-- Removes characters of the row, unless the span is empty. -/
def removeChars (e : Editor) (s : Span) : Editor :=
  if s.isEmpty then e
  else
    let e := e.takeCheckpoint
    { e with buffer := e.buffer.remove s }

/-- Deletes the character under the cursor and those after it in the row. The registers do not get
them. -/
def deleteUnder (e : Editor) : Editor :=
  let count := e.count
  let e := e.dropCounts
  let start := e.buffer.rowStart e.cursor.row
  e.removeChars ⟨start + e.cursor.col,
    start + min (e.cursor.col + count) (e.buffer.rowLength e.cursor.row)⟩

/-- Deletes the characters before the cursor in the row. The registers do not get them. -/
def deleteBefore (e : Editor) : Editor :=
  let count := e.count
  let e := e.dropCounts
  let start := e.buffer.rowStart e.cursor.row
  let span : Span := ⟨start + (e.cursor.col - count), start + e.cursor.col⟩
  { e.removeChars span with cursor := ⟨e.cursor.row, e.cursor.col - span.length⟩ }

/-- Overwrites characters of the row by one character; nothing happens if the row is too short. -/
def replaceChars (e : Editor) (c : Char) : Editor :=
  let count := e.count
  let e := e.dropCounts
  if e.buffer.rowLength e.cursor.row < e.cursor.col + count then e
  else
    let e := e.takeCheckpoint
    let start := e.buffer.rowStart e.cursor.row + e.cursor.col
    { e with
      buffer := e.buffer.replace ⟨start, start + count⟩ (List.replicate count c)
      cursor := ⟨e.cursor.row, e.cursor.col + (count - 1)⟩ }

/-! ### Putting -/

/-- How many bytes a text takes. -/
def byteSize (t : Text) : Nat := t.foldl (fun n c => n + c.utf8Size) 0

/-- Puts whole rows above or below the row of the cursor, and moves to the first of them. Below the
last row the newline goes in front. -/
def putRows (e : Editor) (content : Text) (after : Bool) : Editor :=
  let b := e.buffer
  let row := e.cursor.row
  if !after then { e with buffer := b.insert (b.rowStart row) content }.moveToIndent row
  else if row < b.lastRow then
    { e with buffer := b.insert (b.rowStart (row + 1)) content }.moveToIndent (row + 1)
  else
    { e with buffer := b.insert (b.rowEnd row) ('\n' :: content.dropLast) }.moveToIndent (row + 1)

/-- Puts characters at the cursor or after it, and moves to the last of them. -/
def putChars (e : Editor) (content : Text) (after : Bool) : Editor :=
  let b := e.buffer
  let row := e.cursor.row
  let here := e.cursorOffset
  let offset := if after && b.rowLength row != 0 then min (here + 1) (b.rowEnd row) else here
  { e with buffer := b.insert offset content }.moveTo (offset + content.length - 1)

/-- Puts the text of the chosen register, or of the unnamed one, as often as the count says. Nothing
happens if there is none, or if it would become too large to address. -/
def put (e : Editor) (after : Bool) : Editor :=
  let count := e.count
  let stored := e.registers.read (e.selected.getD unnamedRegister)
  let e := { e.dropCounts with selected := none }
  if stored.isEmpty || maxCount < byteSize stored * count then e
  else
    let content := (List.replicate count stored).flatten
    let e := e.takeCheckpoint
    if isLinewise content then e.putRows content after else e.putChars content after

/-! ### Undo and redo -/

/-- Goes to a checkpoint, if there is one to go to. -/
def goTo (e : Editor) (history : History Snapshot) : Option (Checkpoint Snapshot) → Editor
  | some c => ⟨{ e.toState.restore c.snapshot with history := history }, c.buffer⟩
  | none => { e with history := history }

/-- Goes back as many checkpoints as the count says. -/
def undo (e : Editor) : Editor :=
  let (history, c?) := e.history.undo ⟨e.buffer, e.snapshot⟩ e.count
  e.dropCounts.goTo history c?

/-- Goes on as many checkpoints as the count says. -/
def redo (e : Editor) : Editor :=
  let (history, c?) := e.history.redo e.count
  e.dropCounts.goTo history c?

end Editor

end ModalEditor
