import ModalEditor.Editor
import ModalEditor.Text.Word

/-!
# Operators on ranges

A pending operator is applied to the characters between two offsets, to whole rows, or to a
rectangle. What it takes goes to the registers; a delete and a change keep a checkpoint of the text
from before, a yank one of the state after it.
-/

namespace ModalEditor

namespace Buffer

/-- How many word characters stand right before an offset. -/
def wordBefore (b : Buffer) (offset : Nat) : Nat :=
  if offset ≤ b.length then ((b.text.take offset).reverse.takeWhile isWordChar).length else 0

/-- How many word characters stand at an offset and right after it. -/
def wordAfter (b : Buffer) (offset : Nat) : Nat :=
  ((b.text.drop offset).takeWhile isWordChar).length

/-- A span grown over the word characters on both sides. -/
def expandWord (b : Buffer) (s : Span) : Span :=
  ⟨s.start - b.wordBefore s.start, s.stop + b.wordAfter s.stop⟩

/-- The rows from `first` to `last`, each with a newline. -/
def rowsText (b : Buffer) (first last : Nat) : Text :=
  (List.range' first (last + 1 - first)).flatMap fun row => b.rowText row ++ ['\n']

/-- The span of whole rows: with the newline after them, or, at the end of the buffer, with the one
before. -/
def rowsSpan (b : Buffer) (first last : Nat) : Span :=
  let start := b.rowStart first
  let stop := b.rowEnd last
  if last < b.lastRow then ⟨start, stop + 1⟩
  else ⟨if 0 < first then start - 1 else start, stop⟩

/-- The pieces that a rectangle cuts out of its rows, from top to bottom. -/
def blockSpans (b : Buffer) (top bottom left right : Nat) : List Span :=
  (List.range' top (min bottom b.lastRow + 1 - top)).map fun row =>
    ⟨b.offsetAt ⟨row, left⟩, b.offsetAt ⟨row, right + 1⟩⟩

end Buffer

namespace Editor

/-- Deletes a span: a checkpoint, the text to the registers, the cursor to the start. -/
def deleteSpan (e : Editor) (s : Span) : Editor :=
  let e := (e.takeCheckpoint).recordTaken (e.buffer.slice s)
  { e with buffer := e.buffer.remove s }.moveTo s.start

/-- Applies the pending operator to the characters between two offsets, the second of which a motion
has reached. Without an operator the cursor moves there. -/
def applyRange (e : Editor) (source target : Nat) : Editor :=
  let span := Span.ordered source target
  let span := if e.modifier.isSome then e.buffer.expandWord span else span
  let op := e.operator
  let e := { e with operator := none, modifier := none }
  let e := match op with
    | some .delete => e.deleteSpan span
    | some .change => (e.deleteSpan span).enterInsert
    | some .yank =>
      let e := e.recordTaken (e.buffer.slice span)
      (if target < source then e.moveTo span.start else e).takeCheckpoint
    | none => e.moveTo target
  { e with selected := none }

/-- Puts the cursor where the indentation of a row ends. -/
def moveToIndent (e : Editor) (row : Nat) : Editor :=
  { e with cursor := ⟨row, (leadingBlanks (e.buffer.rowText row)).length⟩ }

/-- Deletes whole rows, and puts the cursor on the row that takes their place. -/
def deleteRows (e : Editor) (first last : Nat) : Editor :=
  let e := (e.takeCheckpoint).recordTaken (e.buffer.rowsText first last)
  let e := { e with buffer := e.buffer.remove (e.buffer.rowsSpan first last) }
  e.moveToIndent (min first e.buffer.lastRow)

/-- Replaces whole rows by the indentation of the first, to type there. -/
def changeRows (e : Editor) (first last : Nat) : Editor :=
  let indent := leadingBlanks (e.buffer.rowText first)
  let span : Span := ⟨e.buffer.rowStart first, e.buffer.rowEnd last⟩
  let e := (e.takeCheckpoint).recordTaken (e.buffer.rowsText first last)
  { e with
    buffer := e.buffer.replace span indent
    cursor := ⟨first, indent.length⟩ }.enterInsert

/-- Copies whole rows; a cursor below the first goes up to it. -/
def yankRows (e : Editor) (first last : Nat) : Editor :=
  let e := e.recordTaken (e.buffer.rowsText first last)
  { e with cursor := ⟨min e.cursor.row first, e.cursor.col⟩ }.takeCheckpoint

/-- Applies the pending operator to the rows from `first` to `last`, which are clamped to the
buffer. -/
def applyRows (e : Editor) (first last : Nat) : Editor :=
  let first := min first e.buffer.lastRow
  let last := min (max last first) e.buffer.lastRow
  let op := e.operator
  let e := { e with operator := none, modifier := none }
  let e := match op with
    | some .delete => e.deleteRows first last
    | some .change => e.changeRows first last
    | some .yank => e.yankRows first last
    | none => e
  { e with selected := none }

/-- Cuts the pieces of a rectangle, the lowest first, so that those above keep their place. -/
def deleteBlock (e : Editor) (top left : Nat) (spans : List Span) : Editor :=
  let e := { e.takeCheckpoint with buffer := spans.foldr (fun s b => b.remove s) e.buffer }
  { e with cursor := ⟨top, min left (e.buffer.rowLength top)⟩ }

/-- Applies the pending operator to a rectangle. Rows that end before it give nothing. -/
def applyBlock (e : Editor) (top bottom left right : Nat) : Editor :=
  let spans := e.buffer.blockSpans top bottom left right
  let taken := List.intercalate ['\n'] (spans.map e.buffer.slice)
  let op := e.operator
  let e := { e with operator := none, modifier := none }
  let e := match op with
    | some .delete => (e.deleteBlock top left spans).recordTaken taken
    | some .change => ((e.deleteBlock top left spans).recordTaken taken).enterInsert
    | some .yank => { e.recordTaken taken with cursor := ⟨top, left⟩ }.takeCheckpoint
    | none => e
  { e with selected := none }

end Editor

end ModalEditor
