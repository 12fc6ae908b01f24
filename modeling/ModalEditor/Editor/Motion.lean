import ModalEditor.Editor.Range

/-!
# Motions

A motion has a target: an offset, or a row. With an operator pending, the operator is applied to
what lies between the cursor and the target; without one, the cursor moves there. Counts that lead
past an edge stop at it.
-/

namespace ModalEditor

/-- Where a motion leads. -/
inductive Target where
  /-- To an offset. An operator takes the character there too if the target is inclusive and not
  behind the cursor. -/
  | char (offset : Nat) (inclusive : Bool)
  /-- To a row. An operator takes whole rows; the cursor alone goes to the offset. -/
  | line (row offset : Nat)
  deriving DecidableEq

namespace Buffer

/-- The start of the word after the one at an offset, or the end of the buffer. -/
def nextWordStart (b : Buffer) (kind : WordKind) (offset : Nat) : Nat :=
  let tokens := tokensFrom kind offset (b.text.drop offset)
  match tokens.find? fun t => offset < t.start with
  | some t => t.start
  | none => b.length

/-- The end of the word that starts or goes on at an offset, if there is one. -/
def wordEndAt? (b : Buffer) (kind : WordKind) (offset : Nat) : Option Nat :=
  match tokensFrom kind offset (b.text.drop offset) with
  | t :: _ => if t.start = offset then some t.stop else none
  | [] => none

/-- The start of the last word before an offset, or the start of the buffer. -/
def previousWordStart (b : Buffer) (kind : WordKind) (offset : Nat) : Nat :=
  ((tokenize kind (b.text.take offset)).getLast?.map (·.start)).getD 0

/-- The last character of the first word after an offset, if there is one. -/
def nextWordLast? (b : Buffer) (kind : WordKind) (offset : Nat) : Option Nat :=
  (tokensFrom kind (offset + 1) (b.text.drop (offset + 1))).head?.map (·.last)

/-- `nextWordStart` up to `n` times, no further than the end. -/
def skipWords (b : Buffer) (kind : WordKind) : Nat → Nat → Nat
  | 0, offset => offset
  | n + 1, offset =>
    if b.length ≤ offset then offset else b.skipWords kind n (b.nextWordStart kind offset)

/-- `previousWordStart` up to `n` times, no further than the start. -/
def backWords (b : Buffer) (kind : WordKind) : Nat → Nat → Nat
  | 0, offset => offset
  | n + 1, offset =>
    if offset = 0 then 0 else b.backWords kind n (b.previousWordStart kind offset)

/-- `nextWordLast?` up to `n` times, as long as there is a word. -/
def skipWordEnds (b : Buffer) (kind : WordKind) : Nat → Nat → Nat
  | 0, offset => offset
  | n + 1, offset =>
    match b.nextWordLast? kind offset with
    | some last => b.skipWordEnds kind n last
    | none => offset

end Buffer

namespace Editor

/-- Applies the pending operator up to a target, or moves the cursor there. -/
def reach (e : Editor) (target : Target) : Editor :=
  let source := e.cursorOffset
  let e := e.dropCounts
  match target with
  | .char offset inclusive =>
    let stop :=
      if e.operator.isSome && inclusive && source ≤ offset then min (offset + 1) e.buffer.length
      else offset
    e.applyRange source stop
  | .line row offset =>
    if e.operator.isSome then e.applyRows (min e.cursor.row row) (max e.cursor.row row)
    else e.moveTo offset

/-! ### Within the row -/

/-- To the left. -/
def leftTarget (e : Editor) : Target :=
  .char (e.buffer.rowStart e.cursor.row + (e.cursor.col - e.count)) false

/-- To the right, at most to the end of the row. -/
def rightTarget (e : Editor) : Target :=
  .char (e.buffer.rowStart e.cursor.row +
    min (e.cursor.col + e.count) (e.buffer.rowLength e.cursor.row)) false

/-- To the start of the row. -/
def rowStartTarget (e : Editor) : Target := .char (e.buffer.rowStart e.cursor.row) false

/-- To the end of the indentation. -/
def indentTarget (e : Editor) : Target := .char (e.buffer.firstNonBlank e.cursor.row) false

/-- To the last character of the row, a count leading as many rows down less one. In insert mode,
and in an empty row, to the end of the row. -/
def rowEndTarget (e : Editor) : Target :=
  let row := min (e.cursor.row + (e.count - 1)) e.buffer.lastRow
  let stop := e.buffer.rowEnd row
  if e.mode = .insert ∨ stop = e.buffer.rowStart row then .char stop false
  else .char (stop - 1) true

/-! ### Across rows -/

/-- To a row, in the column of the cursor; nowhere if that is the row of the cursor. -/
def rowTarget? (e : Editor) (row : Nat) : Option Target :=
  if row = e.cursor.row then none
  else some (.line row (e.buffer.offsetAt ⟨row, e.cursor.col⟩))

/-- Down. -/
def downTarget? (e : Editor) : Option Target :=
  e.rowTarget? (min (e.cursor.row + e.count) e.buffer.lastRow)

/-- Up. -/
def upTarget? (e : Editor) : Option Target := e.rowTarget? (e.cursor.row - e.count)

/-- To the end of the indentation of a row. -/
def indentOfRowTarget (e : Editor) (row : Nat) : Target := .line row (e.buffer.firstNonBlank row)

/-- To the row that the count names, the last without one. -/
def bottomTarget (e : Editor) : Target :=
  e.indentOfRowTarget (min (e.repeatCount.elim e.buffer.lastRow (· - 1)) e.buffer.lastRow)

/-- To the row that the count names, the first without one. -/
def topTarget (e : Editor) : Target :=
  e.indentOfRowTarget (min (e.repeatCount.elim 0 (· - 1)) e.buffer.lastRow)

/-! ### By words -/

/-- To the start of a word further on. Under an operator the motion stays in its last row, and a
change stops at the end of the last word. With a modifier it leads over one character, which the
operator then grows to the word around it. -/
def wordTarget (e : Editor) (kind : WordKind) : Target :=
  let source := e.cursorOffset
  if e.modifier.isSome then .char (min (source + 1) e.buffer.length) false
  else
    let offset := e.buffer.skipWords kind (e.count - 1) source
    let next := e.buffer.nextWordStart kind offset
    match e.operator with
    | none => .char next false
    | some op =>
      let stop := if op = .change then (e.buffer.wordEndAt? kind offset).getD next else next
      .char (min stop (e.buffer.rowEnd (e.buffer.positionAt offset).row)) false

/-- To the start of a word further back. -/
def backWordTarget (e : Editor) (kind : WordKind) : Target :=
  .char (e.buffer.backWords kind e.count e.cursorOffset) false

/-- To the end of a word further on. -/
def wordEndTarget (e : Editor) (kind : WordKind) : Target :=
  .char (min (e.buffer.skipWordEnds kind e.count e.cursorOffset) (e.buffer.length - 1)) true

end Editor

end ModalEditor
