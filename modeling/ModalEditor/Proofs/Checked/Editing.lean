import ModalEditor.Editor.Editing
import ModalEditor.Proofs.Checked.Text

/-!
# Edits on the machine

Operators on ranges, and the commands that edit without one, as the machine carries them out. None
of them stops where the cursor is in the text (`InText`): what they add is bounded by the text, what
they take away is part of it, and the rows that they ask for are there, also in the text that they
have just changed.
-/

namespace ModalEditor

namespace Checked

variable {e : Editor}

/-- The cursor is in a text that is not too long, at most at the end of its row. -/
structure InText (e : Editor) : Prop where
  /-- The text is not too long. -/
  fits : e.buffer.Fits
  /-- The row is there. -/
  row_le : e.cursor.row ≤ e.buffer.lastRow
  /-- So is the column. -/
  col_le : e.cursor.col ≤ e.buffer.rowLength e.cursor.row

theorem InText.of_eq (h : InText e) {e' : Editor} (hbuffer : e'.buffer = e.buffer)
    (hcursor : e'.cursor = e.cursor) : InText e' := by
  refine ⟨hbuffer ▸ h.fits, ?_, ?_⟩
  · rw [hbuffer, hcursor]
    exact h.row_le
  · rw [hbuffer, hcursor]
    exact h.col_le

theorem InText.rowStart_add_col_le (h : InText e) :
    e.buffer.rowStart e.cursor.row + e.cursor.col ≤ e.buffer.length :=
  Nat.le_trans (Nat.add_le_add_left h.col_le _) (Buffer.rowStart_add_rowLength_le h.row_le)

/-! ### Ranges of characters -/

/-- Moves the cursor to an offset. -/
def moveTo (e : Editor) (offset : Nat) : Checked Editor := do
  let p ← positionAt e.buffer offset
  return { e with cursor := p }

/-- Deletes a span. -/
def deleteSpan (e : Editor) (s : Span) : Checked Editor :=
  let e := e.takeCheckpoint.recordTaken (e.buffer.slice s)
  moveTo { e with buffer := e.buffer.remove s } s.start

/-- Copies a span; the cursor goes to its start if the motion led back. -/
def yankSpan (e : Editor) (s : Span) (back : Prop) [Decidable back] : Checked Editor :=
  let e := e.recordTaken (e.buffer.slice s)
  Editor.takeCheckpoint <$> if back then moveTo e s.start else .ok e

/-- The span that an operator takes: grown to whole words under a modifier. -/
def spanTaken (e : Editor) (s : Span) : Checked Span :=
  if e.modifier.isSome then expandWord e.buffer s else .ok s

/-- Applies the pending operator to the characters between two offsets. -/
def applyRange (e : Editor) (source target : Nat) : Checked Editor := do
  let span ← spanTaken e (.ordered source target)
  let bare := { e with operator := none, modifier := none }
  let operated ← (match e.operator with
    | some .delete => deleteSpan bare span
    | some .change => Editor.enterInsert <$> deleteSpan bare span
    | some .yank => yankSpan bare span (target < source)
    | none => moveTo bare target)
  return { operated with selected := none }

theorem moveTo_ok (e : Editor) (offset : Nat) : moveTo e offset = .ok (e.moveTo offset) := by
  rw [moveTo, positionAt_ok]
  rfl

theorem deleteSpan_ok (e : Editor) (s : Span) : deleteSpan e s = .ok (e.deleteSpan s) :=
  moveTo_ok _ _

theorem yankSpan_ok (e : Editor) (s : Span) (back : Prop) [Decidable back] :
    yankSpan e s back =
      .ok (if back then (e.recordTaken (e.buffer.slice s)).moveTo s.start
        else e.recordTaken (e.buffer.slice s)).takeCheckpoint := by
  unfold yankSpan
  dsimp only
  split
  · rw [moveTo_ok, map_ok]
  · rfl

theorem spanTaken_ok (hb : e.buffer.Fits) {s : Span} (hs : s.stop ≤ e.buffer.length) :
    spanTaken e s = .ok (if e.modifier.isSome then e.buffer.expandWord s else s) := by
  unfold spanTaken
  split
  · exact expandWord_ok hb hs
  · rfl

theorem applyRange_ok (hb : e.buffer.Fits) {source target : Nat}
    (hsource : source ≤ e.buffer.length) (htarget : target ≤ e.buffer.length) :
    applyRange e source target = .ok (e.applyRange source target) := by
  have hstop : (Span.ordered source target).stop ≤ e.buffer.length := by
    rw [Span.ordered_stop]
    omega
  unfold applyRange Editor.applyRange
  rw [spanTaken_ok hb hstop, ok_bind]
  cases e.operator with
  | none =>
    dsimp only
    rw [moveTo_ok]
    rfl
  | some op =>
    cases op with
    | delete =>
      dsimp only
      rw [deleteSpan_ok]
      rfl
    | change =>
      dsimp only
      rw [deleteSpan_ok]
      rfl
    | yank =>
      dsimp only
      rw [yankSpan_ok]
      rfl

/-! ### Ranges of rows -/

/-- The rows from `first` to `last`, each with a newline. -/
def rowsText (b : Buffer) (first last : Nat) : Checked Text := do
  let rows ← (List.range' first (last + 1 - first)).mapM (rowText b)
  return rows.flatMap (· ++ ['\n'])

/-- The span of whole rows. -/
def rowsSpan (b : Buffer) (first last : Nat) : Checked Span := do
  let start ← rowStart b first
  let stop ← rowEnd b last
  if last < b.lastRow then
    let next ← add stop 1
    return ⟨start, next⟩
  else return ⟨if 0 < first then start - 1 else start, stop⟩

/-- Puts the cursor where the indentation of a row ends. -/
def moveToIndent (e : Editor) (row : Nat) : Checked Editor := do
  let stop ← firstNonBlank e.buffer row
  let start ← rowStart e.buffer row
  let col ← sub stop start
  return { e with cursor := ⟨row, col⟩ }

/-- Deletes whole rows. -/
def deleteRows (e : Editor) (first last : Nat) : Checked Editor := do
  let taken ← rowsText e.buffer first last
  let span ← rowsSpan e.buffer first last
  let e := e.takeCheckpoint.recordTaken taken
  let e := { e with buffer := e.buffer.remove span }
  moveToIndent e (min first e.buffer.lastRow)

/-- Replaces whole rows by the indentation of the first. -/
def changeRows (e : Editor) (first last : Nat) : Checked Editor := do
  let taken ← rowsText e.buffer first last
  let start ← rowStart e.buffer first
  let stop ← rowEnd e.buffer last
  let text ← rowText e.buffer first
  let indent := leadingBlanks text
  let e := e.takeCheckpoint.recordTaken taken
  return { e with
    buffer := e.buffer.replace ⟨start, stop⟩ indent
    cursor := ⟨first, indent.length⟩ }.enterInsert

/-- Copies whole rows. -/
def yankRows (e : Editor) (first last : Nat) : Checked Editor := do
  let taken ← rowsText e.buffer first last
  let e := e.recordTaken taken
  return { e with cursor := ⟨min e.cursor.row first, e.cursor.col⟩ }.takeCheckpoint

/-- Applies the pending operator to the rows from `first` to `last`, moved into the buffer. -/
def applyRows (e : Editor) (first last : Nat) : Checked Editor := do
  let first := min first e.buffer.lastRow
  let last ← clamp last first e.buffer.lastRow
  let bare := { e with operator := none, modifier := none }
  let operated ← (match e.operator with
    | some .delete => deleteRows bare first last
    | some .change => changeRows bare first last
    | some .yank => yankRows bare first last
    | none => .ok bare)
  return { operated with selected := none }

section

variable {b : Buffer} {first last : Nat}

theorem rowsText_ok (h : last ≤ b.lastRow) :
    rowsText b first last = .ok (b.rowsText first last) := by
  have hrows : (List.range' first (last + 1 - first)).mapM (rowText b) =
      .ok ((List.range' first (last + 1 - first)).map b.rowText) :=
    mapM_ok fun row hrow => rowText_ok (by rw [List.mem_range'_1] at hrow; omega)
  simp only [rowsText, hrows, ok_bind, pure_eq_ok, Buffer.rowsText, List.flatMap_map]

theorem rowsSpan_ok (hb : b.Fits) (hfirst : first ≤ b.lastRow) (hlast : last ≤ b.lastRow) :
    rowsSpan b first last = .ok (b.rowsSpan first last) := by
  have hend := Buffer.rowStart_add_rowLength_le hlast
  have hword := hb.two_mul_lt
  have hnext : add (b.rowEnd last) 1 = .ok (b.rowEnd last + 1) :=
    add_ok (by rw [Buffer.rowEnd_eq hlast]; omega)
  simp only [rowsSpan, rowStart_ok hfirst, rowEnd_ok hb hlast, ok_bind, hnext, pure_eq_ok,
    Buffer.rowsSpan]
  split <;> rfl

theorem moveToIndent_ok (hb : e.buffer.Fits) {row : Nat} (h : row ≤ e.buffer.lastRow) :
    moveToIndent e row = .ok (e.moveToIndent row) := by
  simp only [moveToIndent, firstNonBlank_ok hb h, rowStart_ok h, ok_bind, Buffer.firstNonBlank_eq h,
    sub_ok (Nat.le_add_right _ _), Nat.add_sub_cancel_left]
  rfl

theorem deleteRows_ok (hb : e.buffer.Fits) (hfirst : first ≤ e.buffer.lastRow)
    (hlast : last ≤ e.buffer.lastRow) :
    deleteRows e first last = .ok (e.deleteRows first last) := by
  simp only [deleteRows, rowsText_ok hlast, rowsSpan_ok hb hfirst hlast, ok_bind]
  exact moveToIndent_ok (Nat.lt_of_le_of_lt (Buffer.length_remove_le _ _) hb) (Nat.min_le_right _ _)

theorem changeRows_ok (hb : e.buffer.Fits) (hfirst : first ≤ e.buffer.lastRow)
    (hlast : last ≤ e.buffer.lastRow) :
    changeRows e first last = .ok (e.changeRows first last) := by
  simp only [changeRows, rowsText_ok hlast, rowStart_ok hfirst, rowEnd_ok hb hlast,
    rowText_ok hfirst, ok_bind]
  rfl

theorem yankRows_ok (hlast : last ≤ e.buffer.lastRow) :
    yankRows e first last = .ok (e.yankRows first last) := by
  simp only [yankRows, rowsText_ok hlast, ok_bind]
  rfl

theorem applyRows_ok (hb : e.buffer.Fits) (first last : Nat) :
    applyRows e first last = .ok (e.applyRows first last) := by
  have hfirst := Nat.min_le_right first e.buffer.lastRow
  have hlast : min (max last (min first e.buffer.lastRow)) e.buffer.lastRow ≤ e.buffer.lastRow :=
    Nat.min_le_right _ _
  unfold applyRows Editor.applyRows
  dsimp only
  rw [clamp_ok hfirst, ok_bind]
  cases e.operator with
  | none => rfl
  | some op =>
    cases op with
    | delete =>
      dsimp only
      rw [deleteRows_ok (e := { e with operator := none, modifier := none }) hb hfirst hlast]
      rfl
    | change =>
      dsimp only
      rw [changeRows_ok (e := { e with operator := none, modifier := none }) hb hfirst hlast]
      rfl
    | yank =>
      dsimp only
      rw [yankRows_ok (e := { e with operator := none, modifier := none }) hlast]
      rfl

end

/-! ### Rectangles -/

/-- The pieces that a rectangle cuts out of its rows. -/
def blockSpans (b : Buffer) (top bottom left right : Nat) : Checked (List Span) :=
  (List.range' top (min bottom b.lastRow + 1 - top)).mapM fun row => do
    let start ← offsetAt b ⟨row, left⟩
    let stop ← offsetAt b ⟨row, saturatingAdd right 1⟩
    return ⟨start, stop⟩

/-- Cuts the pieces of a rectangle. -/
def deleteBlock (e : Editor) (top left : Nat) (spans : List Span) : Checked Editor := do
  let edited := spans.foldr (fun s b => b.remove s) e.buffer
  let length ← rowLength edited top
  return { e.takeCheckpoint with buffer := edited, cursor := ⟨top, min left length⟩ }

/-- Applies the pending operator to a rectangle. -/
def applyBlock (e : Editor) (top bottom left right : Nat) : Checked Editor := do
  let spans ← blockSpans e.buffer top bottom left right
  let taken := List.intercalate ['\n'] (spans.map e.buffer.slice)
  let bare := { e with operator := none, modifier := none }
  let operated ← (match e.operator with
    | some .delete => (·.recordTaken taken) <$> deleteBlock bare top left spans
    | some .change => (·.recordTaken taken |>.enterInsert) <$> deleteBlock bare top left spans
    | some .yank => .ok { bare.recordTaken taken with cursor := ⟨top, left⟩ }.takeCheckpoint
    | none => .ok bare)
  return { operated with selected := none }

theorem blockSpans_ok {b : Buffer} (hb : b.Fits) (top bottom left right : Nat) :
    blockSpans b top bottom left right = .ok (b.blockSpans top bottom left right) := by
  have hword := hb.two_mul_lt
  have hright (row : Nat) :
      b.offsetAt ⟨row, saturatingAdd right 1⟩ = b.offsetAt ⟨row, right + 1⟩ := by
    have hlength := b.rowLength_le_length (min row b.lastRow)
    simp only [Buffer.offsetAt, min_saturatingAdd
      (show b.rowLength (min row b.lastRow) ≤ maxCount by omega)]
  exact mapM_ok fun row _ => by simp only [offsetAt_ok hb, ok_bind, pure_eq_ok, hright]

/-- Cutting a rectangle keeps its first row. -/
theorem le_lastRow_of_blockSpans {b : Buffer} {top : Nat} (htop : top ≤ b.lastRow)
    (bottom left right : Nat) :
    top ≤ ((b.blockSpans top bottom left right).foldr (fun s acc => acc.remove s) b).lastRow := by
  refine Buffer.le_lastRow_of_take_eq htop (Buffer.take_foldr_remove fun s hs => ?_)
  obtain ⟨row, hrow, rfl⟩ := List.mem_map.1 hs
  rw [List.mem_range'_1] at hrow
  have hstart : b.rowStart top ≤ b.rowStart (min row b.lastRow) :=
    Buffer.rowStart_le_rowStart (by omega) (Nat.min_le_right _ _)
  exact Nat.le_trans hstart (Nat.le_add_right _ _)

theorem deleteBlock_ok {top : Nat} (htop : top ≤ e.buffer.lastRow) (bottom left right : Nat) :
    deleteBlock e top left (e.buffer.blockSpans top bottom left right) =
      .ok (e.deleteBlock top left (e.buffer.blockSpans top bottom left right)) := by
  simp only [deleteBlock, rowLength_ok (le_lastRow_of_blockSpans htop bottom left right), ok_bind]
  rfl

theorem applyBlock_ok (hb : e.buffer.Fits) {top : Nat} (htop : top ≤ e.buffer.lastRow)
    (bottom left right : Nat) :
    applyBlock e top bottom left right = .ok (e.applyBlock top bottom left right) := by
  have hdelete :=
    deleteBlock_ok (e := { e with operator := none, modifier := none }) htop bottom left right
  unfold applyBlock Editor.applyBlock
  rw [blockSpans_ok hb, ok_bind]
  cases e.operator with
  | none => rfl
  | some op =>
    cases op with
    | delete =>
      dsimp only
      rw [hdelete]
      rfl
    | change =>
      dsimp only
      rw [hdelete]
      rfl
    | yank => rfl

/-! ### Insert sessions -/

/-- Opens a row below or above that of the cursor. -/
def openRow (e : Editor) (below : Bool) : Checked Editor := do
  let row := e.cursor.row
  let text ← rowText e.buffer row
  let indent := leadingBlanks text
  let started := { e.takeCheckpoint with repeatCount := none }
  if below then
    let offset ← rowEnd e.buffer row
    let next ← add row 1
    return { started with
      buffer := e.buffer.insert offset ('\n' :: indent)
      cursor := ⟨next, indent.length⟩ }.enterInsert
  else
    let offset ← rowStart e.buffer row
    return { started with
      buffer := e.buffer.insert offset (indent ++ ['\n'])
      cursor := ⟨row, indent.length⟩ }.enterInsert

/-- Types a character. -/
def typeChar (e : Editor) (c : Char) : Checked Editor := do
  let offset ← offsetAt e.buffer e.cursor
  let col ← add e.cursor.col 1
  return { e with
    buffer := e.buffer.insert offset [c]
    cursor := ⟨e.cursor.row, col⟩ }.recordTyped [c]

/-- Starts a new row. -/
def typeNewline (e : Editor) : Checked Editor := do
  let offset ← offsetAt e.buffer e.cursor
  let text ← rowText e.buffer e.cursor.row
  let indent := leadingBlanks text
  let row ← add e.cursor.row 1
  return { e with
    buffer := e.buffer.insert offset ('\n' :: indent)
    cursor := ⟨row, indent.length⟩ }.recordTyped ['\n']

/-- Removes the character before the cursor, if there is one. -/
def eraseBack (e : Editor) : Checked Editor := do
  let here ← offsetAt e.buffer e.cursor
  if here = 0 then return e
  else
    let previous ← sub here 1
    Editor.unrecordTyped <$> moveTo { e with buffer := e.buffer.remove ⟨previous, here⟩ } previous

/-- A key in insert mode. -/
def insertKey (e : Editor) : Key → Checked Editor
  | .char c => typeChar e c
  | .enter => typeNewline e
  | .backspace => eraseBack e
  | _ => .ok e

theorem openRow_ok (h : InText e) (below : Bool) : openRow e below = .ok (e.openRow below) := by
  have hword := h.fits.two_mul_lt
  have hrow := h.row_le
  have hrows := e.buffer.lastRow_le_length
  cases below with
  | true =>
    simp only [openRow, rowText_ok hrow, ok_bind, if_true, rowEnd_ok h.fits hrow,
      add_ok (show e.cursor.row + 1 ≤ maxCount by omega)]
    rfl
  | false =>
    simp only [openRow, rowText_ok hrow, ok_bind, Bool.false_eq_true, if_false, rowStart_ok hrow]
    rfl

theorem typeChar_ok (h : InText e) (c : Char) : typeChar e c = .ok (e.typeChar c) := by
  have hword := h.fits.two_mul_lt
  have hcol := h.rowStart_add_col_le
  simp only [typeChar, offsetAt_ok h.fits, ok_bind,
    add_ok (show e.cursor.col + 1 ≤ maxCount by omega)]
  rfl

theorem typeNewline_ok (h : InText e) : typeNewline e = .ok e.typeNewline := by
  have hword := h.fits.two_mul_lt
  have hrow := h.row_le
  have hrows := e.buffer.lastRow_le_length
  simp only [typeNewline, offsetAt_ok h.fits, rowText_ok hrow, ok_bind,
    add_ok (show e.cursor.row + 1 ≤ maxCount by omega)]
  rfl

theorem eraseBack_ok (hb : e.buffer.Fits) : eraseBack e = .ok e.eraseBack := by
  unfold eraseBack Editor.eraseBack Editor.cursorOffset
  rw [offsetAt_ok hb, ok_bind]
  by_cases hzero : e.buffer.offsetAt e.cursor = 0
  · rw [if_pos hzero, if_pos hzero]
    rfl
  · rw [if_neg hzero, if_neg hzero, sub_ok (Nat.one_le_iff_ne_zero.2 hzero), ok_bind, moveTo_ok]
    rfl

theorem insertKey_ok (h : InText e) (key : Key) : insertKey e key = .ok (e.insertKey key) := by
  cases key with
  | char c => exact typeChar_ok h c
  | enter => exact typeNewline_ok h
  | backspace => exact eraseBack_ok h.fits
  | _ => rfl

/-! ### Single characters -/

/-- Deletes the character under the cursor and those after it in the row. -/
def deleteUnder (e : Editor) : Checked Editor := do
  let start ← rowStart e.buffer e.cursor.row
  let length ← rowLength e.buffer e.cursor.row
  let first ← add start e.cursor.col
  let stop ← add start (min (saturatingAdd e.cursor.col e.count) length)
  return e.dropCounts.removeChars ⟨first, stop⟩

/-- Deletes the characters before the cursor in the row. -/
def deleteBefore (e : Editor) : Checked Editor := do
  let start ← rowStart e.buffer e.cursor.row
  let first ← add start (e.cursor.col - e.count)
  let stop ← add start e.cursor.col
  let span : Span := ⟨first, stop⟩
  if span.isEmpty then return e.dropCounts
  else
    let col ← sub e.cursor.col span.length
    return { e.dropCounts.removeChars span with cursor := ⟨e.cursor.row, col⟩ }

/-- Overwrites characters of the row by one character. -/
def replaceChars (e : Editor) (c : Char) : Checked Editor := do
  let length ← rowLength e.buffer e.cursor.row
  if length < saturatingAdd e.cursor.col e.count then return e.dropCounts
  else
    let start ← rowStart e.buffer e.cursor.row
    let first ← add start e.cursor.col
    let stop ← add first e.count
    let col ← add e.cursor.col (e.count - 1)
    return { e.dropCounts.takeCheckpoint with
      buffer := e.buffer.replace ⟨first, stop⟩ (List.replicate e.count c)
      cursor := ⟨e.cursor.row, col⟩ }

theorem deleteUnder_ok (h : InText e) : deleteUnder e = .ok e.deleteUnder := by
  have hword := h.fits.two_mul_lt
  have hend := Buffer.rowStart_add_rowLength_le h.row_le
  have hcol := h.col_le
  have hbound : e.buffer.rowLength e.cursor.row ≤ maxCount := by omega
  have hfirst : add (e.buffer.rowStart e.cursor.row) e.cursor.col = _ := add_ok (by omega)
  have hstop : add (e.buffer.rowStart e.cursor.row)
      (min (e.cursor.col + e.count) (e.buffer.rowLength e.cursor.row)) = _ := add_ok (by omega)
  simp only [deleteUnder, rowStart_ok h.row_le, rowLength_ok h.row_le, ok_bind,
    hfirst, min_saturatingAdd hbound, hstop]
  rfl

/-- Where nothing is taken, the cursor goes back by nothing. -/
theorem removeChars_of_isEmpty {s : Span} (h : s.isEmpty = true) :
    { e.removeChars s with cursor := ⟨e.cursor.row, e.cursor.col - s.length⟩ } = e := by
  rw [Editor.removeChars, if_pos h, Span.length_eq_zero_iff.2 h]
  rfl

theorem deleteBefore_ok (h : InText e) : deleteBefore e = .ok e.deleteBefore := by
  have hword := h.fits.two_mul_lt
  have hend := h.rowStart_add_col_le
  have hfirst : add (e.buffer.rowStart e.cursor.row) (e.cursor.col - e.count) = _ :=
    add_ok (by omega)
  have hstop : add (e.buffer.rowStart e.cursor.row) e.cursor.col = _ := add_ok (by omega)
  simp only [deleteBefore, rowStart_ok h.row_le, ok_bind, hfirst, hstop]
  split
  · rename_i hempty
    exact congrArg Except.ok (removeChars_of_isEmpty (e := e.dropCounts) hempty).symm
  · rw [sub_ok (by simp only [Span.length]; omega)]
    rfl

theorem replaceChars_ok (h : InText e) (c : Char) :
    replaceChars e c = .ok (e.replaceChars c) := by
  have hword := h.fits.two_mul_lt
  have hend := Buffer.rowStart_add_rowLength_le h.row_le
  have hshort : e.buffer.rowLength e.cursor.row < saturatingAdd e.cursor.col e.count ↔
      e.buffer.rowLength e.cursor.row < e.cursor.col + e.count := by
    unfold saturatingAdd
    omega
  simp only [replaceChars, rowLength_ok h.row_le, rowStart_ok h.row_le, ok_bind, hshort]
  unfold Editor.replaceChars
  split
  · rename_i hlt
    exact congrArg Except.ok (if_pos hlt).symm
  · rename_i hcount
    have hfirst : add (e.buffer.rowStart e.cursor.row) e.cursor.col = _ := add_ok (by omega)
    have hstop : add (e.buffer.rowStart e.cursor.row + e.cursor.col) e.count = _ :=
      add_ok (by omega)
    have hcol : add e.cursor.col (e.count - 1) = _ := add_ok (by omega)
    rw [hfirst, ok_bind, hstop, ok_bind, hcol]
    exact congrArg Except.ok (if_neg hcount).symm

/-! ### Putting -/

/-- Puts whole rows above or below the row of the cursor. -/
def putRows (e : Editor) (content : Text) (after : Bool) : Checked Editor := do
  let b := e.buffer
  let row := e.cursor.row
  if !after then
    let offset ← rowStart b row
    moveToIndent { e with buffer := b.insert offset content } row
  else
    let next ← add row 1
    if row < b.lastRow then
      let offset ← rowStart b next
      moveToIndent { e with buffer := b.insert offset content } next
    else
      let offset ← rowEnd b row
      moveToIndent { e with buffer := b.insert offset ('\n' :: content.dropLast) } next

/-- Where characters are put. -/
def putOffset (e : Editor) (after : Bool) : Checked Nat := do
  let here ← offsetAt e.buffer e.cursor
  let length ← rowLength e.buffer e.cursor.row
  if after && length != 0 then
    let next ← add here 1
    let stop ← rowEnd e.buffer e.cursor.row
    return min next stop
  else return here

/-- Puts characters at the cursor or after it. -/
def putChars (e : Editor) (content : Text) (after : Bool) : Checked Editor := do
  let offset ← putOffset e after
  let stop ← add offset content.length
  let last ← sub stop 1
  moveTo { e with buffer := e.buffer.insert offset content } last

/-- Puts the text of a register, as often as the count says. -/
def put (e : Editor) (after : Bool) : Checked Editor :=
  let count := e.count
  let stored := e.registers.read (e.selected.getD unnamedRegister)
  let e := { e.dropCounts with selected := none }
  if stored.isEmpty || maxCount < Editor.byteSize stored * count then .ok e
  else
    let content := (List.replicate count stored).flatten
    let e := e.takeCheckpoint
    if isLinewise content then putRows e content after else putChars e content after

theorem exists_of_isLinewise {t : Text} (h : isLinewise t = true) : ∃ s, t = s ++ ['\n'] := by
  have hlast : t.getLast? = some '\n' := by simpa [isLinewise] using h
  obtain ⟨s, hs⟩ := List.getLast?_eq_some_iff.1 hlast
  exact ⟨s, hs⟩

theorem putRows_ok (h : InText e) {content : Text} (hcontent : isLinewise content = true)
    (after : Bool) (hafter : (e.putRows content after).buffer.Fits) :
    putRows e content after = .ok (e.putRows content after) := by
  have hword := h.fits.two_mul_lt
  have hrow := h.row_le
  have hrows := e.buffer.lastRow_le_length
  obtain ⟨s, rfl⟩ := exists_of_isLinewise hcontent
  have hnext : add e.cursor.row 1 = _ := add_ok (by omega)
  unfold putRows
  unfold Editor.putRows at hafter ⊢
  dsimp only at hafter ⊢
  cases after with
  | false =>
    simp only [Bool.not_false, if_true, rowStart_ok hrow, ok_bind] at hafter ⊢
    refine moveToIndent_ok ?_ ?_
    · exact hafter
    · exact Nat.le_trans hrow (by rw [Buffer.lastRow_insert]; exact Nat.le_add_right _ _)
  | true =>
    simp only [Bool.not_true, Bool.false_eq_true, if_false, hnext, ok_bind] at hafter ⊢
    split
    · rename_i hlt
      rw [if_pos hlt] at hafter
      rw [rowStart_ok (Nat.succ_le_of_lt hlt), ok_bind]
      refine moveToIndent_ok ?_ ?_
      · exact hafter
      · exact Nat.le_trans hlt (by rw [Buffer.lastRow_insert]; exact Nat.le_add_right _ _)
    · rename_i hlt
      rw [if_neg hlt] at hafter
      rw [rowEnd_ok h.fits hrow, ok_bind]
      -- the newline in front makes the row
      have hinsert := e.buffer.lastRow_insert (e.buffer.rowEnd e.cursor.row)
        ('\n' :: (s ++ ['\n']).dropLast)
      rw [List.count_cons_self] at hinsert
      refine moveToIndent_ok ?_ ?_
      · exact hafter
      · exact Nat.le_trans (Nat.succ_le_succ hrow) (by rw [hinsert]; omega)

theorem putOffset_ok (h : InText e) (after : Bool) :
    putOffset e after =
      .ok (if after && e.buffer.rowLength e.cursor.row != 0 then
          min (e.cursorOffset + 1) (e.buffer.rowEnd e.cursor.row)
        else e.cursorOffset) := by
  have hword := h.fits.two_mul_lt
  have hhere := e.buffer.offsetAt_le_length e.cursor
  have hnext : add (e.buffer.offsetAt e.cursor) 1 = _ := add_ok (by omega)
  simp only [putOffset, offsetAt_ok h.fits, rowLength_ok h.row_le, rowEnd_ok h.fits h.row_le, hnext,
    ok_bind, pure_eq_ok, Editor.cursorOffset]
  split <;> rfl

theorem putChars_ok (h : InText e) {content : Text} (hcontent : content ≠ []) (after : Bool)
    (hafter : (e.putChars content after).buffer.Fits) :
    putChars e content after = .ok (e.putChars content after) := by
  have hhere : e.cursorOffset ≤ e.buffer.length := e.buffer.offsetAt_le_length e.cursor
  have hlength := List.length_pos_iff.2 hcontent
  have hinserted : 2 * (e.buffer.length + content.length) < maxCount := by
    rw [← Buffer.length_insert]
    exact hafter.two_mul_lt
  unfold putChars
  rw [putOffset_ok h, ok_bind]
  have hsum : (if (after && e.buffer.rowLength e.cursor.row != 0) = true then
      min (e.cursorOffset + 1) (e.buffer.rowEnd e.cursor.row)
      else e.cursorOffset) + content.length ≤ maxCount := by
    split <;> omega
  rw [add_ok hsum, ok_bind, sub_ok (by omega), ok_bind, moveTo_ok]
  rfl

theorem put_ok (h : InText e) (after : Bool) (hcount : e.count ≠ 0)
    (hafter : (e.put after).buffer.Fits) : put e after = .ok (e.put after) := by
  unfold put
  unfold Editor.put at hafter ⊢
  dsimp only at hafter ⊢
  split
  · rfl
  · rename_i hstored
    rw [if_neg hstored] at hafter
    have hin : InText (Editor.takeCheckpoint { e.dropCounts with selected := none }) :=
      h.of_eq rfl rfl
    split
    · rename_i hline
      rw [if_pos hline] at hafter
      exact putRows_ok hin hline after hafter
    · rename_i hline
      rw [if_neg hline] at hafter
      refine putChars_ok hin (fun hnil => hstored ?_) after hafter
      rw [List.flatten_eq_nil_iff] at hnil
      simp [hnil _ (List.mem_replicate.2 ⟨hcount, rfl⟩)]

end Checked

end ModalEditor
