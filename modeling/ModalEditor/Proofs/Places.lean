import ModalEditor.Proofs.Rows
import ModalEditor.Proofs.Runs

/-!
# Offsets and positions

In the text offsets and positions name the same places: each conversion takes back the other
(`Buffer.offsetAt_positionAt`, `Buffer.positionAt_offsetAt`). They also have the same order, because
a row ends before the next one starts: of two offsets the one further on has the position further
down, or further right in the same row (`Buffer.offsetAt_le_offsetAt_iff`,
`Buffer.positionAt_mono`). A cursor that is in order is such a place.
-/

namespace ModalEditor

namespace Position

variable {p q r : Position}

theorem le_iff : p ≤ q ↔ p.row < q.row ∨ p.row = q.row ∧ p.col ≤ q.col := by
  have heq : p = q ↔ p.row = q.row ∧ p.col = q.col := by
    cases p
    cases q
    simp
  rw [le_def, lt_def, heq]
  omega

theorem le_refl (p : Position) : p ≤ p := .inr rfl

theorem le_trans (h : p ≤ q) (h' : q ≤ r) : p ≤ r := by
  rw [le_iff] at h h' ⊢
  omega

theorem le_antisymm (h : p ≤ q) (h' : q ≤ p) : p = q := by
  rw [le_iff] at h h'
  cases p
  cases q
  simp only [mk.injEq]
  dsimp only at h h'
  omega

end Position

/-- A position is no further on than its offset says. -/
theorem positionFrom_take (row col n : Nat) (t : Text) :
    positionFrom row col n (t.take n) = positionFrom row col n t := by
  induction t generalizing row col n with
  | nil => rw [List.take_nil]
  | cons c t ih =>
    cases n with
    | zero => rfl
    | succ n => simp only [List.take_succ_cons, positionFrom, ih]

namespace Buffer

variable {b : Buffer} {p q : Position} {offset i j : Nat}

/-- A position is that of a character of its row, or of the end of the row. -/
def Has (b : Buffer) (p : Position) : Prop := p.row ≤ b.lastRow ∧ p.col ≤ b.rowLength p.row

instance (b : Buffer) (p : Position) : Decidable (b.Has p) := inferInstanceAs (Decidable (_ ∧ _))

theorem offsetAt_of_has (h : b.Has p) : b.offsetAt p = b.rowStart p.row + p.col := by
  rw [offsetAt, Nat.min_eq_left h.1, Nat.min_eq_left h.2]

/-- Where a position is does not depend on what follows it. -/
theorem positionAt_congr {b' : Buffer} (h : b'.text.take offset = b.text.take offset) :
    b'.positionAt offset = b.positionAt offset := by
  rw [positionAt, ← positionFrom_take, h, positionFrom_take, positionAt]

/-- The end of the text is as far as offsets go. -/
theorem positionAt_min (b : Buffer) (offset : Nat) :
    b.positionAt (min offset b.length) = b.positionAt offset := by
  have htake : b.text.take (min offset b.length) = b.text.take offset :=
    List.take_eq_take_min.symm
  rw [(positionAt_eq b _).2, (positionAt_eq b offset).2, htake, Nat.min_assoc, Nat.min_self]

/-- The position of an offset in the text has that offset. -/
theorem offsetAt_positionAt (h : offset ≤ b.length) :
    b.offsetAt (b.positionAt offset) = offset := by
  obtain ⟨hsum, hcol⟩ := positionAt_bounds h
  rw [offsetAt_of_has ⟨positionAt_row_le b offset, hcol⟩, hsum]

theorem offsetAt_positionAt_eq_min (b : Buffer) (offset : Nat) :
    b.offsetAt (b.positionAt offset) = min offset b.length := by
  rw [← positionAt_min, offsetAt_positionAt (Nat.min_le_right _ _)]

theorem has_positionAt (b : Buffer) (offset : Nat) : b.Has (b.positionAt offset) := by
  rw [← positionAt_min]
  exact ⟨positionAt_row_le b _, (positionAt_bounds (Nat.min_le_right _ _)).2⟩

theorem rowEnd_lt_rowStart {row row' : Nat} (h : row < row') (h' : row' ≤ b.lastRow) :
    b.rowEnd row < b.rowStart row' := by
  have hle : b.rowStart (row + 1) ≤ b.rowStart row' := rowStart_le_rowStart h h'
  rw [rowStart_succ (Nat.lt_of_lt_of_le h h')] at hle
  exact hle

theorem offsetAt_lt_of_row_lt (hp : b.Has p) (hq : b.Has q) (h : p.row < q.row) :
    b.offsetAt p < b.offsetAt q := by
  have hlt := rowEnd_lt_rowStart h hq.1
  have hend := rowEnd_eq hp.1
  have hcol := hp.2
  rw [offsetAt_of_has hp, offsetAt_of_has hq]
  omega

/-- **Offsets are ordered as positions are.** -/
theorem offsetAt_le_offsetAt_iff (hp : b.Has p) (hq : b.Has q) :
    b.offsetAt p ≤ b.offsetAt q ↔ p ≤ q := by
  rw [Position.le_iff]
  rcases Nat.lt_trichotomy p.row q.row with hlt | heq | hgt
  · have hoffset := offsetAt_lt_of_row_lt hp hq hlt
    omega
  · have hstart : b.rowStart p.row = b.rowStart q.row := by rw [heq]
    rw [offsetAt_of_has hp, offsetAt_of_has hq]
    omega
  · have hoffset := offsetAt_lt_of_row_lt hq hp hgt
    omega

theorem offsetAt_le_iff (hp : b.Has p) (h : offset ≤ b.length) :
    b.offsetAt p ≤ offset ↔ p ≤ b.positionAt offset := by
  rw [← offsetAt_le_offsetAt_iff hp (b.has_positionAt offset), offsetAt_positionAt h]

theorem le_offsetAt_iff (hp : b.Has p) (h : offset ≤ b.length) :
    offset ≤ b.offsetAt p ↔ b.positionAt offset ≤ p := by
  rw [← offsetAt_le_offsetAt_iff (b.has_positionAt offset) hp, offsetAt_positionAt h]

/-- A position in the text is that of its offset. -/
theorem positionAt_offsetAt (h : b.Has p) : b.positionAt (b.offsetAt p) = p := by
  have hhas := b.has_positionAt (b.offsetAt p)
  have hoffset := offsetAt_positionAt (b.offsetAt_le_length p)
  refine Position.le_antisymm ?_ ?_
  · exact (offsetAt_le_offsetAt_iff hhas h).1 (Nat.le_of_eq hoffset)
  · exact (offsetAt_le_offsetAt_iff h hhas).1 (Nat.le_of_eq hoffset.symm)

/-- A column of a row is in the row, also where it is cut off. -/
theorem row_positionAt_offsetAt {row : Nat} (h : row ≤ b.lastRow) (col : Nat) :
    (b.positionAt (b.offsetAt ⟨row, col⟩)).row = row := by
  have hhas : b.Has ⟨row, min col (b.rowLength row)⟩ := ⟨h, Nat.min_le_right _ _⟩
  have hoffset : b.offsetAt ⟨row, col⟩ = b.offsetAt ⟨row, min col (b.rowLength row)⟩ :=
    (offsetAt_eq h col).trans (offsetAt_of_has hhas).symm
  rw [hoffset, positionAt_offsetAt hhas]

theorem row_positionAt_firstNonBlank {row : Nat} (h : row ≤ b.lastRow) :
    (b.positionAt (b.firstNonBlank row)).row = row := by
  have hhas : b.Has ⟨row, (leadingBlanks (b.rowText row)).length⟩ :=
    ⟨h, b.length_leadingBlanks_le row⟩
  rw [firstNonBlank_eq h, ← offsetAt_of_has hhas, positionAt_offsetAt hhas]

/-- **Further on is further down, or further right in the same row.** -/
theorem positionAt_le_positionAt_iff (hi : i ≤ b.length) (hj : j ≤ b.length) :
    b.positionAt i ≤ b.positionAt j ↔ i ≤ j := by
  rw [← offsetAt_le_offsetAt_iff (b.has_positionAt i) (b.has_positionAt j), offsetAt_positionAt hi,
    offsetAt_positionAt hj]

theorem positionAt_mono (h : i ≤ j) : b.positionAt i ≤ b.positionAt j := by
  rw [← positionAt_min b i, ← positionAt_min b j,
    positionAt_le_positionAt_iff (Nat.min_le_right _ _) (Nat.min_le_right _ _)]
  omega

end Buffer

/-! ### The cursor -/

namespace Editor

variable {e : Editor}

theorem cursorOffset_eq (he : e.clampCursor = e) :
    e.cursorOffset = e.buffer.rowStart e.cursor.row + e.cursor.col := by
  obtain ⟨hrow, hcol⟩ := cursor_le_of_clampCursor_eq he
  simp only [cursorOffset, Buffer.offsetAt, Nat.min_eq_left hrow, Nat.min_eq_left hcol]

/-- In normal mode the cursor is on a character of its row, or the row is empty. -/
theorem col_lt_of_clampCursor_eq (he : e.clampCursor = e) (hm : e.mode = .normal) :
    e.cursor.col < e.buffer.rowLength e.cursor.row ∨
      e.cursor.col = 0 ∧ e.buffer.rowLength e.cursor.row = 0 := by
  have hrow := (cursor_le_of_clampCursor_eq he).1
  have hcol : min e.cursor.col (e.lastColumn (min e.cursor.row e.buffer.lastRow)) = e.cursor.col :=
    congrArg (·.cursor.col) he
  simp only [Nat.min_eq_left hrow, lastColumn, hm, Mode.cursorPastEnd, Bool.false_eq_true,
    if_false] at hcol
  omega

end Editor

end ModalEditor
