import ModalEditor.Proofs.Places

/-!
# Two ways to name a place

Offsets and positions name the same places of a text in the same order, and both go by its rows: a
row starts behind a newline or at the start of the text, ends at the next newline or at the end of
the text, and has no newline inside (`Buffer.IsRowAt`). `Buffer.coordinates_agree` says all of it
for any text, with what becomes of an offset past the end, of a row past the last and of a column
past the end of its row.
-/

namespace ModalEditor

namespace Position

/-- The order of positions is total. -/
theorem lt_iff_not_le {p q : Position} : p < q ↔ ¬ q ≤ p := by
  rw [lt_def, le_iff]
  omega

end Position

namespace Buffer

variable {b : Buffer} {i j row : Nat}

/-- Further on is further down, or further right in the same row. -/
theorem positionAt_lt_positionAt_iff (hi : i ≤ b.length) (hj : j ≤ b.length) :
    b.positionAt i < b.positionAt j ↔ i < j := by
  rw [Position.lt_iff_not_le, positionAt_le_positionAt_iff hj hi, Nat.not_le]

/-- The rows are the texts of the rows, from the first to the last. -/
theorem map_rowText_range (b : Buffer) : (List.range b.lineCount).map b.rowText = b.rows := by
  refine List.ext_getElem (by simp [length_rows]) fun row _ hrow => ?_
  rw [List.getElem_map, List.getElem_range, rowText_eq, List.getElem?_eq_getElem hrow,
    Option.getD_some]

/-- **Where a row is**: what two offsets must satisfy for a row to reach from the one to the
other. -/
structure IsRowAt (b : Buffer) (row start stop : Nat) : Prop where
  /-- The row is in the text. -/
  inText : start ≤ stop ∧ stop ≤ b.length
  /-- Its number is that of the newlines before it. -/
  number : (b.text.take start).count '\n' = row
  /-- Its text is what stands there. -/
  text : b.slice ⟨start, stop⟩ = b.rowText row
  /-- No newline stands in it. -/
  unbroken : '\n' ∉ b.slice ⟨start, stop⟩
  /-- It starts with the text or behind a newline. -/
  before : start = 0 ∨ b.charAt? (start - 1) = some '\n'
  /-- It ends with the text or at a newline. -/
  after : stop = b.length ∨ b.charAt? stop = some '\n'

/-- A row is where its start and its end are said to be. -/
theorem isRowAt (h : row ≤ b.lastRow) : b.IsRowAt row (b.rowStart row) (b.rowEnd row) := by
  have hend := rowEnd_eq h
  have htext : b.slice ⟨b.rowStart row, b.rowEnd row⟩ = b.rowText row := by
    rw [slice, Span.length, hend, Nat.add_sub_cancel_left, drop_rowStart_eq h]
    exact List.take_left
  exact {
    inText := ⟨rowStart_le_rowEnd (Nat.le_refl row) h, hend ▸ rowStart_add_rowLength_le h⟩
    number := count_take_rowStart h
    text := htext
    unbroken := htext ▸ b.newline_notMem_rowText row
    before := (Nat.eq_zero_or_pos _).imp id (charAt?_before_rowStart h)
    after := by
      rcases Nat.lt_or_eq_of_le h with hlt | rfl
      · exact .inr (charAt?_rowEnd hlt)
      · exact .inl b.rowEnd_lastRow }

/-- The offsets that look up a row: those of the row, or none where there is no row. -/
theorem rowStart?_rowEnd?_eq (b : Buffer) (row : Nat) :
    (row < b.lineCount → b.rowStart? row = some (b.rowStart row) ∧
        b.rowEnd? row = some (b.rowEnd row)) ∧
      (b.lineCount ≤ row → b.rowStart? row = none ∧ b.rowEnd? row = none) := by
  constructor
  · intro h
    have hrow : row ≤ b.lastRow := Nat.le_of_lt_succ h
    have hstart := rowStart?_eq hrow
    exact ⟨hstart, by rw [rowEnd?, hstart, rowEnd_eq hrow]; rfl⟩
  · intro h
    have hnone : b.rowStart? row = none := by
      rw [← Option.not_isSome_iff_eq_none, isSome_rowStart?]
      exact Nat.not_le.2 h
    exact ⟨hnone, by rw [rowEnd?, hnone]; rfl⟩

/-- **Offsets and positions are two names for the same places.** In the text each conversion takes
back the other, and outside it goes by the nearest place; the further on, the further down, or the
further right in the same row. The rows with newlines between them are the text, and each reaches
from where it is said to start to where it is said to end. -/
theorem coordinates_agree (b : Buffer) :
    (∀ offset, offset ≤ b.length → b.offsetAt (b.positionAt offset) = offset) ∧
    (∀ row col, row < b.lineCount → col ≤ b.rowLength row →
      b.positionAt (b.offsetAt ⟨row, col⟩) = ⟨row, col⟩) ∧
    (∀ offset, b.positionAt offset = b.positionAt (min offset b.length)) ∧
    (∀ row col, b.offsetAt ⟨row, col⟩ =
      b.offsetAt ⟨min row b.lastRow, min col (b.rowLength (min row b.lastRow))⟩) ∧
    (∀ i j, i ≤ b.length → j ≤ b.length → (i < j ↔ b.positionAt i < b.positionAt j)) ∧
    List.intercalate ['\n'] ((List.range b.lineCount).map b.rowText) = b.text ∧
    (∀ row, row < b.lineCount → ∃ start stop, b.rowStart? row = some start ∧
      b.rowEnd? row = some stop ∧ b.IsRowAt row start stop) ∧
    (∀ row, b.lineCount ≤ row → b.rowStart? row = none ∧ b.rowEnd? row = none) := by
  refine ⟨?_, ?_, ?_, ?_, ?_, ?_, ?_, ?_⟩
  · exact fun offset h => offsetAt_positionAt h
  · exact fun row col hrow hcol => positionAt_offsetAt ⟨Nat.le_of_lt_succ hrow, hcol⟩
  · exact fun offset => (b.positionAt_min offset).symm
  · intro row col
    simp only [offsetAt, Nat.min_assoc, Nat.min_self]
  · exact fun i j hi hj => (positionAt_lt_positionAt_iff hi hj).symm
  · rw [map_rowText_range]
    exact intercalate_splitRows b.text
  · intro row hrow
    obtain ⟨hstart, hend⟩ := (b.rowStart?_rowEnd?_eq row).1 hrow
    exact ⟨_, _, hstart, hend, isRowAt (Nat.le_of_lt_succ hrow)⟩
  · exact fun row => (b.rowStart?_rowEnd?_eq row).2

/-- An empty row, and a newline at the end, behind which there is one more row. -/
theorem coordinates_agree_empty_rows :
    let b : Buffer := ⟨['a', '\n', '\n', 'é', '\n']⟩
    b.lineCount = 4 ∧ b.length = 5 ∧
      b.positionAt 5 = ⟨3, 0⟩ ∧ b.offsetAt (b.positionAt 5) = 5 ∧
      b.offsetAt ⟨1, 0⟩ = 2 ∧ b.positionAt (b.offsetAt ⟨1, 0⟩) = ⟨1, 0⟩ ∧
      b.positionAt 1 < b.positionAt 2 ∧
      (∃ start stop, b.rowStart? 3 = some start ∧ b.rowEnd? 3 = some stop ∧
        b.IsRowAt 3 start stop) ∧
      b.rowStart? 4 = none ∧ b.rowEnd? 4 = none := by
  intro b
  obtain ⟨hoffset, hposition, -, -, hlt, -, hrow, hnone⟩ := b.coordinates_agree
  exact ⟨rfl, rfl, rfl, hoffset 5 (by decide), rfl, hposition 1 0 (by decide) (by decide),
    (hlt 1 2 (by decide) (by decide)).1 (by decide), hrow 3 (by decide), hnone 4 (by decide)⟩

end Buffer

end ModalEditor
