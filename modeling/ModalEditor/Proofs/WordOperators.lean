import ModalEditor.Proofs.Places
import ModalEditor.Proofs.TextObjects

/-!
# Words and the ends of rows

Under an operator a motion to a word is to stay in its row. The row that it stays in is that of the
last word but one (`Editor.wordTarget`), so the operator takes a newline just when the words before
the last one lead out of the row of the cursor; and with a modifier just when the cursor is on a
newline, in an empty row. `newline_not_taken_iff` says so. Both cases are decided by where a span
stops: one that starts in a row holds a newline just when it goes past the end of the row
(`Buffer.newline_mem_slice_iff`).
-/

namespace ModalEditor

namespace Buffer

variable {b : Buffer} {row offset : Nat} {s : Span}

/-! ### Newlines in spans -/

theorem getElem?_slice (b : Buffer) (s : Span) (i : Nat) :
    (b.slice s)[i]? = if i < s.length then b.charAt? (s.start + i) else none := by
  rw [slice, List.getElem?_take, List.getElem?_drop]
  rfl

/-- **A span that starts in a row holds a newline** just when it goes past the end of the row. -/
theorem newline_mem_slice_iff (hrow : row ≤ b.lastRow) (hstart : b.rowStart row ≤ s.start)
    (hend : s.start ≤ b.rowEnd row) (hstop : s.stop ≤ b.length) :
    '\n' ∈ b.slice s ↔ b.rowEnd row < s.stop := by
  constructor
  · intro hmem
    obtain ⟨i, hi⟩ := List.mem_iff_getElem?.1 hmem
    rw [getElem?_slice] at hi
    split at hi
    · rename_i hlt
      refine Nat.lt_of_not_le fun hle => ?_
      rw [rowEnd_eq hrow] at hle
      unfold Span.length at hlt
      have hcol : s.start + i - b.rowStart row < b.rowLength row := by omega
      refine charAt?_ne_newline hrow hcol ?_
      rwa [Nat.add_sub_cancel' (by omega)]
    · simp at hi
  · intro hlt
    have hnext : row < b.lastRow := by
      refine Nat.lt_of_le_of_ne hrow ?_
      rintro rfl
      rw [rowEnd_lastRow] at hlt
      omega
    refine List.mem_iff_getElem?.2 ⟨b.rowEnd row - s.start, ?_⟩
    have hinside : b.rowEnd row - s.start < s.length := by
      unfold Span.length
      omega
    rw [getElem?_slice, if_pos hinside, Nat.add_sub_cancel' hend, charAt?_rowEnd hnext]

theorem row_positionAt_eq_iff (hrow : row ≤ b.lastRow) (hstart : b.rowStart row ≤ offset)
    (h : offset ≤ b.length) : (b.positionAt offset).row = row ↔ offset ≤ b.rowEnd row := by
  constructor
  · intro heq
    obtain ⟨hsum, hcol⟩ := positionAt_bounds h
    rw [heq] at hsum hcol
    rw [rowEnd_eq hrow]
    omega
  · intro hle
    have hnone : '\n' ∉ b.slice ⟨b.rowStart row, offset⟩ := by
      rw [newline_mem_slice_iff hrow (Nat.le_refl _) ?_ h]
      · exact Nat.not_lt.2 hle
      · exact Nat.le_trans hstart hle
    have htake : b.text.take offset =
        b.text.take (b.rowStart row) ++ b.slice ⟨b.rowStart row, offset⟩ := by
      rw [slice, ← List.take_add, Span.length, Nat.add_sub_cancel' hstart]
    rw [(positionAt_eq b offset).2, htake, List.count_append, count_take_rowStart hrow,
      List.count_eq_zero.2 hnone, Nat.add_zero]

theorem rowEnd_lt_length_iff (hrow : row ≤ b.lastRow) :
    b.rowEnd row < b.length ↔ row < b.lastRow := by
  constructor
  · intro hlt
    refine Nat.lt_of_le_of_ne hrow ?_
    rintro rfl
    rw [rowEnd_lastRow] at hlt
    exact Nat.lt_irrefl _ hlt
  · intro hlt
    exact (List.getElem?_eq_some_iff.1 (charAt?_rowEnd hlt)).1

/-! ### Words further on -/

theorem le_nextWordStart (kind : WordKind) (h : offset ≤ b.length) :
    offset ≤ b.nextWordStart kind offset := by
  unfold nextWordStart
  dsimp only
  split
  · rename_i w hfind
    have hlt := List.find?_some hfind
    exact Nat.le_of_lt (by simpa using hlt)
  · exact h

theorem le_skipWords (kind : WordKind) (n : Nat) (h : offset ≤ b.length) :
    offset ≤ b.skipWords kind n offset := by
  induction n generalizing offset with
  | zero => exact Nat.le_refl _
  | succ n ih =>
    unfold skipWords
    split
    · exact Nat.le_refl _
    · exact Nat.le_trans (le_nextWordStart kind h) (ih (nextWordStart_le b kind h))

theorem le_wordEndAt? {kind : WordKind} {stop : Nat} (h : b.wordEndAt? kind offset = some stop) :
    offset ≤ stop := by
  unfold wordEndAt? at h
  split at h
  · rename_i w rest htokens
    split at h
    · rename_i hstart
      obtain rfl := Option.some.inj h
      have hbounds := bounds_of_mem_tokensFrom (htokens ▸ List.mem_cons_self)
      omega
    · simp at h
  · simp at h

/-- Up to a place that is cut off at the end of the row of an offset, no newline stands just when
this offset is still in the row of the start. -/
theorem newline_notMem_slice_min_iff (hrow : row ≤ b.lastRow) {source : Nat}
    (hstart : b.rowStart row ≤ source) (hend : source ≤ b.rowEnd row) (hle : source ≤ offset)
    (h : offset ≤ b.length) {stop : Nat} (hstop : offset ≤ stop) :
    let target := min stop (b.rowEnd (b.positionAt offset).row)
    source ≤ target ∧ target ≤ b.length ∧
      ('\n' ∉ b.slice ⟨source, target⟩ ↔ (b.positionAt offset).row = row) := by
  intro target
  have hbounds := positionAt_bounds h
  have hrow' := positionAt_row_le b offset
  have hlast := rowStart_add_rowLength_le hrow'
  rw [← rowEnd_eq hrow'] at hlast
  have hreach : offset ≤ b.rowEnd (b.positionAt offset).row := by
    rw [rowEnd_eq hrow']
    omega
  have htarget : offset ≤ target := Nat.le_min.2 ⟨hstop, hreach⟩
  have hlength : target ≤ b.length := Nat.le_trans (Nat.min_le_right _ _) hlast
  refine ⟨Nat.le_trans hle htarget, hlength, ?_⟩
  rw [newline_mem_slice_iff hrow hstart hend hlength, Nat.not_lt]
  constructor
  · intro hinside
    exact (row_positionAt_eq_iff hrow (Nat.le_trans hstart hle) h).2 (Nat.le_trans htarget hinside)
  · intro hsame
    exact hsame ▸ Nat.min_le_right _ _

end Buffer

namespace Editor

variable {e : Editor} {op : Operator}

/-! ### Where words lead under an operator -/

/-- **Whether an operator that is given a word stays in the row of the cursor**: the words before
the last one do not lead out of it, or, with a modifier, there is a character in the row, or no
newline behind it. -/
def WordInRow (e : Editor) (kind : WordKind) : Prop :=
  if e.modifier.isSome then
    e.buffer.rowLength e.cursor.row = 0 → e.cursor.row = e.buffer.lastRow
  else
    (e.buffer.positionAt (e.buffer.skipWords kind (e.count - 1) e.cursorOffset)).row = e.cursor.row

instance (e : Editor) (kind : WordKind) : Decidable (e.WordInRow kind) :=
  inferInstanceAs (Decidable (if e.modifier.isSome then (_ = _ → _ = _) else _ = _))

/-- Without a modifier the operator stops at the end of the row of the last word but one. -/
theorem exists_wordTarget_eq (hop : e.operator = some op) (hmod : e.modifier = none)
    (kind : WordKind) :
    let offset := e.buffer.skipWords kind (e.count - 1) e.cursorOffset
    ∃ stop, offset ≤ stop ∧
      e.wordTarget kind =
        .char (min stop (e.buffer.rowEnd (e.buffer.positionAt offset).row)) false := by
  intro offset
  have hoffset : offset ≤ e.buffer.length :=
    Buffer.skipWords_le e.buffer kind _ (e.buffer.offsetAt_le_length e.cursor)
  have hnext := Buffer.le_nextWordStart kind hoffset
  let next := e.buffer.nextWordStart kind offset
  refine ⟨if op = .change then (e.buffer.wordEndAt? kind offset).getD next else next, ?_, ?_⟩
  · split
    · cases hend : e.buffer.wordEndAt? kind offset with
      | none => exact hnext
      | some stop => exact Buffer.le_wordEndAt? hend
    · exact hnext
  · unfold wordTarget
    dsimp only
    rw [hop, hmod]
    rfl

/-- In normal mode the one place of the cursor holds a newline just when the row is empty and not
the last. -/
theorem newline_notMem_slice_cursor_iff (he : e.clampCursor = e) (hm : e.mode = .normal) :
    '\n' ∉ e.buffer.slice ⟨e.cursorOffset, min (e.cursorOffset + 1) e.buffer.length⟩ ↔
      (e.buffer.rowLength e.cursor.row = 0 → e.cursor.row = e.buffer.lastRow) := by
  obtain ⟨hrow, hcol⟩ := cursor_le_of_clampCursor_eq he
  have hstart := cursorOffset_eq he
  have hend := Buffer.rowEnd_eq hrow
  have hlast := Buffer.rowEnd_lt_length_iff hrow
  have hlength := Buffer.rowStart_add_rowLength_le hrow
  rw [Buffer.newline_mem_slice_iff hrow (by dsimp only; omega) (by dsimp only; omega)
    (Nat.min_le_right _ _)]
  dsimp only
  rcases col_lt_of_clampCursor_eq he hm with hlt | ⟨hzero, hempty⟩
  · constructor
    · intro _ hempty
      omega
    · intro _ hpast
      omega
  · constructor
    · intro hinside _
      omega
    · intro hsame hpast
      have := hsame hempty
      omega

/-- **Without a modifier the operator is given the words up to the last place in the row** of the
last word but one. -/
theorem exists_after_word (he : e.clampCursor = e) (hm : e.mode = .normal) (hw : e.waiting = false)
    (hn : e.repeatCount = none) (settings : Settings) {h : OperatorHead} (hmod : h.modifier = none)
    (op : Operator) (kind : WordKind) :
    let keys := h.keys op ++ (Motion.word kind).keys
    let e₁ := (h.typed op (e.captured keys)).dropCounts
    ∃ s : Span, e.after settings keys = (e₁.applyRange s.start s.stop).clampCursor ∧
      e₁.rangeSpan s.start s.stop = s ∧ s.start ≤ s.stop ∧ s.stop ≤ e.buffer.length ∧
      ('\n' ∉ e.buffer.slice s ↔ (h.typed op e).WordInRow kind) := by
  intro keys e₁
  obtain ⟨hrow, hcol⟩ := cursor_le_of_clampCursor_eq he
  have hsource := cursorOffset_eq he
  have hend := Buffer.rowEnd_eq hrow
  have hlength : e.cursorOffset ≤ e.buffer.length := e.buffer.offsetAt_le_length e.cursor
  let n := (h.typed op e).count - 1
  obtain ⟨stop, hstop, htarget⟩ :=
    exists_wordTarget_eq (e := h.typed op (e.captured keys)) rfl hmod kind
  obtain ⟨hle, hle', hnewline⟩ := Buffer.newline_notMem_slice_min_iff hrow (by omega) (by omega)
    (Buffer.le_skipWords kind n hlength) (e.buffer.skipWords_le kind n hlength) hstop
  have hafter := after_word settings he hm hw hn h op kind
  dsimp only at hafter
  rw [htarget, reach_char_of_operator rfl] at hafter
  refine ⟨⟨e.cursorOffset, _⟩, hafter, ?_, hle, hle', hnewline.trans ?_⟩
  · exact (rangeSpan_of_no_modifier (e := e₁) hmod _ _).trans (if_pos hle)
  · have hnone : ¬ (h.typed op e).modifier.isSome = true := by
      show ¬ h.modifier.isSome = true
      rw [hmod]
      decide
    exact (iff_of_eq (if_neg hnone)).symm

/-- **When an operator that is given a word takes a newline.** In normal mode, with nothing half
typed: an operator that is given a word, with counts, a modifier and the choice of a register before
it or without, takes a part of the text. It holds no newline just when the operator stays in the row
of the cursor (`WordInRow`): without a modifier, when all words but the last are in this row; with
one, when the row is not empty or is the last. -/
theorem newline_not_taken_iff (he : e.clampCursor = e) (hm : e.mode = .normal)
    (hw : e.waiting = false) (hn : e.repeatCount = none) (settings : Settings) (h : OperatorHead)
    (op : Operator) (kind : WordKind) :
    let e' := e.after settings (h.keys op ++ (Motion.word kind).keys)
    ∃ p t s, e.buffer.text = p ++ t ++ s ∧ RegistersHold (h.register.or e.selected) t e' ∧
      e'.buffer = (if op = .yank then e.buffer else ⟨p ++ s⟩) ∧
      ('\n' ∉ t ↔ (h.typed op e).WordInRow kind) := by
  intro e'
  let e₁ : Editor :=
    (h.typed op (e.captured (h.keys op ++ (Motion.word kind).keys))).dropCounts
  have hop : e₁.operator = some op := rfl
  cases hmod : h.modifier with
  | none =>
    obtain ⟨s, hafter, hspan, hle, hstop, hnewline⟩ :=
      exists_after_word he hm hw hn settings hmod op kind
    obtain ⟨p, r, htext, hs⟩ := Buffer.exists_text_eq hle hstop
    obtain ⟨htaken, hleft⟩ := taken_applyRange hop htext (hspan.trans hs)
    have he' : e' = _ := hafter
    rw [he']
    exact ⟨p, _, r, htext, htaken, hleft, hnewline⟩
  | some modifier =>
    have hsome : h.modifier.isSome = true := by rw [hmod]; rfl
    obtain ⟨hafter, hspan⟩ := after_textObject he hm hw hn settings hsome op kind
    obtain ⟨p, t, r, htext, hgrown, -, -, hmem, -, -⟩ := Buffer.exists_expandWord (b := e.buffer)
      (s := ⟨e.cursorOffset, min (e.cursorOffset + 1) e.buffer.length⟩)
      (Nat.le_min.2 ⟨Nat.le_succ _, e.buffer.offsetAt_le_length e.cursor⟩) (Nat.min_le_right _ _)
    obtain ⟨htaken, hleft⟩ := taken_applyRange hop htext (hspan.trans hgrown)
    have he' : e' = _ := hafter
    rw [he']
    refine ⟨p, t, r, htext, htaken, hleft, ?_⟩
    rw [hmem '\n' isWordChar_newline, newline_notMem_slice_cursor_iff he hm]
    exact (iff_of_eq (if_pos hsome)).symm

/-- Two words up to the end of a row that is not the last: the newline stays. -/
theorem newline_not_taken_two_words :
    let h : OperatorHead := { before := ['2'] }
    ∃ e : Editor, Reachable ⟨['a', ' ', 'b', 'c', '\n', 'd']⟩ e ∧ e.cursor = ⟨0, 0⟩ ∧
      (h.typed .delete e).WordInRow .word ∧
      let e' := e.after {} (h.keys .delete ++ (Motion.word .word).keys)
      RegistersHold none ['a', ' ', 'b', 'c'] e' ∧ e'.buffer = ⟨['\n', 'd']⟩ := by
  intro h
  let e : Editor := ofResult (interpret {} ⟨['a', ' ', 'b', 'c', '\n', 'd']⟩ none [])
  have he : Reachable ⟨['a', ' ', 'b', 'c', '\n', 'd']⟩ e := .first {} []
  obtain ⟨p, t, s, -, htaken, -, hnewline⟩ := newline_not_taken_iff he.clampCursor_eq
    (by decide +kernel) (by decide +kernel) (by decide +kernel) {} h .delete .word
  have hread : (e.after {} (h.keys .delete ++ (Motion.word .word).keys)).registers.read
      unnamedRegister = ['a', ' ', 'b', 'c'] := by decide +kernel
  obtain rfl := htaken.unnamed.symm.trans hread
  exact ⟨e, he, by decide +kernel, hnewline.1 (by decide), htaken, by decide +kernel⟩

/-- The first of two words leads into the next row, and the newline before it is taken. With a
modifier, one is taken from an empty row, and the word behind it. -/
theorem newline_taken :
    (∃ e : Editor, Reachable ⟨['a', '\n', 'b', ' ', 'c']⟩ e ∧ e.mode = .normal ∧
      e.waiting = false ∧ e.repeatCount = none ∧ e.recording = none ∧
      let h : OperatorHead := { before := ['2'] }
      let e' := e.after {} (h.keys .delete ++ (Motion.word .word).keys)
      e'.registers.read unnamedRegister = ['a', '\n', 'b', ' '] ∧ e'.buffer = ⟨['c']⟩) ∧
    ∃ e : Editor, Reachable ⟨['\n', 'a', 'b', '\n', 'c']⟩ e ∧ e.mode = .normal ∧
      e.waiting = false ∧ e.repeatCount = none ∧ e.recording = none ∧
      let h : OperatorHead := { modifier := some .inside }
      let e' := e.after {} (h.keys .delete ++ (Motion.word .word).keys)
      e'.registers.read unnamedRegister = ['\n', 'a', 'b'] ∧ e'.buffer = ⟨['\n', 'c']⟩ := by
  constructor
  · exact ⟨_, .first {} [], by decide +kernel⟩
  · exact ⟨_, .first {} [], by decide +kernel⟩

end Editor

end ModalEditor
