import ModalEditor.Proofs.CountedUndo
import ModalEditor.Proofs.Failures
import ModalEditor.Proofs.TypedOperators

/-!
# Putting back what was deleted

After a deletion nothing is pending, and the text that it took is in the unnamed register
(`Deleted`). What a put does then is told by this text alone: one that ends in a newline stands for
whole rows, and goes between rows (`Rests.buffer_put_before`, `Rests.buffer_put_after`).

Whole rows therefore always come back (`put_back_rows`). Characters come back unless they end in a
newline and were not taken from the start of a row (`put_back_chars`): then what stands before them
in the row would have to commute with them, which their last characters forbid (`append_ne_append`).
-/

namespace ModalEditor

/-! ### How much a text takes -/

namespace Editor

theorem foldl_utf8Size (t : Text) (n : Nat) :
    t.foldl (fun n c => n + c.utf8Size) n = n + byteSize t := by
  unfold byteSize
  induction t generalizing n with
  | nil => rfl
  | cons c t ih =>
    rw [List.foldl_cons, List.foldl_cons, ih, ih (0 + _), Nat.zero_add, Nat.add_assoc]

theorem byteSize_append (s t : Text) : byteSize (s ++ t) = byteSize s + byteSize t := by
  rw [byteSize, List.foldl_append, foldl_utf8Size]
  rfl

end Editor

/-- **A text that can be addressed**: it takes no more bytes than a word can count. A text that does
not is in no memory. -/
def Buffer.Addressable (b : Buffer) : Prop := Editor.byteSize b.text ≤ maxCount

instance (b : Buffer) : Decidable b.Addressable := inferInstanceAs (Decidable (_ ≤ _))

theorem Buffer.Addressable.byteSize_le {b : Buffer} (h : b.Addressable) {p t s : Text}
    (htext : b.text = p ++ t ++ s) : Editor.byteSize t ≤ maxCount := by
  have hle : Editor.byteSize b.text ≤ maxCount := h
  rw [htext, Editor.byteSize_append, Editor.byteSize_append] at hle
  omega

theorem isLinewise_iff {t : Text} : isLinewise t = true ↔ ∃ s, t = s ++ ['\n'] := by
  rw [isLinewise, beq_iff_eq]
  exact List.getLast?_eq_some_iff

theorem ne_nil_of_isLinewise {t : Text} (h : isLinewise t = true) : t ≠ [] := by
  rintro rfl
  simp [isLinewise] at h

/-! ### Rows that are taken out and put in -/

namespace Buffer

variable {b : Buffer} {first last : Nat}

/-- Newlines in front of rows, with one behind all, are newlines behind them, with one in front. -/
theorem flatMap_cons_newline (rows : List Text) :
    rows.flatMap ('\n' :: ·) ++ ['\n'] = '\n' :: rows.flatMap (· ++ ['\n']) := by
  induction rows with
  | nil => rfl
  | cons row rows ih => simp [ih]

theorem flatMap_eq_intercalate {rows : List Text} (h : rows ≠ []) :
    rows.flatMap (· ++ ['\n']) = List.intercalate ['\n'] rows ++ ['\n'] := by
  obtain ⟨row, rows, rfl⟩ := List.exists_cons_of_ne_nil h
  rw [intercalate_cons, List.append_assoc, flatMap_cons_newline]
  simp

theorem isLinewise_flatMap {rows : List Text} (h : rows ≠ []) :
    isLinewise (rows.flatMap (· ++ ['\n'])) = true := by
  rw [isLinewise_iff, flatMap_eq_intercalate h]
  exact ⟨_, rfl⟩

theorem text_eq_intercalate (b : Buffer) : b.text = List.intercalate ['\n'] b.rows :=
  (intercalate_splitRows b.text).symm

theorem insert_of_text_eq {k : Nat} {x y : Text} (h : b.text = x ++ y) (hk : x.length = k)
    (t : Text) : b.insert k t = ⟨x ++ t ++ y⟩ := by
  rw [insert, h, List.take_left' hk, List.drop_left' hk]

/-- **The rows that are taken out**, those before and those after them. -/
theorem exists_rows_eq_append (hfirst : first ≤ last) (hlast : last ≤ b.lastRow) :
    ∃ before taken after, b.rows = before ++ (taken ++ after) ∧ before.length = first ∧
      taken ≠ [] ∧ after.length = b.lastRow - last ∧
      b.rowsText first last = taken.flatMap (· ++ ['\n']) ∧
      (b.remove (b.rowsSpan first last)).rows =
        if before ++ after = [] then [[]] else before ++ after := by
  have hdrop : (b.rows.drop first).drop (last + 1 - first) = b.rows.drop (last + 1) := by
    rw [List.drop_drop]
    congr 1
    omega
  have htext := b.rowsText_eq first last
  rw [Nat.min_eq_left hlast] at htext
  have hrows : b.rows.length = b.lastRow + 1 := b.length_rows
  refine ⟨b.rows.take first, (b.rows.drop first).take (last + 1 - first), b.rows.drop (last + 1),
    ?_, ?_, ?_, ?_, htext, rows_remove_rowsSpan hfirst hlast⟩
  · rw [← hdrop, List.take_append_drop, List.take_append_drop]
  · rw [List.length_take]
    omega
  · refine List.ne_nil_of_length_pos ?_
    rw [List.length_take, List.length_drop]
    omega
  · rw [List.length_drop]
    omega

theorem isLinewise_rowsText (hfirst : first ≤ last) (hlast : last ≤ b.lastRow) :
    isLinewise (b.rowsText first last) = true := by
  obtain ⟨_, taken, _, -, -, htaken, -, htext, -⟩ := exists_rows_eq_append hfirst hlast
  rw [htext]
  exact isLinewise_flatMap htaken

/-- **Rows that are not the last come back** in front of the row that has come to their place. -/
theorem insert_rowsText (hfirst : first ≤ last) (hlast : last < b.lastRow) :
    let b' := b.remove (b.rowsSpan first last)
    first ≤ b'.lastRow ∧ b'.insert (b'.rowStart first) (b.rowsText first last) = b := by
  intro b'
  obtain ⟨before, taken, after, hrows, hfirst', -, hafter, htext, hkept⟩ :=
    exists_rows_eq_append hfirst (Nat.le_of_lt hlast)
  have hafter' : after ≠ [] := List.ne_nil_of_length_pos (by omega)
  rw [if_neg (by simp [hafter'])] at hkept
  have hrow : first ≤ b'.lastRow := by
    have hlength : b'.lastRow + 1 = (before ++ after).length := by
      rw [← hkept]
      exact b'.length_rows.symm
    rw [List.length_append] at hlength
    omega
  have htext' : b'.text = before.flatMap (· ++ ['\n']) ++ List.intercalate ['\n'] after := by
    rw [text_eq_intercalate, hkept, intercalate_append _ hafter']
  have hstart : (before.flatMap (· ++ ['\n'])).length = b'.rowStart first := by
    rw [rowStart_eq_length hrow, hkept, List.take_left' hfirst']
  refine ⟨hrow, ?_⟩
  rw [insert_of_text_eq htext' hstart, htext]
  refine congrArg Buffer.mk ?_
  rw [text_eq_intercalate b, hrows, intercalate_append _ (by simp [hafter']),
    intercalate_append _ hafter', List.append_assoc]

/-- **The last rows come back** behind the row before them. -/
theorem insert_rowsText_last (hfirst : first ≤ b.lastRow) (hpos : 0 < first) :
    let b' := b.remove (b.rowsSpan first b.lastRow)
    b'.lastRow ≤ first ∧
      b'.insert (b'.rowEnd b'.lastRow) ('\n' :: (b.rowsText first b.lastRow).dropLast) = b := by
  intro b'
  obtain ⟨before, taken, after, hrows, hfirst', htaken, hafter, htext, hkept⟩ :=
    exists_rows_eq_append hfirst (Nat.le_refl b.lastRow)
  obtain rfl : after = [] := List.eq_nil_of_length_eq_zero (by omega)
  have hbefore : before ≠ [] := List.ne_nil_of_length_pos (hfirst' ▸ hpos)
  rw [List.append_nil, if_neg hbefore] at hkept
  have hrow : b'.lastRow ≤ first := by
    have hlength : b'.lastRow + 1 = before.length := by
      rw [← hkept]
      exact b'.length_rows.symm
    omega
  have htext' : b'.text = List.intercalate ['\n'] before ++ [] := by
    rw [text_eq_intercalate, hkept, List.append_nil]
  have hend : (List.intercalate ['\n'] before).length = b'.rowEnd b'.lastRow := by
    rw [rowEnd_lastRow, length, htext', List.append_nil]
  refine ⟨hrow, ?_⟩
  rw [insert_of_text_eq htext' hend, htext, flatMap_eq_intercalate htaken, List.dropLast_concat]
  refine congrArg Buffer.mk ?_
  rw [text_eq_intercalate b, hrows, List.append_nil taken, intercalate_append _ htaken,
    flatMap_eq_intercalate hbefore]
  simp

/-! ### Characters that are taken out and put in -/

/-- **A text that ends in a newline does not commute** with one that does not. -/
theorem append_ne_append {t u : Text} (ht : isLinewise t = true) (hne : u ≠ [])
    (hu : '\n' ∉ u) : t ++ u ≠ u ++ t := by
  obtain ⟨s, rfl⟩ := isLinewise_iff.1 ht
  obtain ⟨v, c, rfl⟩ := (List.eq_nil_or_concat u).resolve_left hne
  rw [List.concat_eq_append] at hu ⊢
  intro heq
  have hlast := congrArg List.getLast? heq
  rw [← List.append_assoc, ← List.append_assoc, List.getLast?_concat, List.getLast?_concat,
    Option.some.injEq] at hlast
  exact hu (hlast ▸ List.mem_concat_self)

/-- Whole rows that are put at the start of a row stand where they would stand at a column of it
only if the column is the first. -/
theorem insert_rowStart_eq_iff {p : Position} (hrow : p.row ≤ b.lastRow)
    (hcol : p.col ≤ b.rowLength p.row) {t : Text} (ht : isLinewise t = true) :
    b.insert (b.rowStart p.row) t = b.insert (b.offsetAt p) t ↔ p.col = 0 := by
  constructor
  · intro heq
    refine Nat.eq_zero_of_not_pos fun hpos => ?_
    let u := (b.rowText p.row).take p.col
    have hne : u ≠ [] := by
      refine List.ne_nil_of_length_pos ?_
      rw [List.length_take]
      unfold rowLength at hcol
      omega
    have hu : '\n' ∉ u := fun hmem => b.newline_notMem_rowText p.row (List.mem_of_mem_take hmem)
    have htake : b.text.take (b.offsetAt p) = b.text.take (b.rowStart p.row) ++ u :=
      take_offsetAt hrow p.col
    have hsplit : b.text.take (b.rowStart p.row) ++ b.text.drop (b.rowStart p.row) =
        b.text.take (b.rowStart p.row) ++ (u ++ b.text.drop (b.offsetAt p)) := by
      rw [← List.append_assoc, ← htake, List.take_append_drop, List.take_append_drop]
    have hdrop := List.append_cancel_left hsplit
    -- The two texts begin and end alike; in between stand `t` and `u`, in either order.
    have htext := congrArg Buffer.text heq
    rw [text_insert, text_insert, hdrop, htake, ← List.append_assoc,
      List.append_cancel_right_eq, List.append_assoc, List.append_assoc,
      List.append_cancel_left_eq] at htext
    exact append_ne_append ht hne hu htext
  · intro hzero
    have hstart : b.offsetAt p = b.rowStart p.row := by
      rw [offsetAt, hzero, Nat.min_eq_left hrow, Nat.zero_min, Nat.add_zero]
    rw [hstart]

end Buffer

/-! ### What is put -/

namespace Editor

variable {e : Editor} {b : Buffer} {t : Text} (settings : Settings)

/-- **What is put is the text of a register**, as often as the count says. -/
theorem put_eq_of_le (ht : e.registers.read (e.selected.getD unnamedRegister) = t) (hne : t ≠ [])
    (hsize : byteSize t * e.count ≤ maxCount) (after : Bool) :
    let content := (List.replicate e.count t).flatten
    let e₁ := ({ e.dropCounts with selected := none } : Editor).takeCheckpoint
    e.put after =
      if isLinewise content then e₁.putRows content after else e₁.putChars content after := by
  have hfits : ¬ ((t.isEmpty || decide (maxCount < byteSize t * e.count)) = true) := by
    simpa [hne] using hsize
  intro content e₁
  unfold put
  dsimp only
  rw [ht, if_neg hfits]

namespace Rests

variable (h : e.Rests) (hselected : e.selected = none)
  (ht : e.registers.read unnamedRegister = t) (hsize : byteSize t ≤ maxCount)

include h hselected ht hsize

/-- **What is put is the unnamed register**, once. -/
theorem put_eq (hne : t ≠ []) (after : Bool) :
    let e₁ := ({ e.dropCounts with selected := none } : Editor).takeCheckpoint
    e.put after = if isLinewise t then e₁.putRows t after else e₁.putChars t after := by
  have hread : e.registers.read (e.selected.getD unnamedRegister) = t := by
    rw [hselected, Option.getD_none, ht]
  have hput := put_eq_of_le hread hne (by rwa [h.count_eq_one, Nat.mul_one]) after
  have honce : (List.replicate 1 t).flatten = t := by simp
  rwa [h.count_eq_one, honce] at hput

/-- **Before the cursor**, or, if it stands for whole rows, above its row. -/
theorem buffer_put_before :
    (e.after settings [.char 'P']).buffer =
      e.buffer.insert (if isLinewise t then e.buffer.rowStart e.cursor.row else e.cursorOffset)
        t := by
  rw [after_commandKey h.mode (continuation_of_not_waiting h.waiting) h.recording
    (operator_of_not_waiting h.waiting) rfl rfl rfl (by decide)]
  show (e.put false).buffer = _
  by_cases hne : t = []
  · have hput : e.put false = { e.dropCounts with selected := none } := by
      unfold put
      dsimp only
      rw [hselected, Option.getD_none, ht, hne]
      rfl
    rw [hput, hne]
    simp [Buffer.insert, dropCounts]
  · rw [h.put_eq hselected ht hsize hne]
    cases isLinewise t <;> rfl

/-- **Below the last row** whole rows are put with their newline in front. -/
theorem buffer_put_after (hlinewise : isLinewise t = true)
    (hrow : e.cursor.row = e.buffer.lastRow) :
    (e.after settings [.char 'p']).buffer =
      e.buffer.insert (e.buffer.rowEnd e.cursor.row) ('\n' :: t.dropLast) := by
  rw [after_commandKey h.mode (continuation_of_not_waiting h.waiting) h.recording
    (operator_of_not_waiting h.waiting) rfl rfl rfl (by decide)]
  show (e.put true).buffer = _
  rw [h.put_eq hselected ht hsize (ne_nil_of_isLinewise hlinewise), if_pos hlinewise, putRows,
    if_neg (by decide)]
  exact congrArg Editor.buffer (if_neg (show ¬ e.cursor.row < e.buffer.lastRow by omega))

end Rests

/-! ### What a deletion leaves -/

/-- **After a deletion** a command may start, the rest of the text is there, and what was taken is
in the unnamed register, beside which none is chosen. -/
structure Deleted (b : Buffer) (t : Text) (e : Editor) : Prop extends Rests e where
  /-- No register is chosen. -/
  selected : e.selected = none
  /-- The rest of the text. -/
  buffer : e.buffer = b
  /-- What was taken. -/
  unnamed : e.registers.read unnamedRegister = t

theorem Deleted.clampCursor (h : Deleted b t e) : Deleted b t e.clampCursor :=
  ⟨⟨h.mode, h.waiting, h.recording, h.operatorCount, h.repeatCount⟩, h.selected, h.buffer,
    h.unnamed⟩

/-- **Before a deletion** the operator waits for what it is given, and for nothing else. -/
structure Deleting (e : Editor) : Prop where
  /-- The operator. -/
  operator : e.operator = some .delete
  /-- The mode. -/
  mode : e.mode = .normal
  /-- No second key is waited for. -/
  continuation : e.continuation = none
  /-- No macro is being recorded. -/
  recording : e.recording = none

namespace Deleting

theorem typed (hm : e.mode = .normal) (hw : e.waiting = false) (hrec : e.recording = none)
    (h : OperatorHead) : (h.typed .delete e).Deleting :=
  ⟨rfl, hm, continuation_of_not_waiting (e := e) hw, hrec⟩

theorem of_reminded (h : e.Deleting) {modifier? : Option Modifier} {registers : RegisterFile}
    {e₁ : Editor}
    (hr : Reminded { e with modifier := modifier?, registers := registers } e₁) : e₁.Deleting :=
  ⟨(congrArg (·.operator) hr.control).trans h.operator,
    (congrArg Control.mode hr.control).trans h.mode,
    (congrArg Control.continuation hr.control).trans h.continuation,
    hr.recording.trans h.recording⟩

theorem deleted_applyRange (h : e.Deleting) (source target : Nat) :
    let s := e.rangeSpan source target
    Deleted (e.buffer.remove s) (e.buffer.slice s)
      (e.dropCounts.applyRange source target).clampCursor := by
  intro s
  have hop : e.dropCounts.operator = some .delete := h.operator
  have hrests : Rests (e.dropCounts.applyRange source target) := by
    unfold applyRange
    rw [hop]
    exact ⟨h.mode, waiting_eq_false rfl h.continuation h.mode, h.recording, rfl, rfl⟩
  refine Deleted.clampCursor ⟨hrests, rfl, leaves_applyRange hop source target, ?_⟩
  rw [registers_applyRange hop, read_registersAfter]
  rfl

/-- Rows are deleted, and the cursor goes to the row that is then in their place. -/
theorem deleted_applyRows (h : e.Deleting) {first last : Nat} (hfirst : first ≤ last)
    (hrow : first ≤ e.buffer.lastRow) :
    let bottom := min last e.buffer.lastRow
    let e' := (e.dropCounts.applyRows first last).clampCursor
    Deleted (e.buffer.remove (e.buffer.rowsSpan first bottom)) (e.buffer.rowsText first bottom) e' ∧
      e'.cursor.row = min first e'.buffer.lastRow := by
  intro bottom e'
  let e₁ : Editor := { e.dropCounts with operator := none, modifier := none }
  let e₂ : Editor := { e₁.deleteRows first bottom with selected := none }
  have hop : e.dropCounts.operator = some .delete := h.operator
  have htop : min first e.dropCounts.buffer.lastRow = first := Nat.min_eq_left hrow
  have hrun : e.dropCounts.applyRows first last = e₂ := by
    rw [applyRows, hop, htop, Nat.max_eq_left hfirst]
    rfl
  have hrests : Rests e₂ :=
    ⟨h.mode, waiting_eq_false rfl h.continuation h.mode, h.recording, rfl, rfl⟩
  have hdeleted : Deleted (e.buffer.remove (e.buffer.rowsSpan first bottom))
      (e.buffer.rowsText first bottom) e₂ :=
    ⟨hrests, rfl, rfl, read_registersAfter e₁ .delete _⟩
  have hcursor : e₂.clampCursor.cursor.row = min first e₂.buffer.lastRow := by
    show min (min first e₂.buffer.lastRow) e₂.buffer.lastRow = _
    rw [Nat.min_assoc, Nat.min_self]
  have he' : e' = e₂.clampCursor := congrArg Editor.clampCursor hrun
  rw [he']
  exact ⟨hdeleted.clampCursor, hcursor⟩

end Deleting

/-! ### Deletions of characters -/

/-- **A deletion of characters**, the keys of it and the span that it takes. -/
inductive DeletesChars (settings : Settings) (e : Editor) : List Key → Span → Prop
  /-- A motion to a character is given to the operator. -/
  | motion (h : OperatorHead) {m : Motion} (hm : e.mode = .normal) (hw : e.waiting = false)
      (hn : e.repeatCount = none) (hz : m = .rowStart → h.since ++ h.late = []) {offset : Nat}
      {inclusive : Bool}
      (htarget : m.target? settings (h.typed .delete e) = some (.char offset inclusive)) :
      DeletesChars settings e (h.keys .delete ++ m.keys)
        (({ e with modifier := m.keeps h.modifier } : Editor).spanTo offset inclusive)
  /-- The operator takes the characters that are selected, both ends included. -/
  | selection {anchor : Position} (hm : e.mode = .visual .char) (hk : e.continuation = none)
      (hanchor : e.visualAnchor = some anchor) :
      DeletesChars settings e [.char Operator.delete.key]
        ⟨min (e.buffer.offsetAt anchor) e.cursorOffset,
          min (max (e.buffer.offsetAt anchor) e.cursorOffset + 1) e.buffer.length⟩

variable {settings} {keys : List Key} {s : Span}

theorem DeletesChars.start_le (h : DeletesChars settings e keys s) : s.start ≤ s.stop := by
  cases h with
  | motion => exact rangeSpan_start_le _ _ _
  | selection =>
    have hle := e.buffer.offsetAt_le_length e.cursor
    show min _ _ ≤ min (max _ _ + 1) e.buffer.length
    unfold cursorOffset
    omega

/-- **What is selected is deleted.** -/
theorem deleted_operateOnSelection (ho : e.control.Orderly) (hm : e.mode = .visual .char)
    (hk : e.continuation = none) (hrec : e.recording = none) {anchor : Position}
    (hanchor : e.visualAnchor = some anchor) :
    let s : Span := ⟨min (e.buffer.offsetAt anchor) e.cursorOffset,
      min (max (e.buffer.offsetAt anchor) e.cursorOffset + 1) e.buffer.length⟩
    Deleted (e.buffer.remove s) (e.buffer.slice s)
      (e.operateOnSelection .char .delete).clampCursor := by
  intro s
  have hop : e.operator = none :=
    ho.operator_eq_none (by simp [control, hm]) (by simp [control, hm])
  let e₁ : Editor :=
    { e with
      mode := .normal
      visualAnchor := none
      repeatCount := none
      operator := some .delete
      cursor := e.buffer.positionAt s.start }
  have hselection : DeletesChars {} e [.char Operator.delete.key] s := .selection hm hk hanchor
  have hspan : e₁.rangeSpan s.start s.stop = s := by
    rw [rangeSpan_of_no_modifier (e := e₁) (ho.modifier_eq_none hop)]
    exact if_pos hselection.start_le
  have hdrop : e₁.dropCounts = e₁ := dropCounts_eq (ho.operatorCount_eq_none hop) rfl
  have hdeleting : e₁.Deleting := ⟨rfl, rfl, hk, hrec⟩
  have hdeleted := hdeleting.deleted_applyRange s.start s.stop
  rw [hspan, hdrop] at hdeleted
  unfold operateOnSelection
  dsimp only
  rw [hanchor, Option.getD_some, Span.ordered_start, Span.ordered_stop]
  exact hdeleted

theorem DeletesChars.deleted (he : Reachable b e) (hrec : e.recording = none)
    (h : DeletesChars settings e keys s) :
    Deleted (e.buffer.remove s) (e.buffer.slice s) (e.after settings keys) := by
  cases h with
  | motion h hm hw hn hz htarget =>
    rename_i m offset inclusive
    obtain ⟨e₁, hr, hspan, hafter⟩ :=
      exists_after_operator_char settings he hm hw hn hrec h .delete hz htarget
    have hdeleting := (Deleting.typed hm hw hrec h).of_reminded hr
    have hbuffer : e₁.buffer = e.buffer := hr.buffer
    rw [hafter, ← hspan, ← hbuffer]
    exact hdeleting.deleted_applyRange e₁.cursorOffset (e₁.stopAt offset inclusive)
  | selection hm hk hanchor =>
    rw [after_singleton_of_press hrec (press_operator_of_visual hm hk settings .delete)]
    exact deleted_operateOnSelection he.traceable.orderly hm hk hrec hanchor

/-- **Characters that are deleted come back.** Wherever a run has led to, with no macro being
recorded: after a deletion of characters, by a motion or of a selection, the text is without them
and they are in the unnamed register. If the cursor is then where they stood, putting before it
gives back the text, however many rows they are from, with one exception. If they end in a newline
they stand for whole rows and go above the row of the cursor, and then they come back only if the
cursor is in the first column. (`hsize` only excludes texts that are in no memory.) -/
theorem put_back_chars (he : Reachable b e) (hrec : e.recording = none)
    (hsize : e.buffer.Addressable) (h : DeletesChars settings e keys s) :
    let t := e.buffer.slice s
    let e' := e.after settings keys
    e'.buffer = e.buffer.remove s ∧ e'.registers.read unnamedRegister = t ∧
      (e'.cursorOffset = s.start →
        ((e'.after settings [.char 'P']).buffer = e.buffer ↔
          (isLinewise t = true → e'.cursor.col = 0))) := by
  intro t e'
  have hdeleted : Deleted (e.buffer.remove s) t e' := h.deleted he hrec
  refine ⟨hdeleted.buffer, hdeleted.unnamed, fun hcursor => ?_⟩
  have hle := h.start_le
  have htext := (e.buffer.take_append_slice hle).symm
  have htext' : e'.buffer.text = e.buffer.text.take s.start ++ e.buffer.text.drop s.stop := by
    rw [hdeleted.buffer, Buffer.text_remove, Nat.max_eq_right hle]
  have hstart : (e.buffer.text.take s.start).length = s.start := by
    have hlength := congrArg List.length htext'
    have hbound : e'.cursorOffset ≤ e'.buffer.text.length := e'.buffer.offsetAt_le_length e'.cursor
    rw [List.length_append] at hlength
    rw [List.length_take, List.length_drop] at *
    omega
  -- What is put at the cursor fills the gap; the question is whether it is put there.
  have hback : e'.buffer.insert e'.cursorOffset t = e.buffer := by
    rw [hcursor, Buffer.insert_of_text_eq htext' hstart]
    exact congrArg Buffer.mk htext.symm
  have hput := hdeleted.buffer_put_before settings hdeleted.selected hdeleted.unnamed
    (hsize.byteSize_le htext)
  rw [hput]
  cases hlinewise : isLinewise t with
  | false => simp [hback]
  | true =>
    obtain ⟨hrow, hcol⟩ := cursor_le_of_clampCursor_eq (he.next settings keys).clampCursor_eq
    have hiff := Buffer.insert_rowStart_eq_iff hrow hcol hlinewise
    rw [if_pos rfl, ← hback]
    exact hiff.trans ⟨fun hzero _ => hzero, fun hzero => hzero rfl⟩

/-- The second match of a query, two rows further down: parts of three rows come back. -/
theorem put_back_chars_over_rows :
    let b : Buffer := ⟨['a', 'b', '\n', 'c', '\n', 'd', 'c', 'e']⟩
    let h : OperatorHead := { early := ['2'], register := some 'A' }
    ∃ e : Editor, Reachable b e ∧ e.cursor = ⟨0, 1⟩ ∧ e.buffer = b ∧
      let e' := e.after {} (h.keys .delete ++ (Motion.search .forward (.ofText ['c'])).keys)
      e'.buffer = ⟨['a', 'c', 'e']⟩ ∧
        e'.registers.read unnamedRegister = ['b', '\n', 'c', '\n', 'd'] ∧
        (e'.after {} [.char 'P']).buffer = b := by
  intro b h
  let e : Editor := ofResult (interpret {} b none [.char 'l'])
  have he : Reachable b e := .first {} [.char 'l']
  have htarget : (Motion.search .forward (.ofText ['c'])).target? {} (h.typed .delete e) =
      some (.char 6 false) := by decide +kernel
  have hdeletes := DeletesChars.motion h (by decide +kernel) (by decide +kernel) (by decide +kernel)
    (by simp) htarget
  obtain ⟨-, hunnamed, hback⟩ := put_back_chars he (by decide +kernel) (by decide +kernel) hdeletes
  have hslice : isLinewise (e.buffer.slice
      (({ e with modifier := none } : Editor).spanTo 6 false)) = false := by decide +kernel
  refine ⟨e, he, by decide +kernel, by decide +kernel, by decide +kernel,
    hunnamed.trans (by decide +kernel), ?_⟩
  exact ((hback (by decide +kernel)).2 fun hlinewise => absurd (hslice.symm.trans hlinewise)
    (by decide)).trans (by decide +kernel)

/-- The rest of a row and the newline behind it are deleted, and the cursor stays where they stood;
but they go above the row. -/
theorem not_put_back_end_of_row :
    let b : Buffer := ⟨['a', 'b', '\n', 'c', 'd']⟩
    let s : Span := ⟨1, 3⟩
    ∃ e : Editor, Reachable b e ∧ e.mode = .normal ∧ e.waiting = false ∧ e.repeatCount = none ∧
      e.recording = none ∧ e.buffer = b ∧
      let keys := OperatorHead.keys {} .delete ++ (Motion.search .forward (.ofText ['c'])).keys
      let e' := e.after {} keys
      DeletesChars {} e keys s ∧ e'.cursorOffset = s.start ∧ e'.buffer = ⟨['a', 'c', 'd']⟩ ∧
        (e'.after {} [.char 'P']).buffer = ⟨['b', '\n', 'a', 'c', 'd']⟩ ∧
        (e'.after {} [.char 'P']).buffer ≠ b := by
  intro b s
  let e : Editor := ofResult (interpret {} b none [.char 'l'])
  have he : Reachable b e := .first {} [.char 'l']
  have hm : e.mode = .normal := by decide +kernel
  have hw : e.waiting = false := by decide +kernel
  have hn : e.repeatCount = none := by decide +kernel
  have htarget : (Motion.search .forward (.ofText ['c'])).target? {}
      (OperatorHead.typed {} .delete e) = some (.char 3 false) := by decide +kernel
  have hspan : ({ e with modifier := none } : Editor).spanTo 3 false = s := by decide +kernel
  have hdeletes := DeletesChars.motion {} hm hw hn (by simp) htarget
  have hkeeps : (Motion.search .forward (.ofText ['c'])).keeps (OperatorHead.modifier {}) = none :=
    rfl
  rw [hkeeps, hspan] at hdeletes
  refine ⟨e, he, hm, hw, hn, by decide +kernel, by decide +kernel, hdeletes, ?_⟩
  decide +kernel

/-! ### Deletions of rows -/

/-- **A deletion of rows**, the keys of it, the first of them and the last. -/
inductive DeletesRows (settings : Settings) (e : Editor) : List Key → Nat → Nat → Prop
  /-- The key of the operator is doubled: as many rows as are counted, and as there are. -/
  | doubled (h : OperatorHead) :
      DeletesRows settings e (h.keys .delete ++ [.char Operator.delete.key]) e.cursor.row
        (min (e.cursor.row + ((h.typed .delete e).count - 1)) e.buffer.lastRow)
  /-- A motion to a row is given to the operator. -/
  | motion (h : OperatorHead) {m : Motion} {row offset : Nat}
      (htarget : m.target? settings (h.typed .delete e) = some (.line row offset)) :
      DeletesRows settings e (h.keys .delete ++ m.keys) (min e.cursor.row row)
        (min (max e.cursor.row row) e.buffer.lastRow)

variable {first last : Nat}

theorem DeletesRows.bounds (he : e.clampCursor = e) (h : DeletesRows settings e keys first last) :
    first ≤ last ∧ last ≤ e.buffer.lastRow := by
  have hrow := (cursor_le_of_clampCursor_eq he).1
  cases h with
  | doubled => omega
  | motion => omega

theorem DeletesRows.deleted (he : Reachable b e) (hm : e.mode = .normal) (hw : e.waiting = false)
    (hn : e.repeatCount = none) (hrec : e.recording = none)
    (h : DeletesRows settings e keys first last) :
    let e' := e.after settings keys
    Deleted (e.buffer.remove (e.buffer.rowsSpan first last)) (e.buffer.rowsText first last) e' ∧
      e'.cursor.row = min first e'.buffer.lastRow := by
  intro e'
  have hclamped := he.clampCursor_eq
  have hrow := (cursor_le_of_clampCursor_eq hclamped).1
  have hk := continuation_of_not_waiting hw
  cases h with
  | doubled h =>
    have htyped : (h.typed .delete e).clampCursor = h.typed .delete e :=
      clampCursor_of_eq hclamped rfl rfl rfl
    have hrun : (h.typed .delete e).after settings [.char Operator.delete.key] = _ :=
      after_operand settings htyped hm hk hrec rfl
        (by simp : Operand.doubled ≠ .motion .rowStart)
    have hhead := after_head settings hclamped hm hk (operator_of_not_waiting hw) hn h .delete
      [.char Operator.delete.key]
    rw [captured_of_none hrec] at hhead
    have hafter : e' = _ := hhead.trans hrun
    rw [hafter]
    exact (Deleting.typed hm hw hrec h).deleted_applyRows (Nat.le_add_right _ _) hrow
  | motion h htarget =>
    rename_i m row offset
    have hz : m = .rowStart → h.since ++ h.late = [] := by
      rintro rfl
      simp [Motion.target?, rowStartTarget] at htarget
    obtain ⟨e₁, hr, hafter⟩ :=
      exists_after_operator_motion settings he hm hw hn hrec h .delete hz htarget
    have hdeleting := (Deleting.typed hm hw hrec h).of_reminded hr
    have hbuffer : e₁.buffer = e.buffer := hr.buffer
    have hcursor : e₁.cursor = e.cursor := hr.cursor
    rw [reach_line_of_operator hdeleting.operator] at hafter
    have he' : e' = _ := hafter
    rw [he', ← hbuffer, ← hcursor]
    refine hdeleting.deleted_applyRows (by omega) ?_
    rw [hbuffer, hcursor]
    omega

/-- **Rows that are deleted come back.** Wherever a run has led to, in normal mode, with nothing
half typed and no macro being recorded: after a deletion of rows, by the doubled key or by a motion,
the other rows are left. If the last row is among these, putting above the cursor gives back the
text; if it is not, and the first row is, putting below does. -/
theorem put_back_rows (he : Reachable b e) (hm : e.mode = .normal) (hw : e.waiting = false)
    (hn : e.repeatCount = none) (hrec : e.recording = none) (hsize : e.buffer.Addressable)
    (h : DeletesRows settings e keys first last) :
    let kept := e.buffer.rows.take first ++ e.buffer.rows.drop (last + 1)
    let e' := e.after settings keys
    first ≤ last ∧ last ≤ e.buffer.lastRow ∧
      e'.buffer.rows = (if kept = [] then [[]] else kept) ∧
      (last < e.buffer.lastRow → (e'.after settings [.char 'P']).buffer = e.buffer) ∧
      (last = e.buffer.lastRow → 0 < first →
        (e'.after settings [.char 'p']).buffer = e.buffer) := by
  intro kept e'
  obtain ⟨hfirst, hlast⟩ := h.bounds he.clampCursor_eq
  obtain ⟨hdeleted, hcursor⟩ := h.deleted he hm hw hn hrec
  have hlinewise := Buffer.isLinewise_rowsText hfirst hlast
  have hbuffer : e'.buffer = e.buffer.remove (e.buffer.rowsSpan first last) := hdeleted.buffer
  have hrows : e'.buffer.rows = if kept = [] then [[]] else kept := by
    rw [hbuffer]
    exact Buffer.rows_remove_rowsSpan hfirst hlast
  refine ⟨hfirst, hlast, hrows, ?_, ?_⟩
  · intro hlt
    obtain ⟨hrow, hback⟩ := Buffer.insert_rowsText hfirst hlt
    rw [← hbuffer] at hrow hback
    have hsize' : byteSize (e.buffer.rowsText first last) ≤ maxCount :=
      hsize.byteSize_le (congrArg Buffer.text hback.symm)
    have hput :=
      hdeleted.buffer_put_before settings hdeleted.selected hdeleted.unnamed hsize'
    rw [hput, if_pos hlinewise, hcursor, Nat.min_eq_left hrow, hback]
  · rintro rfl hpos
    obtain ⟨hrow, hback⟩ := Buffer.insert_rowsText_last hfirst hpos
    rw [← hbuffer] at hrow hback
    have hsize' : byteSize (e.buffer.rowsText first e.buffer.lastRow) ≤ maxCount := by
      -- The newline at the end of the register stands for the one that was taken from the front.
      have hle := hsize.byteSize_le (congrArg Buffer.text hback.symm)
      obtain ⟨t, ht⟩ := isLinewise_iff.1 hlinewise
      rw [ht, List.dropLast_concat, ← List.singleton_append, byteSize_append] at hle
      rw [ht, byteSize_append]
      omega
    have hcursor' : e'.cursor.row = e'.buffer.lastRow := hcursor.trans (Nat.min_eq_right hrow)
    have hput := hdeleted.buffer_put_after settings hdeleted.selected hdeleted.unnamed hsize'
      hlinewise hcursor'
    rw [hput, hcursor', hback]

/-- From the row in the middle: the rows up to the first come back above, those down to the last,
with a count that goes past it, come back below. -/
theorem put_back_rows_both_ways :
    let b : Buffer := ⟨['a', '\n', ' ', 'b', '\n', 'c']⟩
    let h : OperatorHead := { register := some 'r', before := ['1', '2'] }
    ∃ e : Editor, Reachable b e ∧ e.buffer = b ∧
      (let e₁ := e.after {} (OperatorHead.keys {} .delete ++ Motion.up.keys)
      e₁.buffer.rows = [['c']] ∧ (e₁.after {} [.char 'P']).buffer = b) ∧
      (let e₂ := e.after {} (h.keys .delete ++ [.char 'd'])
      e₂.buffer.rows = [['a']] ∧ (e₂.after {} [.char 'p']).buffer = b) := by
  intro b h
  let e : Editor := ofResult (interpret {} b none [.char 'j'])
  have he : Reachable b e := .first {} [.char 'j']
  have hbuffer : e.buffer = b := by decide +kernel
  have hback {keys : List Key} {first last : Nat} (hdeletes : DeletesRows {} e keys first last) :=
    put_back_rows he (by decide +kernel) (by decide +kernel) (by decide +kernel) (by decide +kernel)
      (by decide +kernel) hdeletes
  have htarget : Motion.up.target? {} (OperatorHead.typed {} .delete e) = some (.line 0 0) := by
    decide +kernel
  obtain ⟨-, -, hrows₁, habove, -⟩ := hback (.motion {} htarget)
  obtain ⟨-, -, hrows₂, -, hbelow⟩ := hback (.doubled h)
  exact ⟨e, he, hbuffer,
    ⟨hrows₁.trans (by decide +kernel), (habove (by decide +kernel)).trans hbuffer⟩,
    ⟨hrows₂.trans (by decide +kernel),
      (hbelow (by decide +kernel) (by decide +kernel)).trans hbuffer⟩⟩

end Editor

end ModalEditor
