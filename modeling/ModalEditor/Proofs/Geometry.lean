import ModalEditor.Editor.Searching

/-!
# Where rows, words and matches are

A row starts after as many newlines as its number says, and ends in the buffer. The position of an
offset names the row that starts last before it. Tokens and matches lie in the text that they were
found in; how they lie there does not depend on the offset that the text itself has.
-/

namespace ModalEditor

/-! ### Rows -/

/-- A row starts in the text, with as many newlines before it as its number says. -/
theorem count_take_rowStartFrom {offset n k : Nat} {t : Text}
    (h : rowStartFrom offset n t = some k) :
    k ≤ offset + t.length ∧ (t.take (k - offset)).count '\n' = n := by
  induction t generalizing offset n with
  | nil =>
    cases n with
    | zero => simp_all [rowStartFrom]
    | succ n => simp [rowStartFrom] at h
  | cons c t ih =>
    cases n with
    | zero => simp_all [rowStartFrom]
    | succ n =>
      have step (m : Nat) (hm : rowStartFrom (offset + 1) m t = some k) :
          k ≤ offset + (c :: t).length ∧
            ((c :: t).take (k - offset)).count '\n' = (c :: t.take (k - (offset + 1))).count '\n' ∧
            (t.take (k - (offset + 1))).count '\n' = m := by
        have hle := (Buffer.drop_rowStartFrom hm).1
        obtain ⟨hend, hcount⟩ := ih hm
        rw [List.length_cons, show k - offset = k - (offset + 1) + 1 by omega, List.take_succ_cons]
        exact ⟨by omega, rfl, hcount⟩
      unfold rowStartFrom at h
      split at h <;> rename_i hc
      · obtain ⟨hend, htake, hcount⟩ := step n h
        exact ⟨hend, by rw [htake, hc, List.count_cons_self, hcount]⟩
      · obtain ⟨hend, htake, hcount⟩ := step (n + 1) h
        exact ⟨hend, by rw [htake, List.count_cons_of_ne hc, hcount]⟩

/-- The position `n` characters on is in the row that starts last before it. -/
theorem positionFrom_eq (offset row col n : Nat) (t : Text) :
    ∃ k, rowStartFrom offset ((t.take n).count '\n') t = some k ∧ k ≤ offset + min n t.length ∧
      positionFrom row col n t =
        ⟨row + (t.take n).count '\n',
          (if (t.take n).count '\n' = 0 then col else 0) + (offset + min n t.length - k)⟩ := by
  induction t generalizing offset row col n with
  | nil => cases n <;> exact ⟨offset, by simp [rowStartFrom], by simp, by simp [positionFrom]⟩
  | cons c t ih =>
    cases n with
    | zero => exact ⟨offset, by simp [rowStartFrom], by simp, by simp [positionFrom]⟩
    | succ n =>
      by_cases hc : c = '\n'
      · obtain ⟨k, hstart, hle, hpos⟩ := ih (offset + 1) (row + 1) 0 n
        refine ⟨k, by simpa [rowStartFrom, hc] using hstart, by simp; omega, ?_⟩
        simp only [positionFrom, hc, if_true, hpos]
        simp
        omega
      · obtain ⟨k, hstart, hle, hpos⟩ := ih (offset + 1) row (col + 1) n
        have hcount : ((c :: t).take (n + 1)).count '\n' = (t.take n).count '\n' := by simp [hc]
        rw [hcount]
        cases hrows : (t.take n).count '\n' with
        | zero =>
          rw [hrows] at hstart hpos
          simp only [rowStartFrom, Option.some.injEq] at hstart
          refine ⟨offset, rfl, by omega, ?_⟩
          simp only [positionFrom, hc, if_false, hpos, List.length_cons]
          simp
          omega
        | succ m =>
          rw [hrows] at hstart hpos
          refine ⟨k, by simpa [rowStartFrom, hc] using hstart, by simp; omega, ?_⟩
          simp only [positionFrom, hc, if_false, hpos, List.length_cons]
          simp
          omega

namespace Buffer

variable {b : Buffer} {row : Nat}

theorem lastRow_le_length (b : Buffer) : b.lastRow ≤ b.length := List.count_le_length

theorem rowStart?_eq (h : row ≤ b.lastRow) : b.rowStart? row = some (b.rowStart row) := by
  obtain ⟨k, hk⟩ := Option.isSome_iff_exists.1 ((isSome_rowStart? b row).2 h)
  rw [rowStart, hk]
  rfl

/-- The number of a row is that of the newlines before it. -/
theorem count_take_rowStart (h : row ≤ b.lastRow) :
    (b.text.take (b.rowStart row)).count '\n' = row :=
  (count_take_rowStartFrom (rowStart?_eq h)).2

theorem rowStart_add_rowLength_le (h : row ≤ b.lastRow) :
    b.rowStart row + b.rowLength row ≤ b.length := by
  have hstart := rowStart?_eq h
  have hle := (count_take_rowStartFrom hstart).1
  have hdrop := (drop_rowStartFrom hstart).2
  rw [Nat.sub_zero] at hdrop
  have hrow : b.rowLength row ≤ (b.text.drop (b.rowStart row)).length := by
    rw [rowLength, rowText, ← hdrop]
    exact (List.takeWhile_sublist _).length_le
  rw [List.length_drop] at hrow
  unfold length
  omega

theorem rowLength_le_length (b : Buffer) (row : Nat) : b.rowLength row ≤ b.length := by
  by_cases h : row ≤ b.lastRow
  · exact Nat.le_trans (Nat.le_add_left _ _) (rowStart_add_rowLength_le h)
  · rw [rowLength, rowText_eq, List.getElem?_eq_none (by rw [length_rows, lineCount]; omega)]
    exact Nat.zero_le _

theorem rowStart_le_rowStart {row' : Nat} (h : row ≤ row') (h' : row' ≤ b.lastRow) :
    b.rowStart row ≤ b.rowStart row' := by
  refine Nat.le_of_not_lt fun hlt => ?_
  have hcount := count_take_rowStart (Nat.le_trans h h')
  have hsub := ((List.take_prefix_take_left (l := b.text) (Nat.le_of_lt hlt)).sublist).count_le '\n'
  rw [hcount, count_take_rowStart h'] at hsub
  obtain rfl := Nat.le_antisymm h hsub
  exact absurd hlt (Nat.lt_irrefl _)

/-- The end of a row in the text, as the sum of where it starts and how long it is. -/
theorem rowEnd_eq (h : row ≤ b.lastRow) : b.rowEnd row = b.rowStart row + b.rowLength row := by
  rw [rowEnd, rowEnd?, rowStart?_eq h]
  rfl

theorem firstNonBlank_eq (h : row ≤ b.lastRow) :
    b.firstNonBlank row = b.rowStart row + (leadingBlanks (b.rowText row)).length := by
  rw [firstNonBlank, firstNonBlank?, rowStart?_eq h]
  rfl

theorem length_leadingBlanks_le (b : Buffer) (row : Nat) :
    (leadingBlanks (b.rowText row)).length ≤ b.rowLength row :=
  (List.takeWhile_sublist _).length_le

theorem firstNonBlank_le (h : row ≤ b.lastRow) : b.firstNonBlank row ≤ b.length := by
  have hend := rowStart_add_rowLength_le h
  have hblanks := b.length_leadingBlanks_le row
  rw [firstNonBlank_eq h]
  omega

theorem offsetAt_le_length (b : Buffer) (p : Position) : b.offsetAt p ≤ b.length := by
  have hend := rowStart_add_rowLength_le (Nat.min_le_right p.row b.lastRow)
  have hcol := Nat.min_le_right p.col (b.rowLength (min p.row b.lastRow))
  unfold offsetAt
  dsimp only
  omega

theorem count_take_le_lastRow (b : Buffer) (offset : Nat) :
    (b.text.take offset).count '\n' ≤ b.lastRow :=
  (List.take_sublist offset b.text).count_le '\n'

/-- **The position of an offset** is so many columns from the start of its row as the offset is. -/
theorem positionAt_eq (b : Buffer) (offset : Nat) :
    b.rowStart ((b.text.take offset).count '\n') ≤ min offset b.length ∧
      b.positionAt offset =
        ⟨(b.text.take offset).count '\n',
          min offset b.length - b.rowStart ((b.text.take offset).count '\n')⟩ := by
  obtain ⟨k, hstart, hle, hpos⟩ := positionFrom_eq 0 0 0 offset b.text
  have hk : b.rowStart ((b.text.take offset).count '\n') = k := by
    have hsome := rowStart?_eq (count_take_le_lastRow b offset)
    rw [rowStart?, hstart] at hsome
    exact (Option.some.inj hsome).symm
  rw [hk]
  refine ⟨by simpa [length] using hle, ?_⟩
  rw [positionAt, hpos]
  simp [length]

theorem positionAt_row_le (b : Buffer) (offset : Nat) : (b.positionAt offset).row ≤ b.lastRow := by
  rw [(positionAt_eq b offset).2]
  exact count_take_le_lastRow b offset

/-! ### Edits -/

theorem length_insert (b : Buffer) (offset : Nat) (t : Text) :
    (b.insert offset t).length = b.length + t.length := by
  simp only [length, text_insert, List.length_append, List.length_take, List.length_drop]
  omega

theorem lastRow_insert (b : Buffer) (offset : Nat) (t : Text) :
    (b.insert offset t).lastRow = b.lastRow + t.count '\n' := by
  have hsplit : b.text.count '\n' =
      (b.text.take offset).count '\n' + (b.text.drop offset).count '\n' := by
    rw [← List.count_append, List.take_append_drop]
  simp only [lastRow, text_insert, List.count_append, hsplit]
  omega

theorem length_remove_le (b : Buffer) (s : Span) : (b.remove s).length ≤ b.length := by
  simp only [length, text_remove, List.length_append, List.length_take, List.length_drop]
  omega

/-- What stands before a span stays. -/
theorem take_remove {s : Span} {n : Nat} (h : n ≤ s.start) :
    (b.remove s).text.take n = b.text.take n := by
  by_cases hn : n ≤ b.text.length
  · rw [text_remove, List.take_append_of_le_length (by rw [List.length_take]; omega),
      List.take_take, Nat.min_eq_left h]
  · have hlen : b.text.length ≤ n := by omega
    rw [text_remove, List.take_of_length_le (Nat.le_trans hlen h),
      List.drop_of_length_le (Nat.le_trans (Nat.le_trans hlen h) (Nat.le_max_left _ _)),
      List.append_nil]

/-- Cutting out spans from a row on leaves that row in place. -/
theorem take_foldr_remove {n : Nat} {spans : List Span} (h : ∀ s ∈ spans, n ≤ s.start) :
    (spans.foldr (fun s acc => acc.remove s) b).text.take n = b.text.take n := by
  induction spans with
  | nil => rfl
  | cons s spans ih =>
    rw [List.foldr_cons, take_remove (h s List.mem_cons_self),
      ih fun s hs => h s (List.mem_cons_of_mem _ hs)]

theorem le_lastRow_of_take_eq {b' : Buffer} (h : row ≤ b.lastRow)
    (htake : b'.text.take (b.rowStart row) = b.text.take (b.rowStart row)) : row ≤ b'.lastRow :=
  calc
    row = (b'.text.take (b.rowStart row)).count '\n' := by rw [htake, count_take_rowStart h]
    _ ≤ b'.lastRow := count_take_le_lastRow b' _

end Buffer

/-! ### Words -/

/-- A token with the offset that it has in a longer text. -/
def WordToken.shift (n : Nat) (t : WordToken) : WordToken := ⟨t.text, n + t.start, n + t.stop⟩

theorem WordToken.last_shift {t : WordToken} (h : 0 < t.stop) (n : Nat) :
    (t.shift n).last = n + t.last := by
  simp only [last, shift]
  omega

/-- Where tokens are depends on the offset of the text as it should. -/
theorem tokensFrom_add (kind : WordKind) (n start : Nat) (t : Text) :
    tokensFrom kind (n + start) t = (tokensFrom kind start t).map (.shift n) := by
  fun_induction tokensFrom kind start t with
  | case1 => rw [tokensFrom.eq_def, List.map_nil]
  | case2 start c rest hc ih =>
    rw [tokensFrom.eq_def]
    dsimp only
    rw [if_pos hc, Nat.add_assoc, ih]
  | case3 start c rest hc more ih =>
    rw [tokensFrom.eq_def]
    dsimp only
    rw [if_neg hc]
    simp only [List.map_cons, WordToken.shift, ← ih, ← Nat.add_assoc]
    rfl

theorem tokensFrom_eq_map_tokenize (kind : WordKind) (n : Nat) (t : Text) :
    tokensFrom kind n t = (tokenize kind t).map (.shift n) := tokensFrom_add kind n 0 t

/-- Tokens are not empty, and lie in the text. -/
theorem bounds_of_mem_tokensFrom {kind : WordKind} {start : Nat} {t : Text} {w : WordToken}
    (h : w ∈ tokensFrom kind start t) :
    start ≤ w.start ∧ w.start < w.stop ∧ w.stop ≤ start + t.length := by
  fun_induction tokensFrom kind start t with
  | case1 => simp at h
  | case2 start c rest hc ih =>
    have hrest := ih h
    rw [List.length_cons]
    omega
  | case3 start c rest hc more ih =>
    have hmore : more ≤ rest.length := runLength_le kind c rest
    rw [List.length_cons]
    rcases List.mem_cons.1 h with rfl | h
    · dsimp only
      omega
    · have hrest := ih h
      rw [List.length_drop] at hrest
      omega

namespace Buffer

theorem wordBefore_le (b : Buffer) (offset : Nat) : b.wordBefore offset ≤ offset := by
  unfold wordBefore
  split
  · have hle := (List.takeWhile_sublist (l := (b.text.take offset).reverse) isWordChar).length_le
    rw [List.length_reverse, List.length_take] at hle
    omega
  · exact Nat.zero_le _

theorem wordAfter_le (b : Buffer) (offset : Nat) : b.wordAfter offset ≤ b.length - offset := by
  have hle := (List.takeWhile_sublist (l := b.text.drop offset) isWordChar).length_le
  rwa [List.length_drop] at hle

variable {b : Buffer} {kind : WordKind} {offset : Nat}

/-- A token after an offset, in the whole text. -/
theorem bounds_of_mem_tokenize_drop {w : WordToken} (hoffset : offset ≤ b.length)
    (hw : w ∈ tokenize kind (b.text.drop offset)) :
    w.start < w.stop ∧ offset + w.stop ≤ b.length := by
  have hbounds := bounds_of_mem_tokensFrom hw
  rw [List.length_drop] at hbounds
  unfold length at hoffset ⊢
  omega

theorem nextWordStart_le (b : Buffer) (kind : WordKind) (hoffset : offset ≤ b.length) :
    b.nextWordStart kind offset ≤ b.length := by
  unfold nextWordStart
  dsimp only
  split
  · rename_i w hfind
    have hbounds := bounds_of_mem_tokensFrom (List.mem_of_find?_eq_some hfind)
    rw [List.length_drop] at hbounds
    unfold length at hoffset ⊢
    omega
  · exact Nat.le_refl _

theorem previousWordStart_le (b : Buffer) (kind : WordKind) (offset : Nat) :
    b.previousWordStart kind offset ≤ b.length := by
  unfold previousWordStart
  cases hlast : (tokenize kind (b.text.take offset)).getLast? with
  | none => exact Nat.zero_le _
  | some w =>
    have hbounds := bounds_of_mem_tokensFrom (List.mem_of_getLast? hlast)
    rw [List.length_take] at hbounds
    simp only [Option.map_some, Option.getD_some]
    unfold length
    omega

theorem nextWordLast?_le {last : Nat} (hlast : b.nextWordLast? kind offset = some last) :
    last ≤ b.length := by
  unfold nextWordLast? at hlast
  obtain ⟨w, hw, rfl⟩ := Option.map_eq_some_iff.1 hlast
  have hbounds := bounds_of_mem_tokensFrom (List.mem_of_mem_head? hw)
  rw [List.length_drop] at hbounds
  unfold WordToken.last length
  omega

theorem skipWords_le (b : Buffer) (kind : WordKind) (n : Nat) (hoffset : offset ≤ b.length) :
    b.skipWords kind n offset ≤ b.length := by
  induction n generalizing offset with
  | zero => exact hoffset
  | succ n ih =>
    unfold skipWords
    split
    · exact hoffset
    · exact ih (nextWordStart_le b kind hoffset)

theorem backWords_le (b : Buffer) (kind : WordKind) (n : Nat) (hoffset : offset ≤ b.length) :
    b.backWords kind n offset ≤ b.length := by
  induction n generalizing offset with
  | zero => exact hoffset
  | succ n ih =>
    unfold backWords
    split
    · exact Nat.zero_le _
    · exact ih (previousWordStart_le b kind offset)

end Buffer

/-! ### Matches -/

namespace Pattern.Regex

theorem findFrom_start {r : Regex} {start : Nat} {before : Option Char} {t : Text} {m : Span}
    (h : r.findFrom start before t = some m) :
    start ≤ m.start ∧ m.start ≤ start + t.length := by
  induction t generalizing start before with
  | nil =>
    obtain ⟨n, -, rfl⟩ := Option.map_eq_some_iff.1 h
    exact ⟨Nat.le_refl _, Nat.le_add_right _ _⟩
  | cons c t ih =>
    unfold findFrom at h
    rw [List.length_cons]
    split at h
    · obtain rfl := Option.some.inj h
      exact ⟨Nat.le_refl _, Nat.le_add_right _ _⟩
    · have hrest := ih h
      omega

/-- A match that is found from an offset starts there or after it, in the text. -/
theorem find?_start {r : Regex} {t : Text} {offset : Nat} {m : Span}
    (hoffset : offset ≤ t.length) (h : r.find? t offset = some m) :
    offset ≤ m.start ∧ m.start ≤ t.length := by
  have hstart := findFrom_start h
  rw [List.length_drop] at hstart
  omega

theorem findLastFrom_start {r : Regex} {start : Nat} {before : Option Char} {t : Text} {m : Span}
    (h : r.findLastFrom start before t = some m) :
    start ≤ m.start ∧ m.start ≤ start + t.length := by
  induction t generalizing start before with
  | nil =>
    obtain ⟨n, -, rfl⟩ := Option.map_eq_some_iff.1 h
    exact ⟨Nat.le_refl _, Nat.le_add_right _ _⟩
  | cons c t ih =>
    unfold findLastFrom at h
    rw [List.length_cons]
    split at h
    · rename_i s hs
      obtain rfl := Option.some.inj h
      have hrest := ih hs
      omega
    · obtain ⟨n, -, rfl⟩ := Option.map_eq_some_iff.1 h
      exact ⟨Nat.le_refl _, Nat.le_add_right _ _⟩

/-! #### Place by place -/

section Places

variable {r : Regex} {t : Text} {pos : Nat}

/-- The last match from an offset on. -/
def lastFrom (r : Regex) (t : Text) (pos : Nat) : Option Span :=
  r.findLastFrom pos (charBefore t pos) (t.drop pos)

theorem charBefore_succ (h : pos < t.length) : charBefore t (pos + 1) = some t[pos] := by
  rw [charBefore, if_neg (Nat.succ_ne_zero pos), Nat.add_sub_cancel, List.getElem?_eq_getElem h]

/-- A search looks at its own place first. -/
theorem find?_eq_or (h : pos < t.length) :
    r.find? t pos = (r.matchAt? t pos).or (r.find? t (pos + 1)) := by
  unfold find? matchAt?
  rw [List.drop_eq_getElem_cons h, findFrom, charBefore_succ h]
  cases r.matchLength? (charBefore t pos) (t[pos] :: t.drop (pos + 1)) <;> rfl

/-- The last match is here only if there is none further on. -/
theorem lastFrom_eq_or (h : pos < t.length) :
    r.lastFrom t pos = (r.lastFrom t (pos + 1)).or (r.matchAt? t pos) := by
  unfold lastFrom matchAt?
  rw [List.drop_eq_getElem_cons h, findLastFrom, charBefore_succ h]
  cases r.findLastFrom (pos + 1) (some t[pos]) (t.drop (pos + 1)) <;> rfl

/-- At the end of the text one place is left. -/
theorem find?_length (r : Regex) (t : Text) : r.find? t t.length = r.matchAt? t t.length := by
  unfold find? matchAt?
  rw [List.drop_length]
  rfl

theorem lastFrom_length (r : Regex) (t : Text) : r.lastFrom t t.length = r.find? t t.length := by
  unfold lastFrom find?
  rw [List.drop_length]
  rfl

/-- **From match to match**: the last match is the first, unless there is one after its start. -/
theorem lastFrom_eq_of_find? (h : pos ≤ t.length) :
    r.lastFrom t pos =
      match r.find? t pos with
      | none => none
      | some m =>
        if m.start < t.length then (r.lastFrom t (m.start + 1)).or (some m) else some m := by
  -- the places from the end of the text backward
  induction hn : t.length - pos generalizing pos with
  | zero =>
    obtain rfl : pos = t.length := by omega
    rw [lastFrom_length]
    cases hfind : r.find? t t.length with
    | none => rfl
    | some m =>
      have hstart := (find?_start (Nat.le_refl _) hfind).1
      dsimp only
      rw [if_neg (by omega)]
  | succ n ih =>
    have hlt : pos < t.length := by omega
    rw [lastFrom_eq_or hlt, find?_eq_or hlt]
    cases hmatch : r.matchAt? t pos with
    | none => rw [Option.none_or, Option.or_none, ih hlt (by omega)]
    | some m =>
      obtain ⟨k, -, rfl⟩ := Option.map_eq_some_iff.1 hmatch
      dsimp only [Option.some_or]
      rw [if_pos hlt]

/-- Nothing is found from an offset on just when no place from there on has a match. The induction is
on the places that are left. -/
theorem eq_none_iff_forall {f : Nat → Option Span}
    (hstep : ∀ o, o < t.length → (f o = none ↔ r.matchAt? t o = none ∧ f (o + 1) = none))
    (hlast : f t.length = r.matchAt? t t.length) (h : pos ≤ t.length) :
    f pos = none ↔ ∀ o, pos ≤ o → o ≤ t.length → r.matchAt? t o = none := by
  induction hn : t.length - pos generalizing pos with
  | zero =>
    obtain rfl : pos = t.length := by omega
    rw [hlast]
    constructor
    · intro hnone o ho ho'
      rwa [Nat.le_antisymm ho' ho]
    · intro hall
      exact hall _ (Nat.le_refl _) (Nat.le_refl _)
  | succ n ih =>
    rw [hstep pos (by omega), ih (by omega) (by omega)]
    constructor
    · rintro ⟨hhere, hrest⟩ o ho ho'
      by_cases heq : o = pos
      · rwa [heq]
      · exact hrest o (by omega) ho'
    · intro hall
      exact ⟨hall pos (Nat.le_refl _) h, fun o ho => hall o (Nat.le_of_succ_le ho)⟩

theorem find?_eq_none_iff (h : pos ≤ t.length) :
    r.find? t pos = none ↔ ∀ o, pos ≤ o → o ≤ t.length → r.matchAt? t o = none := by
  refine eq_none_iff_forall (fun o ho => ?_) ?_ h
  · rw [find?_eq_or ho, Option.or_eq_none_iff]
  · exact find?_length r t

theorem lastFrom_eq_none_iff (h : pos ≤ t.length) :
    r.lastFrom t pos = none ↔ ∀ o, pos ≤ o → o ≤ t.length → r.matchAt? t o = none := by
  refine eq_none_iff_forall (fun o ho => ?_) ?_ h
  · rw [lastFrom_eq_or ho, Option.or_eq_none_iff]
    exact and_comm
  · exact (lastFrom_length r t).trans (find?_length r t)

end Places

end Pattern.Regex

namespace Buffer

variable {b : Buffer} {p : SearchPattern}

theorem findNext_start {offset : Nat} {hit : SearchHit} (h : b.findNext p offset = some hit) :
    hit.span.start ≤ b.length := by
  unfold findNext at h
  split at h
  · rename_i span hspan
    obtain rfl := Option.some.inj h
    exact (Pattern.Regex.find?_start (Nat.min_le_right _ _) hspan).2
  · obtain ⟨span, hspan, rfl⟩ := Option.map_eq_some_iff.1 h
    exact (Pattern.Regex.find?_start (Nat.zero_le _) hspan).2

theorem findPrevious_start {offset : Nat} {hit : SearchHit}
    (h : b.findPrevious p offset = some hit) : hit.span.start ≤ b.length := by
  unfold findPrevious at h
  split at h
  · rename_i span hspan
    obtain rfl := Option.some.inj h
    have hstart := (Pattern.Regex.findLastFrom_start hspan).2
    rw [Nat.zero_add, List.length_take] at hstart
    exact Nat.le_trans hstart (Nat.min_le_right _ _)
  · obtain ⟨span, hspan, rfl⟩ := Option.map_eq_some_iff.1 h
    have hstart := (Pattern.Regex.findLastFrom_start hspan).2
    rw [Nat.zero_add] at hstart
    exact hstart

theorem findTowards_start {d : Direction} {offset : Nat} {hit : SearchHit}
    (h : b.findTowards p d offset = some hit) : hit.span.start ≤ b.length := by
  cases d with
  | forward => exact findNext_start h
  | backward => exact findPrevious_start h

theorem findNth_start {d : Direction} {n offset : Nat} {hit : SearchHit}
    (h : b.findNth p d n offset = some hit) : hit.span.start ≤ b.length := by
  induction n generalizing offset with
  | zero => simp [findNth] at h
  | succ n ih =>
    unfold findNth at h
    split at h
    · simp at h
    · rename_i first hfirst
      cases hnext : b.findNth p d n (offsetAfter d first) with
      | some next =>
        rw [hnext] at h
        obtain rfl := Option.some.inj h
        exact ih hnext
      | none =>
        rw [hnext] at h
        obtain rfl := Option.some.inj h
        exact findTowards_start hfirst

end Buffer

end ModalEditor
