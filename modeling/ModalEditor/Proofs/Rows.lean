import ModalEditor.Proofs.Geometry

/-!
# The rows of a text

The rows of a text are its parts between newlines, and what is cut out of the text at the ends of
rows is cut out of the list of its rows. All follows from where a row starts: before it stand the
rows above, each with its newline behind it (`Buffer.take_rowStart`), and after its end the rows
below, each behind its newline (`Buffer.drop_rowEnd`). So whole rows that are removed or replaced in
the text are removed from the list or replaced in it (`Buffer.rows_remove_rowsSpan`,
`Buffer.rows_replace_rows`). The pieces of a rectangle are removed from the lowest row up, which
leaves the rows above where they were: the offsets from before the first removal stay good
(`Buffer.rows_foldr_remove`).
-/

namespace ModalEditor

/-! ### Rows and newlines -/

/-- The rows are the parts of the text between its newlines. -/
theorem splitRows_eq_splitOn (t : Text) : splitRows t = t.splitOn '\n' := by
  induction t with
  | nil => rfl
  | cons c t ih => simp [splitRows, ih, List.splitOn_cons_eq_if_modifyHead]

theorem intercalate_splitRows (t : Text) : List.intercalate ['\n'] (splitRows t) = t := by
  rw [splitRows_eq_splitOn, List.intercalate_splitOn]

theorem splitRows_intercalate {rows : List Text} (h : ∀ row ∈ rows, '\n' ∉ row)
    (hne : rows ≠ []) : splitRows (List.intercalate ['\n'] rows) = rows := by
  rw [splitRows_eq_splitOn, List.splitOn_intercalate '\n' h hne]

/-- A newline stands between the rows before it and those after it. -/
theorem splitRows_append_newline (s t : Text) :
    splitRows (s ++ '\n' :: t) = splitRows s ++ splitRows t := by
  simp only [splitRows_eq_splitOn, List.splitOn_append_cons_self]

theorem splitRows_of_notMem {t : Text} (h : '\n' ∉ t) : splitRows t = [t] := by
  rw [splitRows_eq_splitOn, List.splitOn_eq_singleton h]

theorem newline_notMem_of_mem_splitRows {t row : Text} (h : row ∈ splitRows t) : '\n' ∉ row := by
  induction t generalizing row with
  | nil => simp_all [splitRows]
  | cons c t ih =>
    unfold splitRows at h
    split at h
    · rcases List.mem_cons.1 h with rfl | h
      · simp
      · exact ih h
    · rename_i hc
      cases hrows : splitRows t with
      | nil => exact absurd hrows (Buffer.splitRows_ne_nil t)
      | cons first rest =>
        rw [hrows] at h ih
        rcases List.mem_cons.1 h with rfl | h
        · have := ih List.mem_cons_self
          simp [Ne.symm hc, this]
        · exact ih (List.mem_cons_of_mem _ h)

theorem intercalate_cons (row : Text) (rows : List Text) :
    List.intercalate ['\n'] (row :: rows) = row ++ rows.flatMap ('\n' :: ·) := by
  induction rows generalizing row with
  | nil => simp
  | cons row' rows ih => rw [List.intercalate_cons_cons, ih]; simp

theorem intercalate_append (rows : List Text) {rows' : List Text} (h : rows' ≠ []) :
    List.intercalate ['\n'] (rows ++ rows') =
      rows.flatMap (· ++ ['\n']) ++ List.intercalate ['\n'] rows' := by
  induction rows with
  | nil => rfl
  | cons row rows ih =>
    rw [List.cons_append, List.intercalate_cons_of_ne_nil (by simp [h]), ih]
    simp

theorem splitRows_flatMap_append {rows : List Text} (h : ∀ row ∈ rows, '\n' ∉ row) (t : Text) :
    splitRows (rows.flatMap (· ++ ['\n']) ++ t) = rows ++ splitRows t := by
  induction rows with
  | nil => rfl
  | cons row rows ih =>
    obtain ⟨hrow, hrows⟩ := List.forall_mem_cons.1 h
    have hcons : (row :: rows).flatMap (· ++ ['\n']) ++ t =
        row ++ '\n' :: (rows.flatMap (· ++ ['\n']) ++ t) := by simp
    rw [hcons, splitRows_append_newline, splitRows_of_notMem hrow, ih hrows]
    rfl

theorem splitRows_append_flatMap {rows : List Text} (h : ∀ row ∈ rows, '\n' ∉ row) (t : Text) :
    splitRows (t ++ rows.flatMap ('\n' :: ·)) = splitRows t ++ rows := by
  induction rows generalizing t with
  | nil => simp
  | cons row rows ih =>
    obtain ⟨hrow, hrows⟩ := List.forall_mem_cons.1 h
    have hcons : t ++ (row :: rows).flatMap ('\n' :: ·) =
        (t ++ '\n' :: row) ++ rows.flatMap ('\n' :: ·) := by simp
    rw [hcons, ih hrows, splitRows_append_newline, splitRows_of_notMem hrow]
    simp

theorem splitRows_dropRows {n : Nat} {t : Text} (h : n ≤ t.count '\n') :
    splitRows (dropRows n t) = (splitRows t).drop n := by
  induction t generalizing n with
  | nil =>
    obtain rfl : n = 0 := by simpa using h
    rfl
  | cons c t ih =>
    cases n with
    | zero => rfl
    | succ n =>
      by_cases hc : c = '\n'
      · have hn : n ≤ t.count '\n' := by simpa [hc] using h
        simp [dropRows, splitRows, hc, ih hn]
      · have hn : n + 1 ≤ t.count '\n' := by simpa [hc] using h
        cases hrows : splitRows t with
        | nil => exact absurd hrows (Buffer.splitRows_ne_nil t)
        | cons row rows => simp [dropRows, splitRows, hc, ih hn, hrows]

theorem flatMap_take_append_dropRows {n : Nat} {t : Text} (h : n ≤ t.count '\n') :
    ((splitRows t).take n).flatMap (· ++ ['\n']) ++ dropRows n t = t := by
  induction t generalizing n with
  | nil =>
    obtain rfl : n = 0 := by simpa using h
    rfl
  | cons c t ih =>
    cases n with
    | zero => rfl
    | succ n =>
      by_cases hc : c = '\n'
      · have hn : n ≤ t.count '\n' := by simpa [hc] using h
        simp [dropRows, splitRows, hc, ih hn]
      · have hn : n + 1 ≤ t.count '\n' := by simpa [hc] using h
        have hrest := ih hn
        cases hrows : splitRows t with
        | nil => exact absurd hrows (Buffer.splitRows_ne_nil t)
        | cons row rows =>
          rw [hrows] at hrest
          simpa [dropRows, splitRows, hc, hrows] using hrest

namespace Buffer

variable {b : Buffer} {row : Nat}

/-! ### Cutting between rows -/

theorem newline_notMem_of_mem_rows {r : Text} (h : r ∈ b.rows) : '\n' ∉ r :=
  newline_notMem_of_mem_splitRows h

theorem drop_rows_eq_cons (h : row ≤ b.lastRow) :
    b.rows.drop row = b.rowText row :: b.rows.drop (row + 1) := by
  have hlt : row < b.rows.length := by
    rw [length_rows, lineCount]
    omega
  rw [List.drop_eq_getElem_cons hlt, rowText_eq, List.getElem?_eq_getElem hlt, Option.getD_some]

theorem take_rows_succ (h : row ≤ b.lastRow) :
    b.rows.take (row + 1) = b.rows.take row ++ [b.rowText row] := by
  rw [List.take_add, drop_rows_eq_cons h]
  rfl

/-- From the start of a row on the text is what follows the newline before it. -/
theorem text_drop_rowStart (h : row ≤ b.lastRow) :
    b.text.drop (b.rowStart row) = dropRows row b.text := by
  have hdrop := (drop_rowStartFrom (rowStart?_eq h)).2
  rwa [Nat.sub_zero] at hdrop

/-- Before the start of a row stand the rows before it, each with its newline. -/
theorem take_rowStart (h : row ≤ b.lastRow) :
    b.text.take (b.rowStart row) = (b.rows.take row).flatMap (· ++ ['\n']) := by
  have hsplit := flatMap_take_append_dropRows h
  rw [← text_drop_rowStart h] at hsplit
  have heq := (List.take_append_drop (b.rowStart row) b.text).trans hsplit.symm
  exact List.append_cancel_right heq

/-- Where a row starts, by the rows before it. -/
theorem rowStart_eq_length (h : row ≤ b.lastRow) :
    b.rowStart row = ((b.rows.take row).flatMap (· ++ ['\n'])).length := by
  have hle := rowStart_add_rowLength_le h
  rw [← take_rowStart h, List.length_take]
  unfold length at hle
  omega

/-- From the start of a row on the text is that row and those after it. -/
theorem drop_rowStart_eq (h : row ≤ b.lastRow) :
    b.text.drop (b.rowStart row) =
      b.rowText row ++ (b.rows.drop (row + 1)).flatMap ('\n' :: ·) := by
  have hrows : splitRows (dropRows row b.text) = b.rows.drop row := splitRows_dropRows h
  rw [text_drop_rowStart h, ← intercalate_splitRows (dropRows row b.text), hrows,
    drop_rows_eq_cons h, intercalate_cons]

/-- After the end of a row stand the rows after it, each behind its newline. -/
theorem drop_rowEnd (h : row ≤ b.lastRow) :
    b.text.drop (b.rowEnd row) = (b.rows.drop (row + 1)).flatMap ('\n' :: ·) := by
  rw [rowEnd_eq h, ← List.drop_drop, drop_rowStart_eq h]
  exact List.drop_left

/-! ### Editing rows -/

theorem splitRows_between {first last : Nat} (hfirst : first ≤ b.lastRow) (hlast : last ≤ b.lastRow)
    (t : Text) :
    splitRows (b.text.take (b.rowStart first) ++ t ++ b.text.drop (b.rowEnd last)) =
      b.rows.take first ++ splitRows t ++ b.rows.drop (last + 1) := by
  have hbefore : ∀ r ∈ b.rows.take first, '\n' ∉ r := fun r hr =>
    newline_notMem_of_mem_rows (List.mem_of_mem_take hr)
  have hafter : ∀ r ∈ b.rows.drop (last + 1), '\n' ∉ r := fun r hr =>
    newline_notMem_of_mem_rows (List.mem_of_mem_drop hr)
  rw [take_rowStart hfirst, drop_rowEnd hlast, splitRows_append_flatMap hafter,
    splitRows_flatMap_append hbefore]

/-- Before the end of a row stand the rows up to it. -/
theorem take_rowEnd (h : row ≤ b.lastRow) :
    b.text.take (b.rowEnd row) = List.intercalate ['\n'] (b.rows.take (row + 1)) := by
  have hrow : (b.text.drop (b.rowStart row)).take (b.rowLength row) = b.rowText row := by
    rw [drop_rowStart_eq h]
    exact List.take_left
  rw [rowEnd_eq h, List.take_add, hrow, take_rowStart h, take_rows_succ h,
    intercalate_append _ (List.cons_ne_nil _ _), List.intercalate_singleton]

theorem rowStart_le_rowEnd {first last : Nat} (hfirst : first ≤ last) (hlast : last ≤ b.lastRow) :
    b.rowStart first ≤ b.rowEnd last := by
  have hle := rowStart_le_rowStart hfirst hlast
  rw [rowEnd_eq hlast]
  omega

/-- A newline stands between a row and the next. -/
theorem rowStart_succ (h : row < b.lastRow) : b.rowStart (row + 1) = b.rowEnd row + 1 := by
  have hle := Nat.le_of_lt h
  rw [rowStart_eq_length h, rowEnd_eq hle, rowStart_eq_length hle, take_rows_succ hle]
  simp only [List.flatMap_append, List.flatMap_singleton, List.length_append, List.length_singleton,
    rowLength]
  omega

/-- What is left of the rows when whole rows are removed, joined by newlines. -/
theorem text_remove_rowsSpan {first last : Nat} (hfirst : first ≤ last) (hlast : last ≤ b.lastRow) :
    (b.remove (b.rowsSpan first last)).text =
      List.intercalate ['\n'] (b.rows.take first ++ b.rows.drop (last + 1)) := by
  have hstart : first ≤ b.lastRow := Nat.le_trans hfirst hlast
  have hbefore := rowStart_le_rowEnd hfirst hlast
  by_cases hlt : last < b.lastRow
  · have hne : b.rows.drop (last + 1) ≠ [] := by simp [drop_rows_eq_cons hlt]
    have hdrop : b.text.drop (b.rowEnd last + 1) =
        List.intercalate ['\n'] (b.rows.drop (last + 1)) := by
      rw [← List.drop_drop, drop_rowEnd hlast, drop_rows_eq_cons hlt, intercalate_cons]
      simp
    rw [rowsSpan, if_pos hlt, text_remove, Nat.max_eq_right (by dsimp only; omega), hdrop,
      take_rowStart hstart, intercalate_append _ hne]
  · obtain rfl : last = b.lastRow := by omega
    have hnil : b.rows.drop (b.lastRow + 1) = [] :=
      List.drop_eq_nil_of_le (Nat.le_of_eq b.length_rows)
    have hdrop : b.text.drop (b.rowEnd b.lastRow) = [] := by
      rw [drop_rowEnd (Nat.le_refl _), hnil]
      rfl
    rw [rowsSpan, if_neg hlt, text_remove, hnil, List.append_nil]
    cases first with
    | zero =>
      have hzero : b.rowStart 0 = 0 := rowStart_eq_length (Nat.zero_le _)
      simp [hzero, hdrop]
    | succ row =>
      have hrow : row < b.lastRow := hstart
      have hle : b.rowEnd row ≤ b.rowEnd b.lastRow := by
        rw [rowStart_succ hrow] at hbefore
        omega
      rw [if_pos (Nat.succ_pos row), rowStart_succ hrow, Nat.add_sub_cancel,
        take_rowEnd (Nat.le_of_lt hrow), Nat.max_eq_right hle, hdrop, List.append_nil]

/-- **Whole rows are removed from the list of rows.** One empty row is left when none else is. -/
theorem rows_remove_rowsSpan {first last : Nat} (hfirst : first ≤ last) (hlast : last ≤ b.lastRow) :
    let kept := b.rows.take first ++ b.rows.drop (last + 1)
    (b.remove (b.rowsSpan first last)).rows = if kept = [] then [[]] else kept := by
  intro kept
  rw [rows, text_remove_rowsSpan hfirst hlast]
  by_cases hkept : kept = []
  · rw [if_pos hkept]
    show splitRows (List.intercalate ['\n'] kept) = _
    rw [hkept]
    rfl
  · have hmem : ∀ r ∈ kept, '\n' ∉ r := by
      intro r hr
      rcases List.mem_append.1 hr with hr | hr
      · exact newline_notMem_of_mem_rows (List.mem_of_mem_take hr)
      · exact newline_notMem_of_mem_rows (List.mem_of_mem_drop hr)
    rw [if_neg hkept]
    exact splitRows_intercalate hmem hkept

/-- **Whole rows are replaced by one.** -/
theorem rows_replace_rows {first last : Nat} (hfirst : first ≤ last) (hlast : last ≤ b.lastRow)
    {t : Text} (ht : '\n' ∉ t) :
    (b.replace ⟨b.rowStart first, b.rowEnd last⟩ t).rows =
      b.rows.take first ++ t :: b.rows.drop (last + 1) := by
  have hstart : first ≤ b.lastRow := Nat.le_trans hfirst hlast
  have hend := rowStart_add_rowLength_le hstart
  have hlength : (b.text.take (b.rowStart first)).length = b.rowStart first := by
    rw [List.length_take]
    unfold length at hend
    omega
  have hmax : max (b.rowStart first) (b.rowEnd last) = b.rowEnd last :=
    Nat.max_eq_right (rowStart_le_rowEnd hfirst hlast)
  have htext : (b.replace ⟨b.rowStart first, b.rowEnd last⟩ t).text =
      b.text.take (b.rowStart first) ++ t ++ b.text.drop (b.rowEnd last) := by
    rw [replace, text_insert, text_remove, hmax, List.take_left' hlength, List.drop_left' hlength]
  rw [rows, htext, splitRows_between hstart hlast, splitRows_of_notMem ht, List.append_assoc]
  rfl

/-! ### Cutting within a row -/

theorem offsetAt_eq (h : row ≤ b.lastRow) (col : Nat) :
    b.offsetAt ⟨row, col⟩ = b.rowStart row + min col (b.rowText row).length := by
  simp only [offsetAt, Nat.min_eq_left h, rowLength]

theorem take_offsetAt (h : row ≤ b.lastRow) (col : Nat) :
    b.text.take (b.offsetAt ⟨row, col⟩) =
      b.text.take (b.rowStart row) ++ (b.rowText row).take col := by
  rw [offsetAt_eq h, List.take_add, drop_rowStart_eq h,
    List.take_append_of_le_length (Nat.min_le_right _ _), ← List.take_eq_take_min]

theorem drop_offsetAt (h : row ≤ b.lastRow) (col : Nat) :
    b.text.drop (b.offsetAt ⟨row, col⟩) =
      (b.rowText row).drop col ++ b.text.drop (b.rowEnd row) := by
  rw [offsetAt_eq h, ← List.drop_drop, drop_rowStart_eq h, drop_rowEnd h,
    List.drop_append_of_le_length (Nat.min_le_right _ _), ← List.drop_eq_drop_min]

theorem newline_notMem_rowText (b : Buffer) (row : Nat) : '\n' ∉ b.rowText row := by
  rw [rowText_eq]
  cases hrow : b.rows[row]? with
  | none => simp
  | some r => exact newline_notMem_of_mem_rows (List.mem_of_getElem? hrow)

/-! ### The edges of rows -/

theorem rowEnd_lastRow (b : Buffer) : b.rowEnd b.lastRow = b.length := by
  have hle := rowStart_add_rowLength_le (Nat.le_refl b.lastRow)
  have hdrop := drop_rowEnd (Nat.le_refl b.lastRow)
  have hrows : b.rows.drop (b.lastRow + 1) = [] :=
    List.drop_of_length_le (Nat.le_of_eq b.length_rows)
  rw [hrows, List.flatMap_nil, List.drop_eq_nil_iff] at hdrop
  rw [← rowEnd_eq (Nat.le_refl _)] at hle
  exact Nat.le_antisymm hle hdrop

/-- A newline stands at the end of every row but the last. -/
theorem charAt?_rowEnd (h : row < b.lastRow) : b.charAt? (b.rowEnd row) = some '\n' := by
  have hdrop := drop_rowEnd (Nat.le_of_lt h)
  rw [drop_rows_eq_cons h, List.flatMap_cons] at hdrop
  have hhead := congrArg List.head? hdrop
  rwa [List.head?_drop] at hhead

/-- Before a row stands a newline, or nothing. -/
theorem charAt?_before_rowStart (h : row ≤ b.lastRow) (hpos : 0 < b.rowStart row) :
    b.charAt? (b.rowStart row - 1) = some '\n' := by
  cases row with
  | zero =>
    rw [rowStart_eq_length h] at hpos
    exact absurd hpos (Nat.lt_irrefl 0)
  | succ row =>
    rw [rowStart_succ h, Nat.add_sub_cancel]
    exact charAt?_rowEnd h

theorem charAt?_ne_newline (h : row ≤ b.lastRow) {col : Nat} (hcol : col < b.rowLength row) :
    b.charAt? (b.rowStart row + col) ≠ some '\n' := by
  have hdrop := drop_rowStart_eq h
  have hget : b.charAt? (b.rowStart row + col) = (b.rowText row)[col]? := by
    unfold charAt?
    rw [← List.getElem?_drop, hdrop, List.getElem?_append_left hcol]
  rw [hget]
  exact fun hnewline => newline_notMem_rowText b row (List.mem_of_getElem? hnewline)

/-- The position of an offset is one in its row, or at the end of it. -/
theorem positionAt_bounds {offset : Nat} (h : offset ≤ b.length) :
    b.rowStart (b.positionAt offset).row + (b.positionAt offset).col = offset ∧
      (b.positionAt offset).col ≤ b.rowLength (b.positionAt offset).row := by
  obtain ⟨hle, hpos⟩ := b.positionAt_eq offset
  have hrow := b.count_take_le_lastRow offset
  rw [hpos]
  rw [Nat.min_eq_left h] at hle ⊢
  generalize hcount : (b.text.take offset).count '\n' = row at *
  have hend := rowEnd_eq hrow
  refine ⟨Nat.add_sub_cancel' hle, Nat.le_of_not_lt fun hcol => ?_⟩
  have hlt : b.rowEnd row < offset := by
    dsimp only at hcol
    omega
  have hnext : row < b.lastRow := by
    refine Nat.lt_of_le_of_ne hrow ?_
    rintro rfl
    rw [rowEnd_lastRow] at hlt
    omega
  -- the newline that ends the row stands before the offset, which is then in a row further down
  have hstart : b.rowStart (row + 1) ≤ offset := Nat.le_trans (Nat.le_of_eq (rowStart_succ hnext)) hlt
  have hsub := (List.take_prefix_take_left (l := b.text) hstart).sublist.count_le '\n'
  rw [count_take_rowStart hnext, hcount] at hsub
  omega

/-! ### Editing within rows -/

theorem rows_remove_piece (h : row ≤ b.lastRow) {left right : Nat} (hle : left ≤ right) :
    (b.remove ⟨b.offsetAt ⟨row, left⟩, b.offsetAt ⟨row, right⟩⟩).rows =
      b.rows.modify row fun r => r.take left ++ r.drop right := by
  let piece : Text := (b.rowText row).take left ++ (b.rowText row).drop right
  have hpiece : '\n' ∉ piece := by
    have hrow := b.newline_notMem_rowText row
    intro hmem
    rcases List.mem_append.1 hmem with hmem | hmem
    · exact hrow (List.mem_of_mem_take hmem)
    · exact hrow (List.mem_of_mem_drop hmem)
  have hmax : max (b.offsetAt ⟨row, left⟩) (b.offsetAt ⟨row, right⟩) = b.offsetAt ⟨row, right⟩ := by
    rw [offsetAt_eq h, offsetAt_eq h]
    omega
  have htext : (b.remove ⟨b.offsetAt ⟨row, left⟩, b.offsetAt ⟨row, right⟩⟩).text =
      b.text.take (b.rowStart row) ++ piece ++ b.text.drop (b.rowEnd row) := by
    rw [text_remove, hmax, take_offsetAt h, drop_offsetAt h]
    simp [piece]
  rw [rows, htext, splitRows_between h h, splitRows_of_notMem hpiece, List.modify_eq_take_drop,
    drop_rows_eq_cons h]
  simp [piece]

/-! ### Cutting out of several rows -/

theorem lastRow_eq_of_length_rows {b' : Buffer} (h : b'.rows.length = b.rows.length) :
    b'.lastRow = b.lastRow := by
  rw [length_rows, length_rows, lineCount, lineCount] at h
  omega

theorem offsetAt_congr {b' : Buffer} (h : row ≤ b.lastRow) (h' : row ≤ b'.lastRow)
    (htake : b'.rows.take (row + 1) = b.rows.take (row + 1)) (col : Nat) :
    b'.offsetAt ⟨row, col⟩ = b.offsetAt ⟨row, col⟩ := by
  have hrow : b'.rowText row = b.rowText row := by
    rw [rowText_eq, rowText_eq, ← List.getElem?_take_of_lt (Nat.lt_succ_self row), htake,
      List.getElem?_take_of_lt (Nat.lt_succ_self row)]
  have hbefore : b'.rows.take row = b.rows.take row := by
    have heq := congrArg (List.take row) htake
    rwa [List.take_take, List.take_take, Nat.min_eq_left (Nat.le_succ row)] at heq
  rw [offsetAt_eq h, offsetAt_eq h', rowStart_eq_length h, rowStart_eq_length h', hrow, hbefore]

/-- The same columns are removed from rows that follow each other, the lowest first. -/
theorem rows_foldr_remove {left right : Nat} (hle : left ≤ right) {top n : Nat}
    (h : n ≤ b.lastRow + 1 - top) :
    (((List.range' top n).map fun row =>
        (⟨b.offsetAt ⟨row, left⟩, b.offsetAt ⟨row, right⟩⟩ : Span)).foldr
          (fun s acc => acc.remove s) b).rows =
      b.rows.mapIdx fun i row =>
        if top ≤ i ∧ i < top + n then row.take left ++ row.drop right else row := by
  induction n generalizing top with
  | zero =>
    refine List.ext_getElem? fun i => ?_
    have hnone : ¬ (top ≤ i ∧ i < top + 0) := by omega
    simp only [List.getElem?_mapIdx, if_neg hnone]
    simp
  | succ n ih =>
    have htop : top ≤ b.lastRow := by omega
    have hbelow := @ih (top + 1) (by omega)
    rw [List.range'_succ, List.map_cons, List.foldr_cons]
    -- The rows below have been cut; the rows up to the topmost are where they were.
    generalize List.foldr (fun s acc => Buffer.remove acc s) b _ = b' at hbelow ⊢
    have hlast : b'.lastRow = b.lastRow := lastRow_eq_of_length_rows (by simp [hbelow])
    have htake : b'.rows.take (top + 1) = b.rows.take (top + 1) := by
      refine List.ext_getElem? fun i => ?_
      by_cases hi : i < top + 1
      · have hnone : ¬ (top + 1 ≤ i ∧ i < top + 1 + n) := by omega
        simp only [List.getElem?_take_of_lt hi, hbelow, List.getElem?_mapIdx, if_neg hnone]
        simp
      · simp only [List.getElem?_take, if_neg hi]
    rw [← offsetAt_congr htop (hlast ▸ htop) htake, ← offsetAt_congr htop (hlast ▸ htop) htake,
      rows_remove_piece (hlast ▸ htop) hle, hbelow]
    refine List.ext_getElem? fun i => ?_
    simp only [List.getElem?_modify, List.getElem?_mapIdx]
    cases b.rows[i]? with
    | none => rfl
    | some row =>
      simp only [Option.map_some, Option.map_eq_map, Option.some.injEq]
      by_cases hi : top = i
      · have hbelow : ¬ (top + 1 ≤ i ∧ i < top + 1 + n) := by omega
        have hhere : top ≤ i ∧ i < top + (n + 1) := by omega
        rw [if_pos hi, if_neg hbelow, if_pos hhere]
      · have hsame : top + 1 ≤ i ∧ i < top + 1 + n ↔ top ≤ i ∧ i < top + (n + 1) := by omega
        simp only [if_neg hi, hsame]

end Buffer

end ModalEditor
