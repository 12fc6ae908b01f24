import ModalEditor.Editor.Press
import ModalEditor.Proofs.Checked.Editing

/-!
# Motions on the machine

Where motions lead, as the machine finds it out, and what it does there. A motion from a cursor in
the text leads to an offset in the text (`Target.Within`), however large its count. A jump looks at
characters of the row by their columns; those of a cursor in the row are all there.
-/

namespace ModalEditor

/-- Whether an offset that a motion leads to is in the buffer. Rows are moved into it anyway. -/
def Target.Within (b : Buffer) : Target → Prop
  | .char offset _ => offset ≤ b.length
  | .line _ _ => True

namespace Checked

variable {e : Editor}

/-- Applies the pending operator up to a target, or moves the cursor there. -/
def reach (e : Editor) (target : Target) : Checked Editor := do
  let source ← offsetAt e.buffer e.cursor
  match target with
  | .char offset inclusive =>
    let stop ← (if e.operator.isSome && inclusive && source ≤ offset then
        (min · e.buffer.length) <$> add offset 1
      else .ok offset)
    applyRange e.dropCounts source stop
  | .line row offset =>
    if e.operator.isSome then applyRows e.dropCounts (min e.cursor.row row) (max e.cursor.row row)
    else moveTo e.dropCounts offset

theorem reach_ok (hb : e.buffer.Fits) {target : Target} (ht : target.Within e.buffer) :
    reach e target = .ok (e.reach target) := by
  have hword := hb.two_mul_lt
  have hsource := e.buffer.offsetAt_le_length e.cursor
  unfold reach
  rw [offsetAt_ok hb, ok_bind]
  cases target with
  | char offset inclusive =>
    have hoffset : offset ≤ e.buffer.length := ht
    have hnext : add offset 1 = _ := add_ok (by omega)
    have hstop : (if (e.operator.isSome && inclusive &&
          decide (e.buffer.offsetAt e.cursor ≤ offset)) = true then
          (min · e.buffer.length) <$> add offset 1
        else .ok offset) =
        .ok (if (e.operator.isSome && inclusive &&
          decide (e.buffer.offsetAt e.cursor ≤ offset)) = true then min (offset + 1) e.buffer.length
        else offset) := by
      rw [hnext]
      split <;> rfl
    dsimp only
    rw [hstop, ok_bind]
    refine applyRange_ok (e := e.dropCounts) hb hsource ?_
    split
    · exact Nat.min_le_right _ _
    · exact hoffset
  | line row offset =>
    dsimp only
    by_cases hop : e.operator.isSome = true
    · have hreach : e.reach (.line row offset) =
          e.dropCounts.applyRows (min e.cursor.row row) (max e.cursor.row row) := if_pos hop
      rw [if_pos hop, hreach]
      exact applyRows_ok (e := e.dropCounts) hb _ _
    · have hreach : e.reach (.line row offset) = e.dropCounts.moveTo offset := if_neg hop
      rw [if_neg hop, hreach]
      exact moveTo_ok e.dropCounts offset

/-- The machine finds a target, and it is in the buffer. -/
def Finds (e : Editor) (found : Checked Target) (target : Target) : Prop :=
  found = .ok target ∧ target.Within e.buffer

theorem Finds.reach_ok {found : Checked Target} {target : Target} (h : Finds e found target)
    (hb : e.buffer.Fits) : found >>= reach e = .ok (e.reach target) := by
  rw [h.1, ok_bind, Checked.reach_ok hb h.2]

/-! ### Within the row -/

/-- To the left. -/
def leftTarget (e : Editor) : Checked Target := do
  let start ← rowStart e.buffer e.cursor.row
  let offset ← add start (e.cursor.col - e.count)
  return .char offset false

/-- To the right, at most to the end of the row. -/
def rightTarget (e : Editor) : Checked Target := do
  let start ← rowStart e.buffer e.cursor.row
  let length ← rowLength e.buffer e.cursor.row
  let offset ← add start (min (saturatingAdd e.cursor.col e.count) length)
  return .char offset false

/-- To the start of the row. -/
def rowStartTarget (e : Editor) : Checked Target := do
  let start ← rowStart e.buffer e.cursor.row
  return .char start false

/-- To the end of the indentation. -/
def indentTarget (e : Editor) : Checked Target := do
  let offset ← firstNonBlank e.buffer e.cursor.row
  return .char offset false

/-- To the last character of a row. -/
def rowEndTarget (e : Editor) : Checked Target := do
  let row := min (saturatingAdd e.cursor.row (e.count - 1)) e.buffer.lastRow
  let start ← rowStart e.buffer row
  let stop ← rowEnd e.buffer row
  if e.mode = .insert ∨ stop = start then return .char stop false
  else
    let last ← sub stop 1
    return .char last true

theorem finds_leftTarget (h : InText e) : Finds e (leftTarget e) e.leftTarget := by
  have hword := h.fits.two_mul_lt
  have hcol := h.rowStart_add_col_le
  have hsum : e.buffer.rowStart e.cursor.row + (e.cursor.col - e.count) ≤ e.buffer.length := by
    omega
  refine ⟨?_, hsum⟩
  rw [leftTarget, rowStart_ok h.row_le, ok_bind, add_ok (by omega)]
  rfl

theorem finds_rightTarget (h : InText e) : Finds e (rightTarget e) e.rightTarget := by
  have hword := h.fits.two_mul_lt
  have hend := Buffer.rowStart_add_rowLength_le h.row_le
  have hsum : e.buffer.rowStart e.cursor.row +
      min (e.cursor.col + e.count) (e.buffer.rowLength e.cursor.row) ≤ e.buffer.length := by omega
  refine ⟨?_, hsum⟩
  rw [rightTarget, rowStart_ok h.row_le, ok_bind, rowLength_ok h.row_le, ok_bind,
    min_saturatingAdd (by omega), add_ok (by omega)]
  rfl

theorem finds_rowStartTarget (h : InText e) : Finds e (rowStartTarget e) e.rowStartTarget := by
  refine ⟨?_, Nat.le_trans (Nat.le_add_right _ _) h.rowStart_add_col_le⟩
  rw [rowStartTarget, rowStart_ok h.row_le]
  rfl

theorem finds_indentTarget (h : InText e) : Finds e (indentTarget e) e.indentTarget := by
  refine ⟨?_, Buffer.firstNonBlank_le h.row_le⟩
  rw [indentTarget, firstNonBlank_ok h.fits h.row_le]
  rfl

/-- A row number that saturates is still moved to the same row. -/
theorem min_saturatingAdd_lastRow {b : Buffer} (hb : b.Fits) (m n : Nat) :
    min (saturatingAdd m n) b.lastRow = min (m + n) b.lastRow := by
  have hword := hb.two_mul_lt
  have hrows := b.lastRow_le_length
  exact min_saturatingAdd (by omega)

theorem finds_rowEndTarget (hb : e.buffer.Fits) : Finds e (rowEndTarget e) e.rowEndTarget := by
  have hrow := Nat.min_le_right (e.cursor.row + (e.count - 1)) e.buffer.lastRow
  have hend := Buffer.rowStart_add_rowLength_le hrow
  rw [← Buffer.rowEnd_eq hrow] at hend
  have hstart : e.buffer.rowStart (min (e.cursor.row + (e.count - 1)) e.buffer.lastRow) ≤
      e.buffer.rowEnd (min (e.cursor.row + (e.count - 1)) e.buffer.lastRow) := by
    rw [Buffer.rowEnd_eq hrow]
    exact Nat.le_add_right _ _
  unfold Finds rowEndTarget Editor.rowEndTarget
  simp only [min_saturatingAdd_lastRow hb, rowStart_ok hrow, rowEnd_ok hb hrow, ok_bind]
  split
  · exact ⟨rfl, hend⟩
  · rename_i hne
    -- the row is not empty, so its end is not the start of the buffer
    have hone : 1 ≤ e.buffer.rowEnd (min (e.cursor.row + (e.count - 1)) e.buffer.lastRow) := by
      refine Nat.one_le_iff_ne_zero.2 fun hzero => hne (.inr ?_)
      omega
    rw [sub_ok hone]
    exact ⟨rfl, Nat.le_trans (Nat.sub_le _ _) hend⟩

/-! ### By rows -/

/-- To a row, in the column of the cursor; nowhere if that is the row of the cursor. -/
def rowTarget? (e : Editor) (row : Nat) : Checked (Option Target) :=
  if row = e.cursor.row then .ok none
  else do
    let offset ← offsetAt e.buffer ⟨row, e.cursor.col⟩
    return some (.line row offset)

/-- Down. -/
def downTarget? (e : Editor) : Checked (Option Target) :=
  rowTarget? e (min (saturatingAdd e.cursor.row e.count) e.buffer.lastRow)

/-- Up. -/
def upTarget? (e : Editor) : Checked (Option Target) := rowTarget? e (e.cursor.row - e.count)

/-- To the end of the indentation of a row. -/
def indentOfRowTarget (e : Editor) (row : Nat) : Checked Target := do
  let offset ← firstNonBlank e.buffer row
  return .line row offset

/-- To the row that the count names, the last without one. -/
def bottomTarget (e : Editor) : Checked Target :=
  indentOfRowTarget e (min (e.repeatCount.elim e.buffer.lastRow (· - 1)) e.buffer.lastRow)

/-- To the row that the count names, the first without one. -/
def topTarget (e : Editor) : Checked Target :=
  indentOfRowTarget e (min (e.repeatCount.elim 0 (· - 1)) e.buffer.lastRow)

/-- Goes to a target, or gives up what was pending if there is none. -/
def reachOr (e : Editor) : Option Target → Checked Editor
  | some target => reach e target
  | none => .ok e.clearPending

theorem reachOr_ok (hb : e.buffer.Fits) {target? : Option Target}
    (ht : ∀ target ∈ target?, target.Within e.buffer) :
    reachOr e target? = .ok (e.reachOr target?) := by
  cases target? with
  | none => rfl
  | some target => exact reach_ok hb (ht target rfl)

theorem rowTarget?_ok (hb : e.buffer.Fits) (row : Nat) :
    rowTarget? e row = .ok (e.rowTarget? row) := by
  unfold rowTarget? Editor.rowTarget?
  split
  · rfl
  · rw [offsetAt_ok hb]
    rfl

theorem reachOr_rowTarget? (hb : e.buffer.Fits) (row : Nat) :
    rowTarget? e row >>= reachOr e = .ok (e.reachOr (e.rowTarget? row)) := by
  rw [rowTarget?_ok hb, ok_bind]
  refine reachOr_ok hb fun target htarget => ?_
  unfold Editor.rowTarget? at htarget
  split at htarget
  · simp at htarget
  · obtain rfl := Option.some.inj htarget
    trivial

theorem reachOr_downTarget? (hb : e.buffer.Fits) :
    downTarget? e >>= reachOr e = .ok (e.reachOr e.downTarget?) := by
  unfold downTarget?
  rw [min_saturatingAdd_lastRow hb, reachOr_rowTarget? hb]
  rfl

theorem reachOr_upTarget? (hb : e.buffer.Fits) :
    upTarget? e >>= reachOr e = .ok (e.reachOr e.upTarget?) := reachOr_rowTarget? hb _

theorem finds_indentOfRowTarget (hb : e.buffer.Fits) {row : Nat} (h : row ≤ e.buffer.lastRow) :
    Finds e (indentOfRowTarget e row) (e.indentOfRowTarget row) := by
  refine ⟨?_, trivial⟩
  rw [indentOfRowTarget, firstNonBlank_ok hb h]
  rfl

theorem finds_bottomTarget (hb : e.buffer.Fits) : Finds e (bottomTarget e) e.bottomTarget :=
  finds_indentOfRowTarget hb (Nat.min_le_right _ _)

theorem finds_topTarget (hb : e.buffer.Fits) : Finds e (topTarget e) e.topTarget :=
  finds_indentOfRowTarget hb (Nat.min_le_right _ _)

/-! ### By words -/

/-- To the start of a word further on. -/
def wordTarget (e : Editor) (kind : WordKind) : Checked Target := do
  let source ← offsetAt e.buffer e.cursor
  if e.modifier.isSome then
    let next ← add source 1
    return .char (min next e.buffer.length) false
  else
    let offset ← skipWords e.buffer kind (e.count - 1) source
    let next ← nextWordStart e.buffer kind offset
    match e.operator with
    | none => return .char next false
    | some op =>
      let stop ← (if op = .change then (·.getD next) <$> wordEndAt? e.buffer kind offset
        else .ok next)
      let p ← positionAt e.buffer offset
      let rowStop ← rowEnd e.buffer p.row
      return .char (min stop rowStop) false

/-- To the start of a word further back. -/
def backWordTarget (e : Editor) (kind : WordKind) : Checked Target := do
  let source ← offsetAt e.buffer e.cursor
  let offset ← backWords e.buffer kind e.count source
  return .char offset false

/-- To the end of a word further on. -/
def wordEndTarget (e : Editor) (kind : WordKind) : Checked Target := do
  let source ← offsetAt e.buffer e.cursor
  let offset ← skipWordEnds e.buffer kind e.count source
  return .char (min offset (e.buffer.length - 1)) true

theorem finds_wordTarget (hb : e.buffer.Fits) (kind : WordKind) :
    Finds e (wordTarget e kind) (e.wordTarget kind) := by
  have hword := hb.two_mul_lt
  have hsource := e.buffer.offsetAt_le_length e.cursor
  unfold Finds wordTarget Editor.wordTarget Editor.cursorOffset
  rw [offsetAt_ok hb, ok_bind]
  dsimp only
  split
  · rw [add_ok (by omega)]
    exact ⟨rfl, Nat.min_le_right _ _⟩
  · have hoffset := e.buffer.skipWords_le kind (e.count - 1) hsource
    have hnext := e.buffer.nextWordStart_le kind hoffset
    have hrow := e.buffer.positionAt_row_le
      (e.buffer.skipWords kind (e.count - 1) (e.buffer.offsetAt e.cursor))
    have hend := Buffer.rowStart_add_rowLength_le hrow
    rw [← Buffer.rowEnd_eq hrow] at hend
    rw [skipWords_ok hb _ hsource, ok_bind, nextWordStart_ok hb hoffset, ok_bind]
    cases e.operator with
    | none => exact ⟨rfl, hnext⟩
    | some op =>
      dsimp only
      rw [wordEndAt?_ok hb hoffset, positionAt_ok]
      refine ⟨?_, Nat.le_trans (Nat.min_le_right _ _) hend⟩
      by_cases hop : op = .change
      · simp only [hop, if_true, map_ok, ok_bind, rowEnd_ok hb hrow, pure_eq_ok]
      · simp only [hop, if_false, ok_bind, rowEnd_ok hb hrow, pure_eq_ok]

theorem finds_backWordTarget (hb : e.buffer.Fits) (kind : WordKind) :
    Finds e (backWordTarget e kind) (e.backWordTarget kind) := by
  have hsource := e.buffer.offsetAt_le_length e.cursor
  refine ⟨?_, e.buffer.backWords_le kind e.count hsource⟩
  rw [backWordTarget, offsetAt_ok hb, ok_bind, backWords_ok hb]
  rfl

theorem finds_wordEndTarget (hb : e.buffer.Fits) (kind : WordKind) :
    Finds e (wordEndTarget e kind) (e.wordEndTarget kind) := by
  have hsource := e.buffer.offsetAt_le_length e.cursor
  refine ⟨?_, Nat.le_trans (Nat.min_le_right _ _) (Nat.sub_le _ _)⟩
  rw [wordEndTarget, offsetAt_ok hb, ok_bind, skipWordEnds_ok hb _ hsource]
  rfl

/-! ### To a character -/

/-- Those of some columns of a row in which a character stands. -/
def matching (row : Text) (c : Char) : List Nat → Checked (List Nat)
  | [] => .ok []
  | i :: cols =>
    match row[i]? with
    | none => .error .character
    | some d => do
      let rest ← matching row c cols
      return if d = c then i :: rest else rest

/-- The occurrences that a jump can lead to, nearest first. -/
def candidates (j : Jump) (row : Text) (col skip : Nat) : Checked (List Nat) :=
  match j.direction with
  | .forward => do
    let next ← add col 1
    let first ← add next skip
    matching row j.target (List.range' first (row.length - first))
  | .backward => matching row j.target (List.range (col - skip)).reverse

/-- The column in which a jump to an occurrence stops. -/
def landing (j : Jump) (found : Nat) : Checked Nat :=
  match j.kind, j.direction with
  | .find, _ => .ok found
  | .till, .forward => sub found 1
  | .till, .backward => add found 1

/-- The column that the `count`-th occurrence leads to. -/
def column? (j : Jump) (row : Text) (col count : Nat) (again : Bool) : Checked (Option Nat) := do
  let found ← candidates j row col (if again && j.kind == .till then 1 else 0)
  match found[count - 1]? with
  | some i => some <$> landing j i
  | none => return none

/-- Jumps as often as the counts say. -/
def jump (e : Editor) (j : Jump) (again : Bool) : Checked Editor := do
  let text ← rowText e.buffer e.cursor.row
  match ← column? j text e.cursor.col e.count again with
  | some col =>
    let start ← rowStart e.buffer e.cursor.row
    let offset ← add start col
    reach e (.char offset (j.direction = .forward))
  | none => return e.clearPending

/-- Jumps and remembers the jump. -/
def startJump (e : Editor) (j : Jump) : Checked Editor := jump { e with lastJump := some j } j false

/-- Repeats the last jump, or its reverse. -/
def repeatJump (e : Editor) (reverse : Bool) : Checked Editor :=
  match e.lastJump with
  | some j => jump e (if reverse then j.reverse else j) true
  | none => .ok e.clearPending

section

variable {row : Text} {c : Char}

theorem matching_ok {cols : List Nat} (h : ∀ i ∈ cols, i < row.length) :
    matching row c cols = .ok (cols.filter fun i => row[i]? = some c) := by
  induction cols with
  | nil => rfl
  | cons i cols ih =>
    have hi := h i List.mem_cons_self
    unfold matching
    rw [List.getElem?_eq_getElem hi]
    dsimp only
    rw [ih fun k hk => h k (List.mem_cons_of_mem _ hk), ok_bind, List.filter_cons,
      List.getElem?_eq_getElem hi]
    by_cases hc : row[i] = c
    · simp [hc]
    · simp [hc]

/-- The places of a character, counted from `n`, are found by looking at every place. -/
theorem filterMap_zipIdx_eq (row : Text) (c : Char) (n : Nat) :
    (row.zipIdx n).filterMap (fun p => if p.1 = c then some p.2 else none) =
      (List.range' n row.length).filter fun i => row[i - n]? = some c := by
  induction row generalizing n with
  | nil => rfl
  | cons d row ih =>
    have hrest : (List.range' (n + 1) row.length).filter (fun i => row[i - (n + 1)]? = some c) =
        (List.range' (n + 1) row.length).filter fun i => (d :: row)[i - n]? = some c := by
      refine List.filter_congr fun i hi => ?_
      rw [List.mem_range'_1] at hi
      rw [show i - n = i - (n + 1) + 1 by omega, List.getElem?_cons_succ]
    rw [List.zipIdx_cons, List.length_cons, List.range'_succ, List.filter_cons, ← hrest, ← ih]
    by_cases hd : d = c
    · simp [hd]
    · simp [hd]

theorem columnsOf_eq (row : Text) (c : Char) :
    columnsOf row c = (List.range row.length).filter fun i => row[i]? = some c := by
  rw [List.range_eq_range']
  exact filterMap_zipIdx_eq row c 0

theorem range_eq_append {m n : Nat} (h : m ≤ n) :
    List.range n = List.range m ++ List.range' m (n - m) := by
  have happend : List.range' 0 m ++ List.range' (0 + m) (n - m) = List.range' 0 (m + (n - m)) :=
    List.range'_append_1
  rw [Nat.zero_add, Nat.add_sub_cancel' h] at happend
  rw [List.range_eq_range', List.range_eq_range', happend]

theorem filter_range_le (m n : Nat) :
    (List.range n).filter (m ≤ ·) = List.range' m (n - m) := by
  by_cases h : m ≤ n
  · rw [range_eq_append h, List.filter_append, List.filter_eq_nil_iff.2, List.filter_eq_self.2,
      List.nil_append]
    · intro i hi
      rw [List.mem_range'_1] at hi
      exact decide_eq_true hi.1
    · intro i hi
      rw [List.mem_range] at hi
      simpa using hi
  · rw [List.filter_eq_nil_iff.2, Nat.sub_eq_zero_of_le (Nat.le_of_not_le h)]
    · rfl
    · intro i hi
      rw [List.mem_range] at hi
      simp only [decide_eq_true_eq]
      omega

theorem filter_range_lt {m n : Nat} (h : m ≤ n) : (List.range n).filter (· < m) = List.range m := by
  rw [range_eq_append h, List.filter_append, List.filter_eq_self.2, List.filter_eq_nil_iff.2,
    List.append_nil]
  · intro i hi
    rw [List.mem_range'_1] at hi
    simp only [decide_eq_true_eq]
    omega
  · intro i hi
    rw [List.mem_range] at hi
    exact decide_eq_true hi

variable {col skip : Nat} {j : Jump}

theorem candidates_ok (hrow : row.length + 2 ≤ maxCount) (hcol : col ≤ row.length)
    (hskip : skip ≤ 1) : candidates j row col skip = .ok (j.candidates row col skip) := by
  unfold candidates Jump.candidates
  cases j.direction with
  | forward =>
    dsimp only
    have hlt : (fun i => decide (col + skip < i)) = fun i => decide (col + 1 + skip ≤ i) := by
      funext i
      exact decide_eq_decide.2 (by omega)
    rw [add_ok (by omega), ok_bind, add_ok (by omega), ok_bind, matching_ok, hlt, columnsOf_eq,
      List.filter_filter, ← filter_range_le, List.filter_filter]
    · simp only [Bool.and_comm]
    · intro i hi
      rw [List.mem_range'_1] at hi
      omega
  | backward =>
    dsimp only
    rw [matching_ok, columnsOf_eq, List.filter_filter,
      ← filter_range_lt (show col - skip ≤ row.length by omega), List.filter_reverse,
      List.filter_filter]
    · simp only [Bool.and_comm]
    · intro i hi
      rw [List.mem_reverse, List.mem_range] at hi
      omega

/-- Where an occurrence is, seen from the cursor. -/
theorem bounds_of_mem_candidates {i : Nat} (h : i ∈ j.candidates row col skip) :
    match j.direction with
    | .forward => col < i ∧ i < row.length
    | .backward => i < col := by
  unfold Jump.candidates at h
  cases hd : j.direction with
  | forward =>
    rw [hd] at h
    obtain ⟨hmem, hlt⟩ := List.mem_filter.1 h
    rw [columnsOf_eq, List.mem_filter, List.mem_range] at hmem
    simp only [decide_eq_true_eq] at hlt
    exact ⟨by omega, hmem.1⟩
  | backward =>
    rw [hd] at h
    have hlt := (List.mem_filter.1 (List.mem_reverse.1 h)).2
    simp only [decide_eq_true_eq] at hlt
    exact Nat.lt_of_lt_of_le hlt (Nat.sub_le _ _)

/-- A jump stops in the row. -/
theorem landing_ok {i : Nat} (hrow : row.length + 2 ≤ maxCount) (hcol : col ≤ row.length)
    (h : i ∈ j.candidates row col skip) :
    landing j i = .ok (j.landing i) ∧ j.landing i ≤ row.length := by
  have hbounds := bounds_of_mem_candidates h
  unfold landing Jump.landing
  cases hk : j.kind <;> cases hd : j.direction <;> rw [hd] at hbounds <;> dsimp only at hbounds ⊢
  case find.forward => exact ⟨rfl, by omega⟩
  case find.backward => exact ⟨rfl, by omega⟩
  case till.forward => exact ⟨sub_ok (by omega), by omega⟩
  case till.backward => exact ⟨add_ok (by omega), by omega⟩

theorem column?_ok (j : Jump) (count : Nat) (again : Bool) (hrow : row.length + 2 ≤ maxCount)
    (hcol : col ≤ row.length) :
    column? j row col count again = .ok (j.column? row col count again) ∧
      ∀ i ∈ j.column? row col count again, i ≤ row.length := by
  have hskip : (if (again && j.kind == .till) = true then 1 else 0) ≤ 1 := by split <;> omega
  unfold column? Jump.column?
  dsimp only
  rw [candidates_ok hrow hcol hskip, ok_bind]
  cases hfound : (j.candidates row col
      (if (again && j.kind == .till) = true then 1 else 0))[count - 1]? with
  | none => exact ⟨rfl, by simp⟩
  | some i =>
    obtain ⟨hland, hle⟩ := landing_ok hrow hcol (List.mem_of_getElem? hfound)
    dsimp only
    rw [hland]
    exact ⟨rfl, by simpa using hle⟩

end

theorem jump_ok (h : InText e) (j : Jump) (again : Bool) :
    jump e j again = .ok (e.jump j again) := by
  have hword := h.fits.two_mul_lt
  have hlong := h.fits.add_two_le
  have hend := Buffer.rowStart_add_rowLength_le h.row_le
  have hrow : (e.buffer.rowText e.cursor.row).length + 2 ≤ maxCount :=
    Nat.le_trans (Nat.add_le_add_right (e.buffer.rowLength_le_length _) 2) hlong
  obtain ⟨hcolumn, hle⟩ := column?_ok j e.count again hrow h.col_le
  unfold jump Editor.jump
  rw [rowText_ok h.row_le, ok_bind, hcolumn, ok_bind]
  dsimp only
  cases hcol : j.column? (e.buffer.rowText e.cursor.row) e.cursor.col e.count again with
  | none => rfl
  | some col =>
    have hin : e.buffer.rowStart e.cursor.row + col ≤ e.buffer.length :=
      Nat.le_trans (Nat.add_le_add_left (hle col hcol) _) hend
    dsimp only
    rw [rowStart_ok h.row_le, ok_bind, add_ok (by omega), ok_bind]
    exact reach_ok h.fits hin

theorem startJump_ok (h : InText e) (j : Jump) : startJump e j = .ok (e.startJump j) := by
  have hin : InText { e with lastJump := some j } := h.of_eq rfl rfl
  exact jump_ok hin j false

theorem repeatJump_ok (h : InText e) (reverse : Bool) :
    repeatJump e reverse = .ok (e.repeatJump reverse) := by
  unfold repeatJump Editor.repeatJump
  cases e.lastJump with
  | none => rfl
  | some j => exact jump_ok h _ true

end Checked

end ModalEditor
