import Mathlib.Algebra.GroupWithZero.Nat
import ModalEditor.Proofs.PutRows
import ModalEditor.Proofs.SelectionEnds

/-!
# Counted rows and selected rows

An operator is given whole rows by its own key again, with their number in front, or by a motion
across rows; or they are selected before. What it does to them is the same wherever the cursor is
(`Armed.applyRows`), so no more than the first row and the last have to be compared. These come
about in different ways. Counted rows are added to the row of the cursor, and the operator itself
stops at the last row of the text (`applyRows_min`); a selection stops there at each motion
(`exists_after_downs`). Counts too great to be held are cut off one by one in a selection, and as a
whole in front of an operator, which comes to the same if the text has no more rows than can be
counted (`min_add_sum_map_min`).
-/

namespace ModalEditor

/-! ### Counts that are cut off -/

theorem sum_map_min_bounds (l : List Nat) (k : Nat) :
    min l.sum k ≤ (l.map (min · k)).sum ∧ (l.map (min · k)).sum ≤ l.sum := by
  induction l with
  | nil => simp
  | cons n l ih =>
    simp only [List.map_cons, List.sum_cons]
    omega

/-- **Steps that are cut off one by one** lead as far as they would without, up to a row that is not
further than one step may lead. -/
theorem min_add_sum_map_min {l : List Nat} {k last : Nat} (h : l.sum ≤ k ∨ last ≤ k) (row : Nat) :
    min (row + (l.map (min · k)).sum) last = min (row + l.sum) last := by
  have hbounds := sum_map_min_bounds l k
  omega

/-- **A count as it is typed.** There may be none. -/
structure TypedCount where
  /-- The digits. -/
  digits : Text := []
  /-- They are digits. -/
  all_digits : digits.all Char.isDigit = true := by decide
  /-- Zero does not begin a count. -/
  head_ne : digits.head? ≠ some '0' := by decide

namespace TypedCount

/-- The keys. -/
def keys (n : TypedCount) : List Key := n.digits.map Key.char

/-- The number that is typed; one, if there is none. -/
def times (n : TypedCount) : Nat := countOf n.digits

/-- The count that is held, if there is one. -/
def count? (n : TypedCount) : Option Nat := Editor.typedCount? n.digits

theorem getD_count? (n : TypedCount) : n.count?.getD 1 = min n.times maxCount :=
  getD_typedCount?_eq_min n.digits

end TypedCount

/-! ### Motions across rows -/

namespace Motion

/-- The motions to another row. -/
def crossesRows : Motion → Bool
  | down | up | bottom | top => true
  | _ => false

theorem ne_rowStart (m : Motion) (hcross : m.crossesRows = true) : m ≠ .rowStart := by
  rintro rfl
  simp [crossesRows] at hcross

/-- The row that a motion across rows leads to from a row, with a count or none. -/
def rowFrom (m : Motion) (b : Buffer) (row : Nat) (count? : Option Nat) : Nat :=
  match m with
  | down => min (row + count?.getD 1) b.lastRow
  | up => row - count?.getD 1
  | bottom => min (count?.elim b.lastRow (· - 1)) b.lastRow
  | top => min (count?.elim 0 (· - 1)) b.lastRow
  | _ => row

theorem rowFrom_le (m : Motion) {b : Buffer} {row : Nat} (h : row ≤ b.lastRow)
    (count? : Option Nat) : m.rowFrom b row count? ≤ b.lastRow := by
  cases m with
  | up => exact Nat.le_trans (Nat.sub_le _ _) h
  | down | bottom | top => exact Nat.min_le_right _ _
  | _ => exact h

end Motion

namespace Editor

variable {e : Editor} {m : Motion} {p q : Position} {row : Nat}

/-- **Where a motion across rows leads.** Down and up have no target in the row of the cursor. -/
inductive Crosses (e : Editor) (m : Motion) (row : Nat) : Option Target → Prop where
  /-- To a place in the row. -/
  | goes {offset : Nat} (h : (e.buffer.positionAt offset).row = row) :
    Crosses e m row (some (.line row offset))
  /-- Nowhere. -/
  | stays (hrow : row = e.cursor.row) (hm : m = .down ∨ m = .up) : Crosses e m row none

theorem crosses_rowTarget? (h : row ≤ e.buffer.lastRow) (hm : m = .down ∨ m = .up) :
    Crosses e m row (e.rowTarget? row) := by
  unfold rowTarget?
  split
  · rename_i hrow
    exact .stays hrow hm
  · exact .goes (Buffer.row_positionAt_offsetAt h _)

/-- **A motion across rows leads to its row.** -/
theorem crosses_target? (hcross : m.crossesRows = true) (hc : e.operatorCount = none)
    (hrow : e.cursor.row ≤ e.buffer.lastRow) (settings : Settings) :
    Crosses e m (m.rowFrom e.buffer e.cursor.row e.repeatCount) (m.target? settings e) := by
  have hle := m.rowFrom_le hrow e.repeatCount
  have hcount : e.count = e.repeatCount.getD 1 := count_of_operatorCount hc
  cases m with
  | down =>
    show Crosses e .down _ (e.rowTarget? (min (e.cursor.row + e.count) e.buffer.lastRow))
    rw [hcount]
    exact crosses_rowTarget? hle (.inl rfl)
  | up =>
    show Crosses e .up _ (e.rowTarget? (e.cursor.row - e.count))
    rw [hcount]
    exact crosses_rowTarget? hle (.inr rfl)
  | bottom | top => exact .goes (Buffer.row_positionAt_firstNonBlank hle)
  | _ => simp [Motion.crossesRows] at hcross

theorem run_of_crossesRows (hcross : m.crossesRows = true) (hk : e.continuation = none)
    (settings : Settings) : m.run settings e = e.reachOr (m.target? settings e) := by
  cases m with
  | down | up | bottom | top => exact congrArg (Motion.finish settings · _) (continued_of_none hk)
  | _ => simp [Motion.crossesRows] at hcross

/-- **Without an operator the cursor goes to the row**, and nothing else changes. -/
theorem exists_after_crossing (he : e.clampCursor = e) (hm : e.Commanding)
    (hk : e.continuation = none) (hrec : e.recording = none) (hp : e.toPending = {})
    (settings : Settings) (n : TypedCount) (hcross : m.crossesRows = true) (rest : List Key) :
    ∃ cursor : Position, cursor.row = m.rowFrom e.buffer e.cursor.row n.count? ∧
      ({ e with cursor := cursor } : Editor).clampCursor = { e with cursor := cursor } ∧
      e.after settings (n.keys ++ (m.keys ++ rest)) =
        ({ e with cursor := cursor } : Editor).after settings rest := by
  have hrow := (cursor_le_of_clampCursor_eq he).1
  have hop : e.operator = none := congrArg Pending.operator hp
  have hc : e.operatorCount = none := congrArg Pending.operatorCount hp
  have hn : e.repeatCount = none := congrArg Pending.repeatCount hp
  let e₁ : Editor := { e with repeatCount := n.count? }
  have hclamped₁ : e₁.clampCursor = e₁ := clampCursor_of_eq he rfl rfl rfl
  have hstart : m = .rowStart → e₁.repeatCount = none := fun h => absurd h (m.ne_rowStart hcross)
  have hafter : e.after settings (n.keys ++ (m.keys ++ rest)) =
      (m.run settings e₁).clampCursor.after settings rest :=
    (after_count settings he hm hk hrec hn n.all_digits n.head_ne _).trans
      (after_keys_append m hclamped₁ hm hk hrec hstart settings rest)
  have hcrosses := crosses_target? (e := e₁) hcross hc hrow settings
  rw [hafter, run_of_crossesRows (e := e₁) hcross hk]
  generalize m.target? settings e₁ = target? at hcrosses
  cases hcrosses with
  | goes hoffset =>
    rename_i offset
    let e₂ : Editor := { e with cursor := e.buffer.positionAt offset }
    have hreach (row : Nat) : e₁.reach (.line row offset) = e₂ :=
      (reach_line_of_no_operator (e := e₁) hop row offset).trans
        (congrArg (moveTo · offset) (dropCounts_eq hc hn))
    have hle := m.rowFrom_le hrow n.count?
    refine ⟨e₂.clampCursor.cursor, ?_, clampCursor_clampCursor e₂, ?_⟩
    · show min (e.buffer.positionAt offset).row e.buffer.lastRow = _
      rw [hoffset]
      exact Nat.min_eq_left hle
    · show (e₁.reach _).clampCursor.after settings rest = _
      rw [hreach]
      rfl
  | stays hsame =>
    have hcleared : e₁.clearPending = e :=
      congrArg (fun pending => ({ e with toPending := pending } : Editor)) hp.symm
    refine ⟨e.cursor, hsame.symm, he, ?_⟩
    show e₁.clearPending.clampCursor.after settings rest = _
    rw [hcleared, he]

/-! ### Rows that are selected -/

section Selecting

variable (hk : e.continuation = none) (hrec : e.recording = none) (hp : e.toPending = {})
  (settings : Settings)

include hk hrec hp

theorem after_selectRows (he : e.clampCursor = e) (hm : e.mode = .normal) (rest : List Key) :
    let begun := e.selecting .line e.cursor e.cursor
    begun.clampCursor = begun ∧
      e.after settings (.char 'V' :: rest) = begun.after settings rest := by
  intro begun
  have hop : e.operator = none := congrArg Pending.operator hp
  have htoggle : e.toggleVisual .line = begun := by
    unfold toggleVisual clearPending
    simp only [hm, reduceCtorEq, if_false, Mode.isVisual, Bool.false_eq_true]
    exact congrArg (fun pending => ({ begun with toPending := pending } : Editor)) hp.symm
  have hpress : e.press settings (.char 'V') = .done begun := by
    rw [press_command hm hk hop settings rfl rfl rfl (by decide), ← htoggle]
    rfl
  have hpast : begun.mode.cursorPastEnd = e.mode.cursorPastEnd := by
    rw [hm]
    rfl
  have hclamped : begun.clampCursor = begun := clampCursor_of_agree he rfl rfl hpast
  exact ⟨hclamped, after_cons_of_press hrec hpress hclamped rest⟩

/-- **A motion across rows moves the end** at which the cursor is. -/
theorem exists_after_extending
    (he : (e.selecting .line p q).clampCursor = e.selecting .line p q) (n : TypedCount)
    (hcross : m.crossesRows = true) (rest : List Key) :
    ∃ q' : Position, q'.row = m.rowFrom e.buffer q.row n.count? ∧
      (e.selecting .line p q').clampCursor = e.selecting .line p q' ∧
      (e.selecting .line p q).after settings (n.keys ++ (m.keys ++ rest)) =
        (e.selecting .line p q').after settings rest :=
  exists_after_crossing (e := e.selecting .line p q) he (.inr rfl) hk hrec hp settings n hcross rest

/-- **Down and down again**: the rows add up, and stop at the last one. -/
theorem exists_after_downs
    (he : (e.selecting .line p q).clampCursor = e.selecting .line p q) (downs : List TypedCount)
    (rest : List Key) :
    ∃ q' : Position,
      q'.row = min (q.row + ((downs.map TypedCount.times).map (min · maxCount)).sum)
        e.buffer.lastRow ∧
      (e.selecting .line p q).after settings
          (downs.flatMap (fun n => n.keys ++ Motion.down.keys) ++ rest) =
        (e.selecting .line p q').after settings rest := by
  induction downs generalizing q with
  | nil =>
    have hrow : q.row ≤ e.buffer.lastRow := (cursor_le_of_clampCursor_eq he).1
    exact ⟨q, (Nat.min_eq_left hrow).symm, rfl⟩
  | cons n downs ih =>
    let others := downs.flatMap fun n => n.keys ++ Motion.down.keys
    obtain ⟨q₁, hrow₁, he₁, hfirst⟩ :=
      exists_after_extending hk hrec hp settings (m := .down) he n rfl (others ++ rest)
    obtain ⟨q', hrow', hothers⟩ := ih he₁
    refine ⟨q', ?_, ?_⟩
    · have hstep : q₁.row = min (q.row + min n.times maxCount) e.buffer.lastRow := by
        rw [hrow₁, ← n.getD_count?]
        rfl
      -- Once at the last row the cursor stays there, so that only the sum can tell.
      simp only [List.map_cons, List.sum_cons]
      omega
    · rw [List.flatMap_cons, List.append_assoc, List.append_assoc, hfirst, hothers]

end Selecting

/-! ### Rows that are given to an operator -/

/-- Rows below the last are left out. -/
theorem applyRows_min (e : Editor) (first last : Nat) :
    e.applyRows first (min last e.buffer.lastRow) = e.applyRows first last := by
  have hlast : min (max (min last e.buffer.lastRow) (min first e.buffer.lastRow))
      e.buffer.lastRow = min (max last (min first e.buffer.lastRow)) e.buffer.lastRow := by omega
  unfold applyRows
  dsimp only
  rw [hlast]

/-- **Rows that are selected come out as those that are given**, wherever the cursor is left. -/
theorem selected_rows_eq (hm : e.mode = .normal) (hk : e.continuation = none)
    (hrec : e.recording = none) (settings : Settings) (op : Operator) (p q : Position) :
    let given := ((e.pend op none none).applyRows (min p.row q.row) (max p.row q.row)).clampCursor
    let selected := (e.selecting .line p q).after settings [.char op.key]
    SameOutcome given selected ∧ (op ≠ .yank → selected.cursor = given.cursor) := by
  intro given selected
  let e₁ : Editor :=
    { e with
      mode := .normal
      visualAnchor := none
      repeatCount := none
      operator := some op
      cursor := q }
  have hkey : op.key ∈ op.selectionKeys := by cases op <;> decide
  have hselected : selected =
      (e₁.applyRows (min p.row q.row) (max p.row q.row)).clampCursor := by
    refine (after_selectionKey hk settings .line hkey p q).trans ?_
    rw [captured_of_none hrec]
    rfl
  have harmed : Armed op (e.pend op none none) e₁ := ⟨⟨rfl, rfl, hm.symm⟩, rfl, rfl, rfl⟩
  obtain ⟨hsame, hcursor⟩ := harmed.applyRows (min p.row q.row) (max p.row q.row)
  rw [hselected]
  refine ⟨hsame.clampCursor, fun hne => ?_⟩
  exact cursor_clampCursor_congr (hcursor hne) hsame.buffer (congrArg _ hsame.mode)

/-- **Two ways to give rows to an operator**, from the first of them to the last: it is typed in front
of them, or they are selected before. -/
inductive RowKeys (settings : Settings) (e : Editor) (op : Operator) :
    List Key → List Key → Nat → Nat → Prop where
  /-- Its key twice, with the number of rows in front; or down as often as there are more rows. Left
  out is only a number too great to be held, in a text of as many rows. -/
  | doubled (n : TypedCount) (downs : List TypedCount)
    (hsum : (downs.map TypedCount.times).sum + 1 = n.times)
    (hsize : n.times ≤ maxCount ∨ e.buffer.lastRow < maxCount) :
    RowKeys settings e op (n.keys ++ [.char op.key, .char op.key])
      (.char 'V' :: (downs.flatMap (fun k => k.keys ++ Motion.down.keys) ++ [.char op.key]))
      e.cursor.row (min (e.cursor.row + (n.times - 1)) e.buffer.lastRow)
  /-- A motion across rows, with a count or none. Down and up must lead to another row. -/
  | motion (n : TypedCount) {m : Motion} (hcross : m.crossesRows = true) {row : Nat}
    (hrow : (e.after settings (n.keys ++ m.keys)).cursor.row = row)
    (hleaves : row ≠ e.cursor.row ∨ m = .bottom ∨ m = .top) :
    RowKeys settings e op (.char op.key :: (n.keys ++ m.keys))
      (.char 'V' :: (n.keys ++ (m.keys ++ [.char op.key])))
      (min e.cursor.row row) (max e.cursor.row row)

section Idle

variable (he : e.clampCursor = e) (hm : e.mode = .normal) (hk : e.continuation = none)
  (hrec : e.recording = none) (hp : e.toPending = {}) (settings : Settings) (op : Operator)

include he hm hk hrec hp

theorem after_doubled (n : TypedCount) (hsize : n.times ≤ maxCount ∨ e.buffer.lastRow < maxCount) :
    e.after settings (n.keys ++ [.char op.key, .char op.key]) =
      ((e.pend op none none).applyRows e.cursor.row
        (min (e.cursor.row + (n.times - 1)) e.buffer.lastRow)).clampCursor := by
  have hop : e.operator = none := congrArg Pending.operator hp
  have hn : e.repeatCount = none := congrArg Pending.repeatCount hp
  have hdoubled : Operand.doubled ≠ .motion .rowStart := by simp
  have hafter : e.after settings (n.keys ++ [.char op.key, .char op.key]) = _ :=
    after_count_operand settings he hm hk hrec hop hn n.all_digits n.head_ne hdoubled
  have hcount : (e.pend op n.count? none).count = min n.times maxCount :=
    (count_of_repeatCount (e := e.pend op n.count? none) rfl).trans n.getD_count?
  have hlast : min (e.cursor.row + (min n.times maxCount - 1)) e.buffer.lastRow =
      min (e.cursor.row + (n.times - 1)) e.buffer.lastRow := by omega
  rw [hafter, ← hlast, ← hcount]
  exact congrArg clampCursor (applyRows_min (e.pend op none none) _ _).symm

theorem after_operator_crossing (n : TypedCount) (hcross : m.crossesRows = true)
    (hleaves : m.rowFrom e.buffer e.cursor.row n.count? ≠ e.cursor.row ∨ m = .bottom ∨ m = .top) :
    let row := m.rowFrom e.buffer e.cursor.row n.count?
    e.after settings (.char op.key :: (n.keys ++ m.keys)) =
      ((e.pend op none none).applyRows (min e.cursor.row row) (max e.cursor.row row)).clampCursor := by
  intro row
  have hop : e.operator = none := congrArg Pending.operator hp
  have hn : e.repeatCount = none := congrArg Pending.repeatCount hp
  let e₁ := e.pend op none none
  let e₂ := e.pend op none n.count?
  have hstart : m = .rowStart → e₂.repeatCount = none := fun h => absurd h (m.ne_rowStart hcross)
  have hafter : e.after settings (.char op.key :: (n.keys ++ m.keys)) =
      (m.run settings e₂).clampCursor := by
    rw [after_operator settings he hm hk hrec hop op, hn]
    refine (after_count settings (e := e₁) (clampCursor_pend he op _ _) (.inl hm) hk hrec rfl
      n.all_digits n.head_ne _).trans ?_
    exact after_keys m (e := e₂) (clampCursor_pend he op _ _) (.inl hm) hk hrec hstart settings
  have hcrosses := crosses_target? (e := e₂) hcross rfl (cursor_le_of_clampCursor_eq he).1 settings
  rw [hafter, run_of_crossesRows (e := e₂) hcross hk]
  generalize m.target? settings e₂ = target? at hcrosses
  cases hcrosses with
  | goes hoffset =>
    show (e₂.reach _).clampCursor = _
    rw [reach_line_of_operator (e := e₂) rfl]
    rfl
  | stays hsame hvertical =>
    rcases hleaves with hne | rfl | rfl
    · exact absurd hsame hne
    · simp at hvertical
    · simp at hvertical

end Idle

/-- **It makes no difference whether rows are given to an operator or selected before it.** Wherever
a run has led to, in normal mode, with nothing half typed and no macro being recorded, an operator
acts on the same rows: on so many from the cursor's row on, or on those between the cursor's row and
the one that a motion leads to, as far as there are any. The text, the registers and the mode are the
same, and so is the cursor after all operators but a yank. -/
theorem given_rows_eq_selected_rows {b : Buffer} (he : Reachable b e) (hm : e.mode = .normal)
    (hw : e.waiting = false) (hn : e.repeatCount = none) (hrec : e.recording = none)
    (settings : Settings) (op : Operator) {short long : List Key} {first last : Nat}
    (h : RowKeys settings e op short long first last) :
    let given := e.after settings short
    let selected := e.after settings long
    given = ((e.pend op none none).applyRows first last).clampCursor ∧
      SameOutcome given selected ∧ (op ≠ .yank → selected.cursor = given.cursor) := by
  intro given selected
  have hclamped := he.clampCursor_eq
  have hk : e.continuation = none := continuation_of_not_waiting (e := e) hw
  have hp : e.toPending = {} := by
    rw [toPending_of_no_operator he.traceable.orderly (operator_of_not_waiting hw), hn]
  cases h with
  | doubled n downs hsum hsize =>
    have hgiven := after_doubled hclamped hm hk hrec hp settings op n hsize
    obtain ⟨hbegun, hselect⟩ := after_selectRows hk hrec hp settings hclamped hm
      (downs.flatMap (fun k => k.keys ++ Motion.down.keys) ++ [.char op.key])
    obtain ⟨q, hq, hdowns⟩ := exists_after_downs hk hrec hp settings hbegun downs [.char op.key]
    have hrow : q.row = min (e.cursor.row + (n.times - 1)) e.buffer.lastRow := by
      rw [hq, min_add_sum_map_min (by omega)]
      have hsum' : (downs.map TypedCount.times).sum = n.times - 1 := by omega
      rw [hsum']
    have hle : e.cursor.row ≤ q.row := by
      have hlast := (cursor_le_of_clampCursor_eq hclamped).1
      omega
    have hsame := selected_rows_eq hm hk hrec settings op e.cursor q
    dsimp only at hsame
    rw [← hdowns, ← hselect, Nat.min_eq_left hle, Nat.max_eq_right hle, hrow, ← hgiven] at hsame
    exact ⟨hgiven, hsame⟩
  | motion n hcross hrow hleaves =>
    rename_i m row
    obtain ⟨cursor, hcursor, -, halone⟩ :=
      exists_after_crossing hclamped (.inl hm) hk hrec hp settings n hcross []
    have hfrom : row = m.rowFrom e.buffer e.cursor.row n.count? := by
      rw [List.append_nil] at halone
      rw [← hrow, halone]
      exact hcursor
    have hgiven := after_operator_crossing hclamped hm hk hrec hp settings op n hcross
      (hfrom ▸ hleaves)
    obtain ⟨hbegun, hselect⟩ := after_selectRows hk hrec hp settings hclamped hm
      (n.keys ++ (m.keys ++ [.char op.key]))
    obtain ⟨q, hq, -, hextend⟩ :=
      exists_after_extending hk hrec hp settings hbegun n hcross [.char op.key]
    have hsame := selected_rows_eq hm hk hrec settings op e.cursor q
    dsimp only at hgiven hsame
    rw [← hfrom] at hgiven hq
    rw [← hextend, ← hselect, hq, ← hgiven] at hsame
    exact ⟨hgiven, hsame⟩

/-- More rows than there are, and rows up to the first, where a yank leaves the cursor in two
places. -/
theorem given_rows_eq_selected_rows_at_edges :
    ∃ e : Editor, Reachable ⟨['\t', 'a', '\n', 'b', 'c', '\n', 'd', '\n', 'e']⟩ e ∧
      e.cursor = ⟨1, 0⟩ ∧
      (let given := e.after {} [.char '9', .char 'd', .char 'd']
      let selected := e.after {} [.char 'V', .char '3', .char 'j', .char '5', .char 'j', .char 'd']
      given.buffer = ⟨['\t', 'a']⟩ ∧ given.cursor = ⟨0, 1⟩ ∧ SameOutcome given selected ∧
        selected.cursor = given.cursor) ∧
      (let given := e.after {} [.char 'y', .char 'g', .char 'g']
      let selected := e.after {} [.char 'V', .char 'g', .char 'g', .char 'y']
      given = ((e.pend .yank none none).applyRows 0 1).clampCursor ∧ SameOutcome given selected ∧
        given.cursor = ⟨0, 0⟩ ∧ selected.cursor = ⟨0, 1⟩) := by
  obtain ⟨e, he, hm, hw, hn, hrec, hcursor, hrow, hdeleted, hdeletedAt, hyankedAt, hyankedAt'⟩ :
      ∃ e : Editor, Reachable ⟨['\t', 'a', '\n', 'b', 'c', '\n', 'd', '\n', 'e']⟩ e ∧
        e.mode = .normal ∧ e.waiting = false ∧ e.repeatCount = none ∧ e.recording = none ∧
        e.cursor = ⟨1, 0⟩ ∧ (e.after {} [.char 'g', .char 'g']).cursor.row = 0 ∧
        (e.after {} [.char '9', .char 'd', .char 'd']).buffer = ⟨['\t', 'a']⟩ ∧
        (e.after {} [.char '9', .char 'd', .char 'd']).cursor = ⟨0, 1⟩ ∧
        (e.after {} [.char 'y', .char 'g', .char 'g']).cursor = ⟨0, 0⟩ ∧
        (e.after {} [.char 'V', .char 'g', .char 'g', .char 'y']).cursor = ⟨0, 1⟩ :=
    ⟨_, .first {} [.char 'j'], by decide +kernel⟩
  have hdoubled : RowKeys {} e .delete _ _ _ _ :=
    .doubled { digits := ['9'] } [{ digits := ['3'] }, { digits := ['5'] }] (by decide)
      (.inl (by decide))
  have hmotion : RowKeys {} e .yank _ _ _ _ := .motion {} (m := .top) rfl hrow (.inr (.inr rfl))
  obtain ⟨-, hsame, hleft⟩ := given_rows_eq_selected_rows he hm hw hn hrec {} .delete hdoubled
  obtain ⟨htaken, hsame', -⟩ := given_rows_eq_selected_rows he hm hw hn hrec {} .yank hmotion
  rw [hcursor] at htaken
  exact ⟨e, he, hcursor, ⟨hdeleted, hdeletedAt, hsame, hleft (by decide)⟩,
    htaken, hsame', hyankedAt, hyankedAt'⟩

end Editor

end ModalEditor
