import ModalEditor.Proofs.LeftoverCounts
import ModalEditor.Proofs.RowSelections

/-!
# Typed counts

A count is cut off at the maximum three times over: when it is multiplied by ten, when a digit is
added, and when it is multiplied by the count before an operator. To do so early changes nothing.
What is held is the number that was typed, or the maximum (`TypedCount.count?_eq`), and two counts
are read as the product of both numbers, or the maximum (`count_pend_typed`).

After the digits and the key of an operator no more has happened than that they are pending
(`after_typedCount`, `after_counts`), wherever the cursor was. A motion takes both counts, whether
it reads them or not (`uncounted_run`), and reads no more of them than their product
(`run_counted`). So what two counts come to is a matter of numbers alone (`counts_saturate`).
-/

namespace ModalEditor

/-- A factor may be cut off before it is multiplied by another. -/
theorem min_mul_min (a b k : Nat) : min (a * min b k) k = min (a * b) k := by
  rcases Nat.le_total b k with h | h
  · rw [Nat.min_eq_left h]
  rcases Nat.eq_zero_or_pos a with rfl | ha
  · simp
  have hself : k ≤ a * k := Nat.le_mul_of_pos_left k ha
  have hprod : a * k ≤ a * b := Nat.mul_le_mul_left a h
  rw [Nat.min_eq_right h, Nat.min_eq_right hself, Nat.min_eq_right (Nat.le_trans hself hprod)]

/-- So the product of two counts as they are held is that of the true numbers. -/
theorem mulCounts_min (a b : Nat) :
    mulCounts (min a maxCount) (min b maxCount) = min (a * b) maxCount := by
  rw [mulCounts, min_mul_min, Nat.mul_comm, min_mul_min, Nat.mul_comm]

namespace TypedCount

/-- The number that is typed, if there is one. -/
def number? (n : TypedCount) : Option Nat :=
  if n.digits = [] then none else some (ofDigits n.digits)

/-- **What two counts ask for together**: the product of the numbers, or the one that is there, or
one. -/
def together (before since : TypedCount) : Nat :=
  match before.number?, since.number? with
  | none, none => 1
  | some a, none => a
  | none, some b => b
  | some a, some b => a * b

/-- **Digits that are added one by one** come to the number that they write, or to the maximum. -/
theorem count?_eq (n : TypedCount) : n.count? = n.number?.map (min · maxCount) := by
  unfold count? Editor.typedCount? number?
  simp only [List.isEmpty_iff]
  split
  · rfl
  · exact congrArg some (Editor.foldl_pushDigit n.digits 0)

theorem pos_of_number? {n : TypedCount} {k : Nat} (h : n.number? = some k) : 0 < k := by
  have hpos := countOf_pos n.all_digits n.head_ne
  unfold number? at h
  split at h
  · cases h
  · rename_i hne
    rw [countOf, if_neg (by simpa using hne)] at hpos
    cases h
    exact hpos

theorem together_pos (before since : TypedCount) : 0 < before.together since := by
  unfold together
  split
  · exact Nat.one_pos
  · exact pos_of_number? ‹_›
  · exact pos_of_number? ‹_›
  · exact Nat.mul_pos (pos_of_number? ‹_›) (pos_of_number? ‹_›)

end TypedCount

namespace Editor

variable {e e' : Editor}

/-- **Two counts are read as their product**, or the maximum. -/
theorem count_pend_typed (e : Editor) (op : Operator) (before since : TypedCount) :
    (e.pend op before.count? since.count?).count = min (before.together since) maxCount := by
  rw [before.count?_eq, since.count?_eq]
  unfold TypedCount.together
  cases before.number? with
  | none => cases since.number? <;> rfl
  | some a =>
    cases since.number? with
    | none => rfl
    | some b => exact mulCounts_min a b

/-! ### No count is left -/

/-- There is neither a count before an operator nor one since. -/
structure Uncounted (e : Editor) : Prop where
  /-- There is none before an operator. -/
  operatorCount : e.operatorCount = none
  /-- There is none since. -/
  repeatCount : e.repeatCount = none

theorem Uncounted.dropCounts_eq (h : Uncounted e) : e.dropCounts = e :=
  Editor.dropCounts_eq h.operatorCount h.repeatCount

theorem Uncounted.clampCursor (h : Uncounted e) : Uncounted e.clampCursor :=
  ⟨h.operatorCount, h.repeatCount⟩

theorem Uncounted.of_operated {op : Option Operator} (h : Operated e e' op) (he : Uncounted e) :
    Uncounted e' := by
  have hcount : (e.control.operated op).operatorCount = e.operatorCount := by
    unfold Control.operated
    split <;> rfl
  have hoperator : e'.operatorCount = e.operatorCount :=
    (congrArg (·.operatorCount) h.control_eq).trans hcount
  have hrepeat : e'.repeatCount = e.repeatCount :=
    (congrArg (·.repeatCount) h.control_eq).trans (repeatCount_operated _ op)
  exact ⟨hoperator.trans he.operatorCount, hrepeat.trans he.repeatCount⟩

theorem uncounted_reach (e : Editor) (target : Target) : Uncounted (e.reach target) := by
  have hdropped : Uncounted e.dropCounts := ⟨rfl, rfl⟩
  cases target with
  | char offset inclusive => exact .of_operated (operated_applyRange _ _ _) hdropped
  | line row offset =>
    unfold reach
    dsimp only
    split
    · exact .of_operated (operated_applyRows _ _ _) hdropped
    · exact ⟨rfl, rfl⟩

theorem Settles.uncounted {target? : Option Target} (h : Settles e target? e') : Uncounted e' := by
  obtain ⟨-⟩ := h
  cases target? with
  | none => exact ⟨rfl, rfl⟩
  | some target => exact uncounted_reach _ target

/-- The mark that an operand leads to, if it is one, is set. -/
def Marked (e : Editor) (operand : Operand) : Prop :=
  ∀ name, operand = .motion (.mark name) → e.marks.get? name ≠ none

/-- **What an operator is given takes the counts**, unless it leads to a mark that is not set. -/
theorem uncounted_run (settings : Settings) {operand : Operand} (hmark : e.Marked operand) :
    Uncounted (operand.run settings e) := by
  cases operand with
  | doubled => exact .of_operated (operated_applyRows _ _ _) ⟨rfl, rfl⟩
  | motion m =>
    let e₁ : Editor := { m.begin e with continuation := none }
    show Uncounted (m.finish settings e₁)
    by_cases hsearch : ∃ d q, m = .search d q
    · obtain ⟨d, q, rfl⟩ := hsearch
      exact (settles_commitSearch e₁ settings).uncounted
    · have hne : ∀ d q, m ≠ .search d q := fun d q hm => hsearch ⟨d, q, hm⟩
      rcases settles_finish_of_ne_search hne settings e₁ with hs | ⟨name, rfl, hnone, -⟩
      · exact hs.uncounted
      · exact absurd hnone (hmark name rfl)

/-- **It reads no more of the counts than their product**, unless the count names a row. -/
theorem run_counted (settings : Settings) {operand : Operand} (hmark : e.Marked operand)
    (hrow : operand.namesRow = false) :
    operand.run settings e.counted = operand.run settings e := by
  have hmark' : e.counted.Marked operand := hmark
  have hdropped := dropCounts_run_counted settings e hrow
  rwa [(uncounted_run settings hmark').dropCounts_eq, (uncounted_run settings hmark).dropCounts_eq]
    at hdropped

/-! ### Typing -/

variable (settings : Settings)

/-- What keys lead to with any rest behind them they also lead to with none. -/
theorem after_of_append {settings : Settings} {keys : List Key}
    (h : ∀ rest, e.after settings (keys ++ rest) = e'.after settings rest) :
    e.after settings keys = e' := by
  have hnil := h []
  rw [List.append_nil] at hnil
  exact hnil

/-- Where the first key leaves the cursor in its place, it may as well be put in order before. -/
theorem after_clampCursor_cons {key : Key}
    (h : (e.captured [key]).press settings key = .done e')
    (hclamped : (e.captured [key]).clampCursor.press settings key = .done e'.clampCursor)
    (keys : List Key) :
    e.clampCursor.after settings (key :: keys) = e.after settings (key :: keys) := by
  rw [← capture_eq] at h
  have h' : (e.clampCursor.capture key).press settings key = .done e'.clampCursor := by
    rw [capture_eq]
    exact hclamped
  rw [after_cons_of_done h, after_cons_of_done h', after_singleton_of_done h,
    after_singleton_of_done h', clampCursor_clampCursor]

theorem after_clampCursor_keys (hm : e.Commanding) (hk : e.continuation = none) {n : TypedCount}
    (hne : n.digits ≠ []) (keys : List Key) :
    e.clampCursor.after settings (n.keys ++ keys) = e.after settings (n.keys ++ keys) := by
  obtain ⟨digits, hd, hz⟩ := n
  cases digits with
  | nil => exact absurd rfl hne
  | cons c digits =>
    have hdigit : c.isDigit = true := (List.all_eq_true.1 hd) c List.mem_cons_self
    have hpress (e₁ : Editor) (hm₁ : e₁.Commanding) (hk₁ : e₁.continuation = none) :
        e₁.press settings (.char c) = .done (e₁.typeDigit (c.toNat - '0'.toNat)) :=
      press_digit hm₁ hk₁ settings (countDigit?_of_isDigit hdigit (.inr (by simpa using hz)))
    exact after_clampCursor_cons settings (hpress (e.captured [.char c]) hm hk)
      (hpress (e.captured [.char c]).clampCursor hm hk) _

theorem after_clampCursor_operator (hm : e.mode = .normal) (hk : e.continuation = none)
    {op : Operator} (hop : e.operator ≠ some op) (keys : List Key) :
    e.clampCursor.after settings (.char op.key :: keys) =
      e.after settings (.char op.key :: keys) := by
  let e₁ : Editor := e.captured [.char op.key]
  have hpress : e₁.press settings (.char op.key) = .done (e₁.pend op e.repeatCount none) :=
    press_operator_pend settings (e := e₁) hm hk hop
  have hclamped : e₁.clampCursor.press settings (.char op.key) =
      .done (e₁.pend op e.repeatCount none).clampCursor :=
    press_operator_pend settings (e := e₁.clampCursor) hm hk hop
  exact after_clampCursor_cons settings hpress hclamped keys

/-- With the cursor in order no more happens than that the digits are held. -/
theorem after_keys_of_clamped (he : e.clampCursor = e) (hm : e.Commanding)
    (hk : e.continuation = none) (hn : e.repeatCount = none) (n : TypedCount) (keys : List Key) :
    e.after settings (n.keys ++ keys) =
      ({ e.captured n.keys with repeatCount := n.count? } : Editor).after settings keys := by
  have hdigits := after_pushDigits settings he hm hk keys n.all_digits (.inr n.head_ne)
  rw [hn, pushDigits_none] at hdigits
  exact hdigits

/-- **A count is typed**, its zeros included. -/
theorem after_typedCount (hm : e.Commanding) (hk : e.continuation = none)
    (hn : e.repeatCount = none) {n : TypedCount} (hne : n.digits ≠ []) (keys : List Key) :
    e.after settings (n.keys ++ keys) =
      ({ e.captured n.keys with repeatCount := n.count? } : Editor).clampCursor.after settings
        keys := by
  rw [← after_clampCursor_keys settings hm hk hne]
  exact after_keys_of_clamped settings (clampCursor_clampCursor e) hm hk hn n keys

/-- **An operator is typed**, with a count before it and one since. -/
theorem after_counts (hm : e.mode = .normal) (hk : e.continuation = none)
    (hn : e.repeatCount = none) {op : Operator} (hop : e.operator ≠ some op)
    (before since : TypedCount) (rest : List Key) :
    let keys := before.keys ++ .char op.key :: since.keys
    e.after settings (keys ++ rest) =
      ((e.captured keys).pend op before.count? since.count?).clampCursor.after settings rest := by
  intro keys
  have hclamped {e' : Editor} (hbuffer : e'.buffer = e.buffer) (hmode : e'.mode = e.mode)
      (hcursor : e'.cursor = e.clampCursor.cursor) : e'.clampCursor = e' :=
    clampCursor_of_eq (clampCursor_clampCursor e) hbuffer hmode hcursor
  have hfirst (rest : List Key) :
      e.clampCursor.after settings (before.keys ++ .char op.key :: rest) =
        e.after settings (before.keys ++ .char op.key :: rest) := by
    by_cases hne : before.digits = []
    · have hnil : before.keys = [] := congrArg (List.map Key.char) hne
      rw [hnil]
      exact after_clampCursor_operator settings hm hk hop rest
    · exact after_clampCursor_keys settings (.inl hm) hk hne _
  let e₁ : Editor := { e.clampCursor.captured before.keys with repeatCount := before.count? }
  let e₂ : Editor := (e₁.captured [.char op.key]).pend op before.count? none
  let e₃ : Editor := { e₂.captured since.keys with repeatCount := since.count? }
  have hall : e₃ = ((e.captured keys).pend op before.count? since.count?).clampCursor := by
    have hkeys : ((e.captured before.keys).captured [.char op.key]).captured since.keys =
        e.captured keys := by
      rw [captured_append, captured_append, List.singleton_append]
    rw [← hkeys]
    rfl
  rw [← hall, List.append_assoc, List.cons_append, ← hfirst]
  refine (after_keys_of_clamped settings (clampCursor_clampCursor e) (.inl hm) hk hn before _).trans
    ?_
  refine (after_operatorKey (e := e₁) (hclamped rfl rfl rfl) hm hk settings _ hop).trans ?_
  exact after_keys_of_clamped settings (e := e₂) (hclamped rfl rfl rfl) (.inl hm) hk rfl since rest

/-! ### What counts come to -/

/-- What is given to an operator after both counts is carried out with them, whatever of it is
recorded. -/
theorem after_counts_operand (hm : e.mode = .normal) (hk : e.continuation = none)
    (hn : e.repeatCount = none) {op : Operator} (hop : e.operator ≠ some op)
    (before since : TypedCount) {operand : Operand}
    (hz : operand = .motion .rowStart → since.digits = []) :
    let keys := before.keys ++ .char op.key :: since.keys
    e.after settings (keys ++ operand.keys op) =
      (operand.run settings ((e.after settings keys).captured (operand.keys op))).clampCursor := by
  intro keys
  let e₁ : Editor := (e.captured keys).pend op before.count? since.count?
  have hafter (rest : List Key) : e.after settings (keys ++ rest) =
      e₁.clampCursor.after settings rest := after_counts settings hm hk hn hop before since rest
  have hkeys : e.after settings keys = e₁.clampCursor := after_of_append hafter
  have hz' : operand = .motion .rowStart → since.count? = none :=
    fun hrow => congrArg typedCount? (hz hrow)
  rw [hafter, hkeys]
  exact after_recorded_operand settings (clampCursor_clampCursor e₁) hm hk rfl hz'

/-- **Counts are the numbers that are typed, up to the maximum.** In normal mode and while a
selection is made, with no count pending and no second key waited for, digits that do not begin with
zero are held as the number that they write, or as the maximum. So are digits before the key of an
operator, and those since. What is read of both is the product of the numbers, the one that is there,
or one, again up to the maximum. What is given to the operator does what it does with that as its
only count, unless the count names a row, and leaves neither count behind. The exception is a jump to
a mark that is not set, which does nothing. No count is zero, wherever a run leads to. -/
theorem counts_saturate (hm : e.Commanding) (hk : e.continuation = none)
    (hn : e.repeatCount = none) :
    (∀ n : TypedCount, n.digits ≠ [] →
      let e' := e.after settings n.keys
      e' = ({ e.captured n.keys with
        repeatCount := some (min (ofDigits n.digits) maxCount) } : Editor).clampCursor ∧
      (e.operatorCount = none → e'.count = min (ofDigits n.digits) maxCount ∧ 0 < e'.count) ∧
      ∀ m : Motion, m ≠ .rowStart → e.Marked (.motion m) →
        Uncounted (e.after settings (n.keys ++ m.keys))) ∧
    (e.mode = .normal → ∀ (op : Operator) (before since : TypedCount), e.operator ≠ some op →
      let keys := before.keys ++ .char op.key :: since.keys
      let e' := e.after settings keys
      e' = ((e.captured keys).pend op (before.number?.map (min · maxCount))
        (since.number?.map (min · maxCount))).clampCursor ∧
      e'.count = min (before.together since) maxCount ∧ 0 < e'.count ∧
      ∀ operand : Operand, (operand = .motion .rowStart → since.digits = []) → e.Marked operand →
        let e'' := e.after settings (keys ++ operand.keys op)
        Uncounted e'' ∧ (operand.namesRow = false →
          e'' = (operand.run settings (e'.counted.captured (operand.keys op))).clampCursor)) ∧
    ∀ (b : Buffer) (keys : List Key), Reachable b e → 0 < (e.after settings keys).count := by
  refine ⟨?typed, ?operator, ?reachable⟩
  case typed =>
    intro n hne e'
    have hnumber : n.number? = some (ofDigits n.digits) := if_neg hne
    have hcount : n.count? = some (min (ofDigits n.digits) maxCount) := by
      rw [n.count?_eq, hnumber]
      rfl
    let e₁ : Editor :=
      { e.captured n.keys with repeatCount := some (min (ofDigits n.digits) maxCount) }
    have hafter (rest : List Key) : e.after settings (n.keys ++ rest) =
        e₁.clampCursor.after settings rest := by
      rw [after_typedCount settings hm hk hn hne, hcount]
    have htyped : e' = e₁.clampCursor := after_of_append hafter
    refine ⟨htyped, fun hbefore => ?_, fun m hstart hmark => ?_⟩
    · have heq : e'.count = min (ofDigits n.digits) maxCount :=
        (congrArg (·.count) htyped).trans
          (count_of_operatorCount (e := e₁.clampCursor) hbefore)
      exact ⟨heq, heq ▸ Nat.lt_min.2 ⟨TypedCount.pos_of_number? hnumber, by decide⟩⟩
    · rw [hafter, after_recorded_keys m (clampCursor_clampCursor e₁) hm hk (absurd · hstart)]
      exact (uncounted_run settings (e := e₁.clampCursor.captured m.keys) hmark).clampCursor
  case operator =>
    intro hnormal op before since hop keys e'
    let e₁ : Editor := (e.captured keys).pend op before.count? since.count?
    have htyped : e' = e₁.clampCursor :=
      after_of_append fun rest => after_counts settings hnormal hk hn hop before since rest
    have hcount : e'.count = min (before.together since) maxCount :=
      (congrArg (·.count) htyped).trans (count_pend_typed (e.captured keys) op before since)
    have hpos := before.together_pos since
    rw [← before.count?_eq, ← since.count?_eq]
    refine ⟨htyped, hcount, hcount ▸ Nat.lt_min.2 ⟨hpos, by decide⟩, ?_⟩
    intro operand hz hmark e''
    have hgiven : e'' = (operand.run settings (e'.captured (operand.keys op))).clampCursor :=
      after_counts_operand settings hnormal hk hn hop before since hz
    have hmark' : (e'.captured (operand.keys op)).Marked operand := by
      rw [htyped]
      exact hmark
    rw [hgiven]
    exact ⟨(uncounted_run settings hmark').clampCursor,
      fun hrow => congrArg clampCursor (run_counted settings hmark' hrow).symm⟩
  case reachable =>
    intro b keys he
    exact Nat.pos_of_ne_zero (count_ne_zero (he.next settings keys).traceable.orderly)

/-- A hundred is typed while a selection is made, and 2 to the 64, which is one more than the
maximum. In normal mode 2 to the 32 is typed on both sides of a deletion, twenty after it, or
nothing. -/
theorem counts_saturate_two_pow :
    ∃ e v : Editor, Reachable ⟨['a', 'b']⟩ e ∧ Reachable ⟨['a', 'b']⟩ v ∧ e.mode = .normal ∧
      v.mode = .visual .char ∧
      (v.after {} [.char '1', .char '0', .char '0']).repeatCount = some 100 ∧
      (v.after {} ((showNumber (2 ^ 64)).map Key.char)).repeatCount = some maxCount ∧
      let half := (showNumber (2 ^ 32)).map Key.char
      (e.after {} (half ++ .char 'd' :: half)).count = maxCount ∧
        Uncounted (e.after {} ((half ++ .char 'd' :: half) ++ [.char 'd'])) ∧
        (e.after {} [.char 'd', .char '2', .char '0']).count = 20 ∧
        (e.after {} [.char 'd']).count = 1 ∧
        0 < (e.after {} [.char '0', .char '2', .char '0']).count := by
  obtain ⟨e, he, hm, hk, hn, hop⟩ : ∃ e : Editor, Reachable ⟨['a', 'b']⟩ e ∧ e.mode = .normal ∧
      e.continuation = none ∧ e.repeatCount = none ∧ e.operator ≠ some .delete :=
    ⟨_, .first {} [.char 'l'], by decide +kernel⟩
  obtain ⟨v, hv, hm', hk', hn'⟩ : ∃ v : Editor, Reachable ⟨['a', 'b']⟩ v ∧
      v.mode = .visual .char ∧ v.continuation = none ∧ v.repeatCount = none :=
    ⟨_, .first {} [.char 'v'], by decide +kernel⟩
  let half : TypedCount := ⟨showNumber (2 ^ 32), by decide +kernel, by decide +kernel⟩
  let whole : TypedCount := ⟨showNumber (2 ^ 64), by decide +kernel, by decide +kernel⟩
  obtain ⟨hhundred, hwhole, hsquare, htwenty⟩ :
      min (ofDigits ['1', '0', '0']) maxCount = 100 ∧
        min (ofDigits whole.digits) maxCount = maxCount ∧
        min (half.together half) maxCount = maxCount ∧
        min (TypedCount.together {} ⟨['2', '0'], rfl, by decide⟩) maxCount = 20 := by
    decide +kernel
  obtain ⟨-, hoperator, hreachable⟩ := counts_saturate {} (.inl hm) hk hn
  obtain ⟨hselecting, -⟩ := counts_saturate {} (.inr (congrArg Mode.isVisual hm')) hk' hn'
  have hdelete (before since : TypedCount) := hoperator hm .delete before since hop
  refine ⟨e, v, he, hv, hm, hm', ?_, ?_, ?_, ?_, ?_, ?_, hreachable _ _ he⟩
  · have htyped := (hselecting ⟨['1', '0', '0'], rfl, by decide⟩ (by simp)).1
    exact (congrArg (·.repeatCount) htyped).trans (congrArg some hhundred)
  · have htyped := (hselecting whole (by decide +kernel)).1
    exact (congrArg (·.repeatCount) htyped).trans (congrArg some hwhole)
  · exact (hdelete half half).2.1.trans hsquare
  · exact ((hdelete half half).2.2.2 .doubled (by simp) (by simp [Marked])).1
  · exact (hdelete {} ⟨['2', '0'], rfl, by decide⟩).2.1.trans htwenty
  · exact (hdelete {} {}).2.1

end Editor

end ModalEditor
