import ModalEditor.Proofs.Playing
import ModalEditor.Proofs.TypedMotions

/-!
# Counts before an operator and after it

An operator keeps the count typed before it apart from the one typed since. What it is given reads no
more of the two than their product, so it does the same in an editor that has the product as its
only count (`dropCounts_run_counted`); it makes no difference, then, on which side of the operator a
count is typed. The exceptions are the motions to a row that the count names, which read the second
count alone and drop the first. `count_before_operator` has both cases.
-/

namespace ModalEditor

/-- **What an operator is given**: a motion, or its own key again. -/
inductive Operand where
  /-- A motion. -/
  | motion (m : Motion)
  /-- The key of the operator, for whole rows. -/
  | doubled

namespace Operand

/-- The keys that are typed for it. -/
def keys (op : Operator) : Operand → List Key
  | motion m => m.keys
  | doubled => [.char op.key]

/-- What they do. -/
def run (settings : Settings) (e : Editor) : Operand → Editor
  | motion m => m.run settings e
  | doubled => e.dropCounts.applyRows e.cursor.row (e.cursor.row + (e.count - 1))

/-- Whether the count names a row. -/
def namesRow : Operand → Bool
  | motion .bottom | motion .top => true
  | _ => false

end Operand

namespace Editor

/-! ### One count for two -/

/-- The product of the counts takes the place of both. -/
def counted (e : Editor) : Editor := { e with operatorCount := none, repeatCount := some e.count }

variable (settings : Settings) (e : Editor)

theorem lastJump_counted : e.counted.lastJump = e.lastJump := rfl

theorem searchPattern_counted : e.counted.searchPattern = e.searchPattern := rfl

theorem registers_counted : e.counted.registers = e.registers := rfl

theorem marks_counted : e.counted.marks = e.marks := rfl

theorem reach_counted (target : Target) : e.counted.reach target = e.reach target := rfl

theorem reachOr_counted (target? : Option Target) :
    e.counted.reachOr target? = e.reachOr target? := by
  cases target? with
  | none => rfl
  | some target => exact reach_counted e target

theorem jump_counted (j : Jump) (again : Bool) : e.counted.jump j again = e.jump j again := by
  rw [jump_eq, jump_eq]
  exact reachOr_counted e _

theorem repeatJump_counted (reverse : Bool) :
    e.counted.repeatJump reverse = e.repeatJump reverse := by
  unfold repeatJump
  rw [lastJump_counted]
  cases e.lastJump with
  | none => rfl
  | some j => exact jump_counted e _ true

theorem runSearch_counted (d : Direction) (first : Bool) :
    e.counted.runSearch d first = e.runSearch d first := by
  unfold runSearch
  rw [searchPattern_counted]
  cases e.searchPattern <;> rfl

theorem recallPattern_counted :
    e.counted.recallPattern settings = (e.recallPattern settings).counted := by
  unfold recallPattern
  dsimp only
  rw [searchPattern_counted, registers_counted]
  by_cases h : (e.searchPattern.isSome || (e.registers.read searchRegister).isEmpty) = true
  · rw [if_pos h, if_pos h]
  · rw [if_neg h, if_neg h]
    cases SearchPattern.compile (e.registers.read searchRegister) settings.ignoreCase <;> rfl

theorem searchFor_counted (query : Text) :
    e.counted.searchFor settings query = e.searchFor settings query := by
  unfold searchFor
  cases SearchPattern.compile query settings.ignoreCase with
  | ok p =>
    exact runSearch_counted
      { e with
        registers := e.registers.write searchRegister query
        searchPattern := some p
        searchError := none } (e.searchDirection.getD .forward) true
  | error err => rfl

theorem commitSearch_counted : e.counted.commitSearch settings = e.commitSearch settings := by
  let e₁ : Editor := { e with mode := .normal, searchQuery := {} }
  show (if e.searchQuery.text.isEmpty then (e₁.counted.recallPattern settings).repeatSearch false
    else e₁.counted.searchFor settings e.searchQuery.text) = _
  unfold commitSearch
  dsimp only
  split
  · rw [recallPattern_counted]
    exact runSearch_counted _ _ false
  · exact searchFor_counted settings e₁ _

/-- A motion other than to a row that the count names reads the product of the counts. Only a mark
that is not set leaves them as they are. -/
theorem dropCounts_finish_counted {m : Motion} (h : (Operand.motion m).namesRow = false) :
    (m.finish settings e.counted).dropCounts = (m.finish settings e).dropCounts := by
  cases m with
  | bottom | top => simp [Operand.namesRow] at h
  | jump j => exact congrArg dropCounts (jump_counted { e with lastJump := some j } j false)
  | jumpAgain reverse => exact congrArg dropCounts (repeatJump_counted e reverse)
  | search d q => exact congrArg dropCounts (commitSearch_counted settings e)
  | searchAgain reverse => exact congrArg dropCounts (runSearch_counted e _ false)
  | down | up => exact congrArg dropCounts (reachOr_counted e _)
  | mark name =>
    show (e.counted.jumpToMark name).dropCounts = (e.jumpToMark name).dropCounts
    unfold jumpToMark
    rw [marks_counted]
    cases e.marks.get? name <;> rfl
  | _ => rfl

/-- **What an operator is given reads the product of the counts**, unless the count names a row. -/
theorem dropCounts_run_counted {operand : Operand} (h : operand.namesRow = false) :
    (operand.run settings e.counted).dropCounts = (operand.run settings e).dropCounts := by
  cases operand with
  | doubled => rfl
  | motion m =>
    have hbegin : ({ m.begin e.counted with continuation := none } : Editor) =
        ({ m.begin e with continuation := none } : Editor).counted := by
      cases m <;> rfl
    show (m.finish settings { m.begin e.counted with continuation := none }).dropCounts = _
    rw [hbegin]
    exact dropCounts_finish_counted settings _ h

/-! ### Typing -/

/-- An operator that has been typed, with the count before it and the one since. -/
def pend (op : Operator) (before since : Option Nat) : Editor :=
  { e with
    operator := some op
    modifier := none
    operatorCount := before
    repeatCount := since }

/-- On which side a count stands makes no difference to their product. -/
theorem counted_pend (op : Operator) (count? : Option Nat) :
    (e.pend op count? none).counted = (e.pend op none count?).counted := by
  cases count? <;> rfl

/-- Where the count names a row, the one before the operator is not read. -/
theorem run_pend_of_namesRow {operand : Operand} (h : operand.namesRow = true) (op : Operator)
    (before since : Option Nat) :
    operand.run settings (e.pend op before since) = operand.run settings (e.pend op none since) := by
  cases operand with
  | doubled => simp [Operand.namesRow] at h
  | motion m =>
    cases m with
    | bottom | top => rfl
    | _ => simp [Operand.namesRow] at h

variable {e}

theorem clampCursor_pend (he : e.clampCursor = e) (op : Operator) (before since : Option Nat) :
    (e.pend op before since).clampCursor = e.pend op before since :=
  clampCursor_of_eq he rfl rfl rfl

/-- The count after digits, with the count that stood before them. -/
def pushDigits (count? : Option Nat) (digits : Text) : Option Nat :=
  digits.foldl (fun n? c => some (pushDigit (n?.getD 0) (c.toNat - '0'.toNat))) count?

/-- Where no count stood before they make one of their own. -/
theorem pushDigits_none (digits : Text) : pushDigits none digits = typedCount? digits := by
  have hfold (digits : Text) (n : Nat) : pushDigits (some n) digits =
      some (digits.foldl (fun n c => pushDigit n (c.toNat - '0'.toNat)) n) := by
    induction digits generalizing n with
    | nil => rfl
    | cons c digits ih => exact ih _
  cases digits with
  | nil => rfl
  | cons c digits => exact hfold digits _

/-- **The digits of a count** are typed first, wherever commands are typed; they are recorded. -/
theorem after_pushDigits (he : e.clampCursor = e) (hm : e.Commanding) (hk : e.continuation = none)
    (keys : List Key) {digits : Text} (hd : digits.all Char.isDigit = true)
    (hz : e.repeatCount.isSome = true ∨ digits.head? ≠ some '0') :
    e.after settings (digits.map Key.char ++ keys) =
      ({ e.captured (digits.map Key.char) with
        repeatCount := pushDigits e.repeatCount digits } : Editor).after settings keys := by
  induction digits generalizing e with
  | nil => exact congrArg (·.after settings keys) (captured_nil e).symm
  | cons c digits ih =>
    have hdigits : c.isDigit = true ∧ digits.all Char.isDigit = true := by simpa using hd
    let e₁ : Editor := (e.captured [.char c]).typeDigit (c.toNat - '0'.toNat)
    have hpress : (e.captured [.char c]).press settings (.char c) = .done e₁ :=
      press_digit (e := e.captured [.char c]) hm hk settings
        (countDigit?_of_isDigit hdigits.1 (hz.imp id (by simp)))
    have hclamped : e₁.clampCursor = e₁ := clampCursor_of_eq he rfl rfl rfl
    have hkeys := captured_append e [.char c] (digits.map Key.char)
    rw [List.singleton_append, ← List.map_cons] at hkeys
    rw [← hkeys, List.map_cons, List.cons_append, after_cons_of_captured hpress hclamped,
      ih hclamped hm hk hdigits.2 (.inl rfl)]
    rfl

theorem after_count (he : e.clampCursor = e) (hm : e.Commanding) (hk : e.continuation = none)
    (hrec : e.recording = none) (hn : e.repeatCount = none) {digits : Text}
    (hd : digits.all Char.isDigit = true) (hz : digits.head? ≠ some '0') (keys : List Key) :
    e.after settings (digits.map Key.char ++ keys) =
      ({ e with repeatCount := typedCount? digits } : Editor).after settings keys := by
  rw [after_pushDigits settings he hm hk keys hd (.inr hz), captured_of_none hrec, hn,
    pushDigits_none]

theorem press_operator (hm : e.mode = .normal) (hk : e.continuation = none) (op : Operator) :
    e.press settings (.char op.key) = .done (e.operatorKey op) := by
  have hcount : e.countDigit? (.char op.key) = none := by cases op <;> rfl
  have hnormal : e.normalChar op.key = e.operatorKey op := by cases op <;> rfl
  rw [press_normalChar hm hk settings hcount, hnormal]

/-- The key of an operator makes it pending, with none pending or another one. -/
theorem press_operator_pend (hm : e.mode = .normal) (hk : e.continuation = none) {op : Operator}
    (hop : e.operator ≠ some op) :
    e.press settings (.char op.key) = .done (e.pend op e.repeatCount none) := by
  rw [press_operator settings hm hk op]
  exact congrArg Outcome.done (if_neg hop)

theorem after_operator (he : e.clampCursor = e) (hm : e.mode = .normal) (hk : e.continuation = none)
    (hrec : e.recording = none) (hop : e.operator = none) (op : Operator) (keys : List Key) :
    e.after settings (.char op.key :: keys) =
      (e.pend op e.repeatCount none).after settings keys := by
  have hne : e.operator ≠ some op := by simp [hop]
  exact after_cons_of_press hrec (press_operator_pend settings hm hk hne)
    (clampCursor_pend he op _ _) keys

/-- **What is given to an operator is carried out**; its keys may be recorded. -/
theorem after_recorded_operand {op : Operator} (he : e.clampCursor = e) (hm : e.mode = .normal)
    (hk : e.continuation = none) (hop : e.operator = some op) {operand : Operand}
    (hz : operand = .motion .rowStart → e.repeatCount = none) :
    e.after settings (operand.keys op) =
      (operand.run settings (e.captured (operand.keys op))).clampCursor := by
  cases operand with
  | motion m =>
    exact after_recorded_keys m he (.inl hm) hk (fun h => hz (congrArg Operand.motion h)) settings
  | doubled =>
    let e₁ : Editor := e.captured [.char op.key]
    have hdoubled : e₁.operatorKey op = Operand.doubled.run settings e₁ := by
      unfold operatorKey
      exact if_pos hop
    have hpress : (e.capture (.char op.key)).press settings (.char op.key) =
        .done (Operand.doubled.run settings e₁) := by
      rw [capture_eq, press_operator settings (e := e₁) hm hk op, hdoubled]
    exact after_singleton_of_done hpress

theorem after_operand {op : Operator} (he : e.clampCursor = e) (hm : e.mode = .normal)
    (hk : e.continuation = none) (hrec : e.recording = none) (hop : e.operator = some op)
    {operand : Operand} (hz : operand ≠ .motion .rowStart) :
    e.after settings (operand.keys op) = (operand.run settings e).clampCursor := by
  rw [after_recorded_operand settings he hm hk hop fun h => absurd h hz, captured_of_none hrec]

theorem after_count_operand {op : Operator} (he : e.clampCursor = e) (hm : e.mode = .normal)
    (hk : e.continuation = none) (hrec : e.recording = none) (hop : e.operator = none)
    (hn : e.repeatCount = none) {digits : Text} (hd : digits.all Char.isDigit = true)
    (hz : digits.head? ≠ some '0') {operand : Operand} (hstart : operand ≠ .motion .rowStart) :
    e.after settings (digits.map Key.char ++ .char op.key :: operand.keys op) =
      (operand.run settings (e.pend op (typedCount? digits) none)).clampCursor := by
  let e₁ : Editor := { e with repeatCount := typedCount? digits }
  have hclamped₁ : e₁.clampCursor = e₁ := clampCursor_of_eq he rfl rfl rfl
  rw [after_count settings he (.inl hm) hk hrec hn hd hz]
  refine (after_operator settings hclamped₁ hm hk hrec hop op (operand.keys op)).trans ?_
  exact after_operand settings (e := e.pend op (typedCount? digits) none)
    (clampCursor_pend he op _ _) hm hk hrec rfl hstart

/-! ### Where the count stands -/

/-- **A count may stand before an operator or after it.** Wherever a run has led to, in normal mode,
with nothing half typed and no macro being recorded, a count before the operator counts as it does
before what the operator is given: all comes out the same, but for the counts that a jump to a mark
that is not set leaves pending. A motion to the row that a count names loses the count before the
operator, and goes where it goes without. -/
theorem count_before_operator {b : Buffer} (he : Reachable b e) (hm : e.mode = .normal)
    (hw : e.waiting = false) (hn : e.repeatCount = none) (hrec : e.recording = none)
    (digits : Text) (hd : digits.all Char.isDigit = true) (hz : digits.head? ≠ some '0')
    (op : Operator) {operand : Operand} (hstart : operand ≠ .motion .rowStart) :
    let count := digits.map Key.char
    let before := e.after settings (count ++ .char op.key :: operand.keys op)
    (operand.namesRow = false →
      before.dropCounts =
        (e.after settings (.char op.key :: (count ++ operand.keys op))).dropCounts) ∧
    (operand.namesRow = true →
      before = e.after settings (.char op.key :: operand.keys op)) := by
  intro count before
  have hclamped := he.clampCursor_eq
  have hk := continuation_of_not_waiting hw
  have hop := operator_of_not_waiting hw
  have hgiven (before? since? : Option Nat) :
      (e.pend op before? since?).after settings (operand.keys op) =
        (operand.run settings (e.pend op before? since?)).clampCursor :=
    after_operand settings (e := e.pend op before? since?) (clampCursor_pend hclamped op _ _) hm hk
      hrec rfl hstart
  have hbefore : before =
      (operand.run settings (e.pend op (typedCount? digits) none)).clampCursor :=
    after_count_operand settings hclamped hm hk hrec hop hn hd hz hstart
  have hafter (keys : List Key) : e.after settings (.char op.key :: keys) =
      (e.pend op none none).after settings keys := by
    rw [after_operator settings hclamped hm hk hrec hop op keys, hn]
  constructor
  · intro hrow
    have hsince : e.after settings (.char op.key :: (count ++ operand.keys op)) =
        (operand.run settings (e.pend op none (typedCount? digits))).clampCursor := by
      rw [hafter, ← hgiven]
      exact after_count settings (e := e.pend op none none)
        (clampCursor_pend hclamped op _ _) (.inl hm) hk hrec rfl hd hz _
    have hrun : (operand.run settings (e.pend op (typedCount? digits) none)).dropCounts =
        (operand.run settings (e.pend op none (typedCount? digits))).dropCounts := by
      rw [← dropCounts_run_counted settings _ hrow, counted_pend,
        dropCounts_run_counted settings _ hrow]
    rw [hbefore, hsince]
    exact congrArg clampCursor hrun
  · intro hrow
    rw [hbefore, hafter, hgiven, run_pend_of_namesRow settings e hrow]

/-- A change up to the second match of a query, and a deletion to the last row. -/
theorem count_before_operator_search :
    ∃ e : Editor, Reachable ⟨['a', 'b', '\n', 'c', 'b']⟩ e ∧ e.mode = .normal ∧
      e.waiting = false ∧ e.repeatCount = none ∧ e.recording = none ∧
      let toMatch : Operand := .motion (.search .forward (.ofText ['b']))
      let toRow : Operand := .motion .bottom
      (e.after {} (.char '2' :: .char 'c' :: toMatch.keys .change)).buffer = ⟨['b']⟩ ∧
        (e.after {} (.char '2' :: .char 'c' :: toMatch.keys .change)).dropCounts =
          (e.after {} (.char 'c' :: .char '2' :: toMatch.keys .change)).dropCounts ∧
        e.after {} (.char '2' :: .char 'd' :: toRow.keys .delete) =
          e.after {} (.char 'd' :: toRow.keys .delete) := by
  have he : Reachable ⟨['a', 'b', '\n', 'c', 'b']⟩ _ := .first {} [.char 'l', .char 'h']
  obtain ⟨hm, hw, hn, hrec, hbuffer⟩ :
      let e := ofResult (interpret {} ⟨['a', 'b', '\n', 'c', 'b']⟩ none [.char 'l', .char 'h'])
      let toMatch : Operand := .motion (.search .forward (.ofText ['b']))
      e.mode = .normal ∧ e.waiting = false ∧ e.repeatCount = none ∧ e.recording = none ∧
        (e.after {} (.char '2' :: .char 'c' :: toMatch.keys .change)).buffer = ⟨['b']⟩ := by
    decide +kernel
  have hgiven (op : Operator) {operand : Operand} (hstart : operand ≠ .motion .rowStart) :=
    count_before_operator {} he hm hw hn hrec ['2'] (by decide) (by decide) op hstart
  exact ⟨_, he, hm, hw, hn, hrec, hbuffer, (hgiven .change (by simp)).1 rfl,
    (hgiven .delete (by simp)).2 rfl⟩

/-- Before the operator, the count of a deletion to the second of three rows is lost, and all rows are
deleted. -/
theorem count_before_bottom_lost :
    ∃ e : Editor, Reachable ⟨['a', '\n', 'b', '\n', 'c']⟩ e ∧ e.mode = .normal ∧
      e.waiting = false ∧ e.repeatCount = none ∧ e.recording = none ∧
        (e.after {} [.char '2', .char 'd', .char 'G']).buffer = ⟨[]⟩ ∧
        (e.after {} [.char 'd', .char '2', .char 'G']).buffer = ⟨['c']⟩ := by
  have he : Reachable ⟨['a', '\n', 'b', '\n', 'c']⟩ _ := .first {} []
  exact ⟨_, he, by decide +kernel⟩

end Editor

end ModalEditor
