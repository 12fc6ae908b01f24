import ModalEditor.Proofs.PendingOperator
import ModalEditor.Proofs.Selections

/-!
# Typed operators

Before an operator a register may be chosen, and counts and a modifier may stand around it. All this
(`OperatorHead`) comes down to one editor in which the operator is pending (`after_head`). A motion
that is given to it there reaches its target with what was pending (`exists_run_eq_reach`), and
where the target is a character, the operator is applied to one span (`spanTo`), whichever operator
it is. The registers are those of before, with the keys that are recorded (`captured`) and the query
of a search (`Motion.noted`).
-/

namespace ModalEditor

/-- The modifier that is left once a motion has been begun: a jump and a search drop it. -/
def Motion.keeps (m : Motion) (modifier? : Option Modifier) : Option Modifier :=
  match m with
  | jump _ | search _ _ => none
  | _ => modifier?

/-- The registers once the motion has been typed: a search keeps its query there. -/
def Motion.noted (m : Motion) (r : RegisterFile) : RegisterFile :=
  match m with
  | search _ q => r.note q.text
  | _ => r

/-- **What an operator leaves of a text** when it takes a span: a yank all of it, the others what is
not in the span. -/
def Operator.leaves (op : Operator) (b : Buffer) (s : Span) : Buffer :=
  match op with
  | yank => b
  | delete | change => b.remove s

/-! ### What is typed before -/

/-- The key of a modifier. -/
def Modifier.key : Modifier → Char
  | inside => 'i'
  | around => 'a'

/-- **What is typed before that which is given to an operator**: the choice of a register, with
digits before and after it, then the key of the operator, then a modifier, with digits before and
after it. All but the key of the operator may be left out. -/
structure OperatorHead where
  /-- Digits in front of all. -/
  early : Text := []
  /-- The register that is chosen. -/
  register : Option Char := none
  /-- Digits in front of the operator. -/
  before : Text := []
  /-- Digits after the operator. -/
  since : Text := []
  /-- The modifier. -/
  modifier : Option Modifier := none
  /-- Digits after the modifier. -/
  late : Text := []
  /-- They are digits. -/
  digits_before : (early ++ before).all Char.isDigit = true := by decide
  /-- These too. -/
  digits_since : (since ++ late).all Char.isDigit = true := by decide
  /-- Zero does not begin a count. -/
  head_before : (early ++ before).head? ≠ some '0' := by decide
  /-- Neither does it after the operator. -/
  head_since : (since ++ late).head? ≠ some '0' := by decide

namespace OperatorHead

variable (h : OperatorHead)

/-- The keys that choose the register. -/
def registerKeys : List Key := h.register.elim [] fun name => [.char '"', .char name]

/-- The key of the modifier. -/
def modifierKeys : List Key := h.modifier.elim [] fun m => [.char m.key]

/-- The keys. -/
def keys (op : Operator) : List Key :=
  h.early.map Key.char ++ (h.registerKeys ++ (h.before.map Key.char ++ (.char op.key ::
    (h.since.map Key.char ++ (h.modifierKeys ++ h.late.map Key.char)))))

/-- **The operator is pending**, with all that was typed around it. -/
def typed (op : Operator) (e : Editor) : Editor :=
  { e with
    selected := h.register.or e.selected
    operator := some op
    modifier := h.modifier
    operatorCount := Editor.typedCount? (h.early ++ h.before)
    repeatCount := Editor.typedCount? (h.since ++ h.late) }

end OperatorHead

namespace Editor

variable {e : Editor}

theorem pushDigits_append (count? : Option Nat) (s t : Text) :
    pushDigits count? (s ++ t) = pushDigits (pushDigits count? s) t := List.foldl_append

theorem head?_ne_of_append {s t : Text} {c : Char} (h : (s ++ t).head? ≠ some c) :
    s.head? ≠ some c := by
  cases s with
  | nil => simp
  | cons d s => exact h

/-- After the first digits of a count zero is a digit like any other. -/
theorem isSome_pushDigits_or {s t : Text} (h : (s ++ t).head? ≠ some '0') :
    (pushDigits none s).isSome = true ∨ t.head? ≠ some '0' := by
  cases s with
  | nil => exact .inr h
  | cons c s =>
    rw [pushDigits_none]
    exact .inl rfl

/-! ### The keys -/

section Keys

variable (he : e.clampCursor = e) (hm : e.mode = .normal) (hk : e.continuation = none)
  (settings : Settings) (keys : List Key)

include he hm hk

theorem after_registerKeys (hop : e.operator = none) (h : OperatorHead) :
    e.after settings (h.registerKeys ++ keys) =
      ({ e.captured h.registerKeys with
        selected := h.register.or e.selected } : Editor).after settings keys := by
  unfold OperatorHead.registerKeys
  cases h.register with
  | none => exact congrArg (·.after settings keys) (captured_nil e).symm
  | some name =>
    let e₁ : Editor := (e.captured [.char '"']).awaitKey .setRegister
    let e₂ : Editor := { e.captured [.char '"', .char name] with selected := some name }
    have hfirst : (e.captured [.char '"']).press settings (.char '"') = .done e₁ :=
      press_command (e := e.captured [.char '"']) hm hk hop settings (c := '"') rfl rfl rfl
        (by decide)
    have hsecond : (e₁.captured [.char name]).press settings (.char name) = .done e₂ := by
      rw [press_continueWith rfl (by decide)]
      have hkeys := captured_append e [.char '"'] [.char name]
      refine congrArg Outcome.done ?_
      show ({ (e.captured [.char '"']).captured [.char name] with
        selected := some name, continuation := none } : Editor) = e₂
      rw [hkeys]
      exact continued_of_none (e := e₂) hk
    have hclamped : e₁.clampCursor = e₁ := clampCursor_of_eq he rfl rfl rfl
    rw [Option.elim_some, List.cons_append, List.singleton_append,
      after_cons_of_captured hfirst hclamped,
      after_cons_of_captured hsecond (clampCursor_of_eq he rfl rfl rfl)]
    rfl

theorem after_operatorKey {op : Operator} (hop : e.operator ≠ some op) :
    e.after settings (.char op.key :: keys) =
      ((e.captured [.char op.key]).pend op e.repeatCount none).after settings keys := by
  let e₁ : Editor := e.captured [.char op.key]
  have hclamped : e₁.clampCursor = e₁ := clampCursor_of_eq he rfl rfl rfl
  have hpress : e₁.press settings (.char op.key) = .done (e₁.pend op e.repeatCount none) :=
    press_operator_pend settings (e := e₁) hm hk hop
  exact after_cons_of_captured hpress (clampCursor_pend hclamped op _ _) keys

theorem after_modifierKeys (hop : e.operator.isSome = true) (hmod : e.modifier = none)
    (h : OperatorHead) :
    e.after settings (h.modifierKeys ++ keys) =
      ({ e.captured h.modifierKeys with modifier := h.modifier } : Editor).after settings keys := by
  unfold OperatorHead.modifierKeys
  cases h.modifier with
  | none =>
    rw [Option.elim_none, captured_nil, List.nil_append, ← hmod]
  | some m =>
    let e₁ : Editor := { e.captured [.char m.key] with modifier := some m }
    have hnormal : (e.captured [.char m.key]).normalChar m.key = e₁ := by
      cases m <;> exact (if_pos ⟨rfl, hop⟩)
    have hcount : (e.captured [.char m.key]).countDigit? (.char m.key) = none := by
      cases m <;> rfl
    have hpress : (e.captured [.char m.key]).press settings (.char m.key) = .done e₁ := by
      rw [press_normalChar (e := e.captured _) hm hk settings hcount, hnormal]
    exact after_cons_of_captured hpress (clampCursor_of_eq he rfl rfl rfl) keys

end Keys

variable (settings : Settings)

/-- **All that is typed before comes down to one editor** in which the operator is pending, with the
keys recorded. -/
theorem after_head (he : e.clampCursor = e) (hm : e.mode = .normal) (hk : e.continuation = none)
    (hop : e.operator = none) (hn : e.repeatCount = none) (h : OperatorHead) (op : Operator)
    (keys : List Key) :
    e.after settings (h.keys op ++ keys) =
      (h.typed op (e.captured (h.keys op))).after settings keys := by
  have hc {e' : Editor} (hbuffer : e'.buffer = e.buffer) (hmode : e'.mode = e.mode)
      (hcursor : e'.cursor = e.cursor) : e'.clampCursor = e' :=
    clampCursor_of_eq he hbuffer hmode hcursor
  have hbefore := h.digits_before
  have hsince := h.digits_since
  rw [List.all_append, Bool.and_eq_true] at hbefore hsince
  have hzero := head?_ne_of_append h.head_before
  have hzero' := head?_ne_of_append h.head_since
  let e₁ : Editor :=
    { e.captured (h.early.map Key.char) with repeatCount := pushDigits e.repeatCount h.early }
  let e₂ : Editor := { e₁.captured h.registerKeys with selected := h.register.or e.selected }
  let e₃ : Editor :=
    { e₂.captured (h.before.map Key.char) with repeatCount := pushDigits e₁.repeatCount h.before }
  let e₄ : Editor := (e₃.captured [.char op.key]).pend op e₃.repeatCount none
  let e₅ : Editor :=
    { e₄.captured (h.since.map Key.char) with repeatCount := pushDigits none h.since }
  let e₆ : Editor := { e₅.captured h.modifierKeys with modifier := h.modifier }
  let e₇ : Editor :=
    { e₆.captured (h.late.map Key.char) with repeatCount := pushDigits e₅.repeatCount h.late }
  have htyped : e₇ = h.typed op (e.captured (h.keys op)) := by
    simp only [e₇, e₆, e₅, e₄, e₃, e₂, e₁, pend, OperatorHead.typed, hn, ← pushDigits_none,
      pushDigits_append, captured, RegisterFile.captureAll_append, OperatorHead.keys,
      List.append_assoc, List.cons_append, List.nil_append]
  rw [← htyped]
  unfold OperatorHead.keys
  simp only [List.append_assoc, List.cons_append]
  refine (after_pushDigits settings he (.inl hm) hk _ hbefore.1 (.inr hzero)).trans ?_
  refine (after_registerKeys (e := e₁) (hc rfl rfl rfl) hm hk settings _ hop h).trans ?_
  refine (after_pushDigits settings (e := e₂) (hc rfl rfl rfl) (.inl hm) hk _ hbefore.2 ?_).trans ?_
  · show (pushDigits e.repeatCount h.early).isSome = true ∨ _
    rw [hn]
    exact isSome_pushDigits_or h.head_before
  have hne : e.operator ≠ some op := by simp [hop]
  refine (after_operatorKey (e := e₃) (hc rfl rfl rfl) hm hk settings _ hne).trans ?_
  refine (after_pushDigits settings (e := e₄) (hc rfl rfl rfl) (.inl hm) hk _ hsince.1
    (.inr hzero')).trans ?_
  refine (after_modifierKeys (e := e₅) (hc rfl rfl rfl) hm hk settings _ rfl rfl h).trans ?_
  exact after_pushDigits settings (e := e₆) (hc rfl rfl rfl) (.inl hm) hk _ hsince.2
    (isSome_pushDigits_or h.head_since)

/-! ### The span that is taken -/

theorem rangeSpan_start_le (e : Editor) (source target : Nat) :
    (e.rangeSpan source target).start ≤ (e.rangeSpan source target).stop := by
  have hordered : (Span.ordered source target).start ≤ (Span.ordered source target).stop := by
    rw [Span.ordered_start, Span.ordered_stop]
    omega
  unfold rangeSpan
  dsimp only
  split
  · show (Span.ordered source target).start - _ ≤ (Span.ordered source target).stop + _
    omega
  · exact hordered

theorem leaves_applyRange {op : Operator} (hop : e.operator = some op) (source target : Nat) :
    (e.applyRange source target).buffer = op.leaves e.buffer (e.rangeSpan source target) := by
  rw [buffer_applyRange, hop]
  cases op <;> rfl

/-- Where an operator stops that is given a character: behind it, if the target is inclusive and not
behind the cursor. -/
def stopAt (e : Editor) (offset : Nat) (inclusive : Bool) : Nat :=
  if inclusive && decide (e.cursorOffset ≤ offset) then min (offset + 1) e.buffer.length else offset

/-- **The span that an operator takes** when it is given a character. -/
def spanTo (e : Editor) (offset : Nat) (inclusive : Bool) : Span :=
  e.rangeSpan e.cursorOffset (e.stopAt offset inclusive)

theorem spanTo_congr {e' : Editor} (hbuffer : e'.buffer = e.buffer) (hcursor : e'.cursor = e.cursor)
    (hmodifier : e'.modifier = e.modifier) (offset : Nat) (inclusive : Bool) :
    e'.spanTo offset inclusive = e.spanTo offset inclusive := by
  unfold spanTo stopAt rangeSpan cursorOffset
  rw [hbuffer, hcursor, hmodifier]

theorem reach_char_of_operator {op : Operator} (hop : e.operator = some op) (offset : Nat)
    (inclusive : Bool) :
    e.reach (.char offset inclusive) =
      e.dropCounts.applyRange e.cursorOffset (e.stopAt offset inclusive) := by
  have hsome : e.dropCounts.operator.isSome = true := congrArg Option.isSome hop
  unfold reach
  dsimp only
  rw [hsome, Bool.true_and]
  rfl

theorem reach_line_of_operator {op : Operator} (hop : e.operator = some op) (row offset : Nat) :
    e.reach (.line row offset) =
      e.dropCounts.applyRows (min e.cursor.row row) (max e.cursor.row row) := by
  have hsome : e.dropCounts.operator.isSome = true := congrArg Option.isSome hop
  unfold reach
  exact if_pos hsome

/-! ### Motions that are given to an operator -/

/-- What a motion has begun, with nothing of it half typed, differs in no more than the modifier,
which some motions drop, and the register of a query. -/
theorem reminded_begin (m : Motion) (ho : e.control.Orderly) (hm : e.mode = .normal)
    (hk : e.continuation = none) :
    Reminded { e with modifier := m.keeps e.modifier, registers := m.noted e.registers }
      (m.begin e).concluded := by
  let e₁ : Editor := { e with modifier := m.keeps e.modifier, registers := m.noted e.registers }
  have hplain (hne : (m.begin e).mode ≠ .search)
      (hsame : ({ m.begin e with continuation := none } : Editor) =
        { e₁ with continuation := none }) :
      Reminded e₁ (m.begin e).concluded := by
    rw [concluded_of_ne_search hne, hsame, continued_of_none (e := e₁) hk]
    exact .refl e₁
  have hne : e.mode ≠ .search := by simp [hm]
  cases m with
  | search d q =>
    have hquery : e.searchQuery = {} := ho.searchQuery hne
    have hconcluded := concluded_of_search (e := (Motion.search d q).begin e) rfl
    rw [hconcluded]
    refine ⟨⟨rfl, rfl, rfl, ?_, rfl⟩, rfl, rfl, rfl, rfl, rfl⟩
    simp only [control, Motion.begin, startSearch, Motion.keeps, hm, hk, hquery]
  | _ => exact hplain hne rfl

/-- **A motion reaches its target with what was pending**, or gives it up if there is none; at a mark
that is not set nothing happens. -/
theorem exists_run_eq_reachOr (m : Motion) (ho : e.control.Orderly) (hm : e.mode = .normal)
    (hk : e.continuation = none) (hz : m = .rowStart → e.repeatCount = none) :
    (∃ e₁,
      Reminded { e with modifier := m.keeps e.modifier, registers := m.noted e.registers } e₁ ∧
        m.run settings e = e₁.reachOr (m.target? settings e)) ∨
      ∃ name, m = .mark name ∧ e.marks.get? name = none ∧ m.run settings e = e := by
  rcases settles_run m settings (.inl hm) hk hz with hs | hunset
  · generalize m.run settings e = e' at hs
    obtain ⟨hr⟩ := hs
    exact .inl ⟨_, (reminded_begin m ho hm hk).trans hr, rfl⟩
  · exact .inr hunset

theorem exists_run_eq_reach (m : Motion) (ho : e.control.Orderly) (hm : e.mode = .normal)
    (hk : e.continuation = none) (hz : m = .rowStart → e.repeatCount = none) {target : Target}
    (htarget : m.target? settings e = some target) :
    ∃ e₁, Reminded { e with modifier := m.keeps e.modifier, registers := m.noted e.registers } e₁ ∧
      m.run settings e = e₁.reach target := by
  rcases exists_run_eq_reachOr settings m ho hm hk hz with ⟨e₁, hr, hrun⟩ | ⟨name, rfl, hmark, -⟩
  · rw [htarget] at hrun
    exact ⟨e₁, hr, hrun⟩
  · simp [Motion.target?, hmark] at htarget

/-- The count since the operator is typed in digits, so zero is a motion only without one. -/
theorem repeatCount_typed {h : OperatorHead} {m : Motion}
    (hz : m = .rowStart → h.since ++ h.late = []) (op : Operator) (e : Editor) :
    m = .rowStart → (h.typed op e).repeatCount = none := by
  intro hrow
  show typedCount? (h.since ++ h.late) = none
  rw [hz hrow]
  rfl

/-- **A motion that is given to an operator, typed to its end.** The keys may be recorded: they are
before it is carried out. -/
theorem after_operator_motion (he : e.clampCursor = e) (hm : e.mode = .normal)
    (hw : e.waiting = false) (hn : e.repeatCount = none) (h : OperatorHead) (op : Operator)
    {m : Motion} (hz : m = .rowStart → h.since ++ h.late = []) :
    let keys := h.keys op ++ m.keys
    e.after settings keys = (m.run settings (h.typed op (e.captured keys))).clampCursor := by
  intro keys
  have hk := continuation_of_not_waiting hw
  let e₁ : Editor := h.typed op (e.captured (h.keys op))
  have hclamped : e₁.clampCursor = e₁ := clampCursor_of_eq he rfl rfl rfl
  have hcaptured : e₁.captured m.keys = h.typed op (e.captured keys) :=
    congrArg (h.typed op) (captured_append e (h.keys op) m.keys)
  rw [after_head settings he hm hk (operator_of_not_waiting hw) hn,
    after_recorded_keys m hclamped (.inl hm) hk (repeatCount_typed hz op _) settings, hcaptured]

/-- The keys may be recorded before an operator, with nothing out of order. -/
theorem orderly_typed {b : Buffer} (he : Reachable b e) (hm : e.mode = .normal)
    (hw : e.waiting = false) (hn : e.repeatCount = none) (h : OperatorHead) (op : Operator)
    (keys : List Key) : (h.typed op (e.captured keys)).control.Orderly := by
  have hnext := (he.next {} (h.keys op ++ [])).traceable.orderly
  rw [after_head {} he.clampCursor_eq hm (continuation_of_not_waiting hw)
    (operator_of_not_waiting hw) hn] at hnext
  exact hnext

theorem exists_after_operator_motion {b : Buffer} (he : Reachable b e) (hm : e.mode = .normal)
    (hw : e.waiting = false) (hn : e.repeatCount = none) (hrec : e.recording = none)
    (h : OperatorHead) (op : Operator) {m : Motion} (hz : m = .rowStart → h.since ++ h.late = [])
    {target : Target} (htarget : m.target? settings (h.typed op e) = some target) :
    ∃ e₁,
      Reminded
        { h.typed op e with modifier := m.keeps h.modifier, registers := m.noted e.registers } e₁ ∧
      e.after settings (h.keys op ++ m.keys) = (e₁.reach target).clampCursor := by
  have hk := continuation_of_not_waiting hw
  have ho := orderly_typed he hm hw hn h op []
  rw [captured_nil] at ho
  obtain ⟨e₁, hr, hrun⟩ := exists_run_eq_reach settings m (e := h.typed op e) ho hm hk
    (repeatCount_typed hz op e) htarget
  refine ⟨e₁, hr, ?_⟩
  have hafter := after_operator_motion settings he.clampCursor_eq hm hw hn h op hz
  dsimp only at hafter
  rw [hafter, captured_of_none hrec, hrun]

/-- Where the motion leads to a character, the operator takes the span up to it. -/
theorem exists_after_operator_char {b : Buffer} (he : Reachable b e) (hm : e.mode = .normal)
    (hw : e.waiting = false) (hn : e.repeatCount = none) (hrec : e.recording = none)
    (h : OperatorHead) (op : Operator) {m : Motion} (hz : m = .rowStart → h.since ++ h.late = [])
    {offset : Nat} {inclusive : Bool}
    (htarget : m.target? settings (h.typed op e) = some (.char offset inclusive)) :
    ∃ e₁,
      Reminded
        { h.typed op e with modifier := m.keeps h.modifier, registers := m.noted e.registers } e₁ ∧
      e₁.spanTo offset inclusive =
        ({ e with modifier := m.keeps h.modifier } : Editor).spanTo offset inclusive ∧
      e.after settings (h.keys op ++ m.keys) =
        (e₁.dropCounts.applyRange e₁.cursorOffset (e₁.stopAt offset inclusive)).clampCursor := by
  obtain ⟨e₁, hr, hafter⟩ :=
    exists_after_operator_motion settings he hm hw hn hrec h op hz htarget
  have hop : e₁.operator = some op := congrArg (·.operator) hr.control
  have hmodifier : e₁.modifier = m.keeps h.modifier := congrArg (·.modifier) hr.control
  rw [reach_char_of_operator hop] at hafter
  exact ⟨e₁, hr, spanTo_congr hr.buffer hr.cursor hmodifier _ _, hafter⟩

theorem after_word (he : e.clampCursor = e) (hm : e.mode = .normal) (hw : e.waiting = false)
    (hn : e.repeatCount = none) (h : OperatorHead) (op : Operator) (kind : WordKind) :
    let keys := h.keys op ++ (Motion.word kind).keys
    let e₁ := h.typed op (e.captured keys)
    e.after settings keys = (e₁.reach (e₁.wordTarget kind)).clampCursor := by
  intro keys e₁
  have hk := continuation_of_not_waiting hw
  have hrun : (Motion.word kind).run settings e₁ =
      (Motion.word kind).finish settings { e₁ with continuation := none } := rfl
  rw [after_operator_motion settings he hm hw hn h op (by simp), hrun, continued_of_none (e := e₁) hk]
  rfl

end Editor

end ModalEditor
