import ModalEditor.Proofs.TypedOperators

/-!
# The text that operators take

A yank, a delete and a change that are given the same motion take the same text: the span that a
motion makes with the cursor depends on the text, the cursor and the modifier alone
(`spanTo_congr`), and the target of a motion on the operator only where it is a word without a
modifier (`target?_of_operator`). So each of three runs is compared with the one span, and none with
another (`taken_after_motion`).
-/

namespace ModalEditor

namespace Editor

variable {e e' : Editor} {t : Text}

/-! ### Registers that get a text -/

/-- **The registers hold a text** that was taken: the unnamed one, the newest of the ring, and the
one that was chosen for it, if that is a lower-case letter. -/
structure RegistersHold (chosen : Option Char) (t : Text) (e : Editor) : Prop where
  /-- The unnamed one. -/
  unnamed : e.registers.read unnamedRegister = t
  /-- The newest of the ring. -/
  newest : e.registers.read '0' = t
  /-- The chosen one. -/
  chosen : ∀ name ∈ chosen, name.isLower = true → e.registers.read name = t

theorem RegistersHold.recordTaken (e : Editor) (t : Text) :
    RegistersHold e.selected t (e.recordTaken t) := by
  refine ⟨?_, ?_, ?_⟩
  · exact read_recordTaken e t (by decide) (by simp [RegisterFile.record, unnamedRegister])
  · exact read_recordTaken e t (by decide) (by simp [RegisterFile.record])
  · intro name hname hlower
    have hselected : e.selected = some name := hname
    simp [Editor.recordTaken, hselected, isUpper_of_isLower hlower]

/-- What a change forgets is in none of these registers. -/
theorem RegistersHold.clear {chosen : Option Char} (h : RegistersHold chosen t e) :
    RegistersHold chosen t { e with registers := e.registers.clear lastInsertRegister } := by
  have hread {c : Char} (hc : lastInsertRegister.toLower ≠ c.toLower) :
      (e.registers.clear lastInsertRegister).read c = e.registers.read c := by
    rw [RegisterFile.read_clear, if_neg hc]
  refine ⟨(hread (by decide)).trans h.unnamed, (hread (by decide)).trans h.newest, ?_⟩
  intro name hname hlower
  refine (hread ?_).trans (h.chosen name hname hlower)
  rw [toLower_of_not_isUpper (isUpper_of_isLower hlower)]
  rintro rfl
  exact absurd hlower (by decide)

theorem RegistersHold.of_registers {op : Operator} (h : e'.registers = e.registersAfter op t) :
    RegistersHold e.selected t e' := by
  have hrecord := RegistersHold.recordTaken e t
  have hsame {e₁ : Editor} (h₁ : RegistersHold e.selected t e₁)
      (hregisters : e'.registers = e₁.registers) : RegistersHold e.selected t e' :=
    ⟨hregisters ▸ h₁.unnamed, hregisters ▸ h₁.newest, hregisters ▸ h₁.chosen⟩
  cases op with
  | delete | yank => exact hsame hrecord h
  | change => exact hsame hrecord.clear h

/-! ### Targets under an operator -/

/-- **Where a motion leads does not depend on the operator**, but that a change without a modifier
has words of its own. -/
theorem target?_of_operator (m : Motion) (settings : Settings) (e : Editor) {op op' : Operator}
    (hword : ∀ kind, m = .word kind → e.modifier = none → op ≠ .change ∧ op' ≠ .change) :
    m.target? settings { e with operator := some op } =
      m.target? settings { e with operator := some op' } := by
  cases m with
  | word kind =>
    simp only [Motion.target?, wordTarget, Option.some.injEq]
    cases hmod : e.modifier with
    | some modifier => rfl
    | none =>
      obtain ⟨hop, hop'⟩ := hword kind rfl hmod
      simp only [if_neg hop, if_neg hop']
      rfl
  | _ => rfl

/-! ### Three runs -/

/-- **What one operator does with the text** that a motion leads over. -/
theorem taken_after_motion {b : Buffer} (he : Reachable b e) (hm : e.mode = .normal)
    (hw : e.waiting = false) (hn : e.repeatCount = none) (hrec : e.recording = none)
    (settings : Settings) (h : OperatorHead) (op : Operator) {m : Motion}
    (hz : m = .rowStart → h.since ++ h.late = []) {offset : Nat} {inclusive : Bool}
    (htarget : m.target? settings (h.typed op e) = some (.char offset inclusive)) :
    let s := ({ e with modifier := m.keeps h.modifier } : Editor).spanTo offset inclusive
    let e' := e.after settings (h.keys op ++ m.keys)
    e'.buffer = op.leaves e.buffer s ∧
      RegistersHold (h.register.or e.selected) (e.buffer.slice s) e' := by
  intro s e'
  obtain ⟨e₁, hr, hspan, hafter⟩ :=
    exists_after_operator_char settings he hm hw hn hrec h op hz htarget
  have hop : e₁.dropCounts.operator = some op := congrArg (·.operator) hr.control
  have hbuffer : e₁.buffer = e.buffer := hr.buffer
  have hselected : e₁.selected = h.register.or e.selected := hr.selected
  have hs : e₁.spanTo offset inclusive = s := hspan
  have he' : e' = _ := hafter
  rw [he', ← hbuffer, ← hselected, ← hs]
  refine ⟨leaves_applyRange hop _ _, ?_⟩
  exact .of_registers (e := e₁.dropCounts) (registers_applyRange hop _ _)

/-- **The operators agree on their text.** Wherever a run has led to, in normal mode, with nothing
half typed and no macro being recorded: let a motion be typed that leads to a character under a
yank, with counts, a modifier and the choice of a register before it or without. Then the text of the
buffer is a sequence of three parts. Yank and delete, given the motion, record the part in the
middle; the yank leaves the text alone, and the delete leaves the two others. The same is true of a
change, unless the motion is to a word without a modifier. -/
theorem operators_take_same_text {b : Buffer} (he : Reachable b e) (hm : e.mode = .normal)
    (hw : e.waiting = false) (hn : e.repeatCount = none) (hrec : e.recording = none)
    (settings : Settings) (h : OperatorHead) {m : Motion}
    (hz : m = .rowStart → h.since ++ h.late = []) {offset : Nat} {inclusive : Bool}
    (htarget : m.target? settings (h.typed .yank e) = some (.char offset inclusive)) :
    let after (op : Operator) := e.after settings (h.keys op ++ m.keys)
    let chosen := h.register.or e.selected
    ∃ p t s, e.buffer.text = p ++ t ++ s ∧
      (after .yank).buffer = e.buffer ∧ RegistersHold chosen t (after .yank) ∧
      (after .delete).buffer = ⟨p ++ s⟩ ∧ RegistersHold chosen t (after .delete) ∧
      ((∀ kind, m = .word kind → h.modifier ≠ none) →
        (after .change).buffer = ⟨p ++ s⟩ ∧ RegistersHold chosen t (after .change)) := by
  intro after chosen
  let s := ({ e with modifier := m.keeps h.modifier } : Editor).spanTo offset inclusive
  have hle : s.start ≤ s.stop := rangeSpan_start_le _ _ _
  have htext := (e.buffer.take_append_slice hle).symm
  have hremove : e.buffer.remove s = ⟨e.buffer.text.take s.start ++ e.buffer.text.drop s.stop⟩ := by
    rw [Buffer.remove, Nat.max_eq_right hle]
  have htaken (op : Operator)
      (hword : ∀ kind, m = .word kind → h.modifier = none → op ≠ .change) :
      (after op).buffer = op.leaves e.buffer s ∧
        RegistersHold chosen (e.buffer.slice s) (after op) := by
    refine taken_after_motion he hm hw hn hrec settings h op hz ?_
    rw [← htarget]
    exact target?_of_operator m settings (h.typed .yank e) fun kind hkind hmod =>
      ⟨hword kind hkind hmod, by decide⟩
  obtain ⟨hyank, hyanked⟩ := htaken .yank fun _ _ _ => by decide
  obtain ⟨hdelete, hdeleted⟩ := htaken .delete fun _ _ _ => by decide
  refine ⟨_, _, _, htext, hyank, hyanked, hdelete.trans hremove, hdeleted, fun hword => ?_⟩
  obtain ⟨hchange, hchanged⟩ := htaken .change fun kind hkind hmod => absurd hmod (hword kind hkind)
  exact ⟨hchange.trans hremove, hchanged⟩

/-- The second match of a query back from the cursor, to which the search goes round: the three
operators take what stands before it, over the end of a row, and register `r` gets it. -/
theorem operators_take_same_text_wrapped :
    let h : OperatorHead := { register := some 'r', since := ['2'] }
    let m : Motion := .search .backward (.ofText ['e'])
    let t : Text := ['b', ' ', 'c', '\n']
    ∃ e : Editor, Reachable ⟨['a', 'b', ' ', 'c', '\n', 'e', 'f', 'e']⟩ e ∧ e.cursor = ⟨0, 1⟩ ∧
      (e.after {} (h.keys .yank ++ m.keys)).buffer = e.buffer ∧
      (e.after {} (h.keys .delete ++ m.keys)).buffer = ⟨['a', 'e', 'f', 'e']⟩ ∧
      (e.after {} (h.keys .change ++ m.keys)).buffer = ⟨['a', 'e', 'f', 'e']⟩ ∧
      ∀ op, RegistersHold (some 'r') t (e.after {} (h.keys op ++ m.keys)) := by
  intro h m t
  let e : Editor :=
    ofResult (interpret {} ⟨['a', 'b', ' ', 'c', '\n', 'e', 'f', 'e']⟩ none [.char 'l'])
  have he : Reachable ⟨['a', 'b', ' ', 'c', '\n', 'e', 'f', 'e']⟩ e := .first {} [.char 'l']
  have htarget : m.target? {} (h.typed .yank e) = some (.char 5 false) := by decide +kernel
  obtain ⟨p, t', s, -, hyank, hyanked, hdelete, hdeleted, hword⟩ :=
    operators_take_same_text he (by decide +kernel) (by decide +kernel) (by decide +kernel)
      (by decide +kernel) {} h (by simp [m]) htarget
  obtain ⟨hchange, hchanged⟩ := hword (by simp [m])
  have hread : (e.after {} (h.keys .delete ++ m.keys)).registers.read unnamedRegister = t := by
    decide +kernel
  have hbuffer : (e.after {} (h.keys .delete ++ m.keys)).buffer = ⟨['a', 'e', 'f', 'e']⟩ := by
    decide +kernel
  obtain rfl : t' = t := hdeleted.unnamed.symm.trans hread
  refine ⟨e, he, by decide +kernel, hyank, hbuffer, hchange.trans (hdelete.symm.trans hbuffer), ?_⟩
  rintro (_ | _ | _)
  · exact hdeleted
  · exact hchanged
  · exact hyanked

end Editor

end ModalEditor
