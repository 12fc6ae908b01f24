import ModalEditor.Proofs.Checkpoints
import ModalEditor.Proofs.Places
import ModalEditor.Proofs.RegisterRing
import ModalEditor.Proofs.TypedOperators

/-!
# Operators on nothing

An operator that is given a motion may get nothing to take: the motion leads nowhere, or it leads to
where the cursor is. The text and the cursor stay in both cases. In the first case so do the
registers and the history. In the second the empty text is recorded like any other and a checkpoint
is taken, so that they stay as they are only if the registers hold nothing but empty texts where it
goes, and the newest checkpoint is of this state already (`nothing_taken_iff`). What the registers
are where recording changes nothing is told by going up the ring (`recordTaken_nil_eq_iff`).
-/

namespace ModalEditor

theorem History.checkpoint_eq_self_iff {σ : Type} [DecidableEq σ] (h : History σ)
    (c : Checkpoint σ) : h.checkpoint c = h ↔ h.newest? = some c := by
  constructor
  · intro hsame
    rw [← hsame]
    exact newest?_checkpoint h c
  · exact checkpoint_of_newest

/-! ### The empty text is recorded -/

/-- **The registers hold nothing** where an empty text goes: it stands in the unnamed register and in
every slot of the ring already, and in the chosen register; there anything may stand if the name is
a capital letter, which adds. -/
structure RegisterFile.HoldsNothing (r : RegisterFile) (chosen : Option Char) : Prop where
  /-- The unnamed register. -/
  unnamed : r.slots.get? unnamedRegister = some []
  /-- The ring. -/
  slot : ∀ i : Fin 10, r.slots.get? (ringSlot i) = some []
  /-- The chosen register. -/
  chosen : ∀ name ∈ chosen,
    if name.isUpper then (r.slots.get? name.toLower).isSome = true
    else r.slots.get? name.toLower = some []

namespace RegisterFile

variable {r : RegisterFile} {name : Char}

theorem get?_store_nil (r : RegisterFile) (name other : Char) :
    (r.store name []).slots.get? other =
      if name.toLower = other then
        some (if name.isUpper then (r.slots.get? other).getD [] else [])
      else r.slots.get? other := by
  unfold store
  by_cases hupper : name.isUpper = true
  · rw [if_pos hupper, append, get?_write, if_pos hupper]
    split
    · rename_i heq
      rw [List.append_nil, read, heq]
    · rfl
  · rw [if_neg hupper, get?_write, if_neg hupper]

/-- Where the ring and the unnamed register hold nothing, recording nothing changes nothing. -/
theorem record_nil_eq_self (hunnamed : r.slots.get? unnamedRegister = some [])
    (hslot : ∀ i : Fin 10, r.slots.get? (ringSlot i) = some []) : r.record [] = r := by
  refine ext_get? fun name => ?_
  by_cases hname : name = unnamedRegister
  · rw [get?_record, if_pos (.inr hname), hname, hunnamed]
  · by_cases hring : name ∈ ringSlots
    · obtain ⟨i, rfl⟩ : ∃ i, ringSlot i = name := List.mem_iff_get.1 hring
      rw [hslot]
      cases i using Fin.cases with
      | zero => rw [get?_record, if_pos (.inl rfl)]
      | succ i => rw [get?_record_succ, hslot i.castSucc, Option.some_or]
    · exact get?_record_of_notMem [] hring hname

/-- Nor does storing nothing in a register that holds nothing, or, with a capital letter, is set. -/
theorem store_nil_eq_self
    (h : if name.isUpper then (r.slots.get? name.toLower).isSome = true
      else r.slots.get? name.toLower = some []) : r.store name [] = r := by
  refine ext_get? fun other => ?_
  rw [get?_store_nil]
  by_cases hother : name.toLower = other
  · subst hother
    rw [if_pos rfl]
    split at h
    · rename_i hupper
      obtain ⟨t, ht⟩ := Option.isSome_iff_exists.1 h
      simp [hupper, ht]
    · rename_i hupper
      exact (congrArg some (if_neg hupper)).trans h.symm
  · rw [if_neg hother]

end RegisterFile

namespace Editor

variable {e : Editor}

/-- **An empty text that is recorded** changes no register just when they hold nothing already. The
induction goes up the ring from slot `0`, which gets the text. -/
theorem recordTaken_nil_eq_iff (e : Editor) :
    (e.recordTaken []).registers = e.registers ↔ e.registers.HoldsNothing e.selected := by
  have htaken : (e.recordTaken []).registers =
      e.selected.elim (e.registers.record []) fun name => (e.registers.record []).store name [] := rfl
  have hstays {name : Char} (hname : (e.registers.record []).slots.get? name = some []) :
      (e.recordTaken []).registers.slots.get? name = some [] := by
    rw [htaken]
    cases e.selected with
    | none => exact hname
    | some chosen =>
      rw [Option.elim_some, RegisterFile.get?_store_nil, hname]
      simp
  constructor
  · intro hsame
    rw [hsame] at hstays
    refine ⟨hstays ?_, fun i => ?_, fun name hname => ?_⟩
    · rw [RegisterFile.get?_record, if_pos (.inr rfl)]
    · induction i using Fin.induction with
      | zero =>
        refine hstays ?_
        rw [RegisterFile.get?_record, if_pos (.inl rfl)]
      | succ i ih =>
        refine hstays ?_
        rw [RegisterFile.get?_record_succ, ih, Option.some_or]
    · have hselected : e.selected = some name := hname
      rw [← hsame, htaken, hselected, Option.elim_some, RegisterFile.get?_store_nil, if_pos rfl]
      split <;> simp
  · intro h
    rw [htaken, RegisterFile.record_nil_eq_self h.unnamed h.slot]
    cases hselected : e.selected with
    | none => rfl
    | some name => exact RegisterFile.store_nil_eq_self (h.chosen name hselected)

/-! ### Empty spans -/

theorem eq_of_isEmpty_rangeSpan {source target : Nat}
    (h : (e.rangeSpan source target).isEmpty = true) :
    target = source ∧ e.rangeSpan source target = ⟨source, source⟩ := by
  have hempty : (e.rangeSpan source target).stop ≤ (e.rangeSpan source target).start :=
    of_decide_eq_true h
  have hstart := Span.ordered_start source target
  have hstop := Span.ordered_stop source target
  have hspan : (e.rangeSpan source target).start ≤ (Span.ordered source target).start ∧
      (Span.ordered source target).stop ≤ (e.rangeSpan source target).stop := by
    unfold rangeSpan
    dsimp only
    split
    · exact ⟨Nat.sub_le _ _, Nat.le_add_right _ _⟩
    · exact ⟨Nat.le_refl _, Nat.le_refl _⟩
  obtain ⟨hbefore, hbehind⟩ := hspan
  refine ⟨by omega, ?_⟩
  cases hrange : e.rangeSpan source target with
  | mk start stop =>
    rw [hrange] at hempty hbefore hbehind
    dsimp only at hempty hbefore hbehind
    congr 1 <;> omega

/-- A delete or a yank of nothing records the empty text and takes a checkpoint. -/
theorem applyRange_of_isEmpty {op : Operator} (hop : e.operator = some op) (hne : op ≠ .change)
    (hhere : e.buffer.positionAt e.cursorOffset = e.cursor) {target : Nat}
    (h : (e.rangeSpan e.cursorOffset target).isEmpty = true) :
    e.applyRange e.cursorOffset target =
      { (e.recordTaken []).takeCheckpoint with
        operator := none
        modifier := none
        selected := none } := by
  obtain ⟨rfl, hspan⟩ := eq_of_isEmpty_rangeSpan h
  have hslice : e.buffer.slice ⟨e.cursorOffset, e.cursorOffset⟩ = [] := by
    simp [Buffer.slice, Span.length]
  have hremove : e.buffer.remove ⟨e.cursorOffset, e.cursorOffset⟩ = e.buffer :=
    Buffer.remove_of_isEmpty (by simp [Span.isEmpty])
  let e₁ : Editor := { e with operator := none, modifier := none }
  cases op with
  | change => exact absurd rfl hne
  | delete =>
    have hdelete : e.applyRange e.cursorOffset e.cursorOffset =
        { e₁.deleteSpan (e.rangeSpan e.cursorOffset e.cursorOffset) with selected := none } := by
      unfold applyRange
      rw [hop]
      rfl
    rw [hdelete, hspan]
    show ({ (e₁.takeCheckpoint.recordTaken (e.buffer.slice _)) with
      buffer := e.buffer.remove _
      cursor := (e.buffer.remove _).positionAt _
      selected := none } : Editor) = _
    rw [hslice, hremove, hhere]
    rfl
  | yank =>
    have hyank : e.applyRange e.cursorOffset e.cursorOffset =
        { (e₁.recordTaken (e.buffer.slice
            (e.rangeSpan e.cursorOffset e.cursorOffset))).takeCheckpoint with selected := none } := by
      unfold applyRange
      rw [hop]
      simp only [Nat.lt_irrefl, if_false]
      rfl
    rw [hyank, hspan, hslice]
    rfl

/-- The pending operator has nothing to take: there is no target, or it is where the cursor is. -/
def TakesNothing (e : Editor) : Option Target → Prop
  | none => True
  | some (.char offset inclusive) => (e.spanTo offset inclusive).isEmpty = true
  | some (.line _ _) => False

/-! ### Commands that take nothing -/

/-- Where nothing is taken the target is reached by recording nothing. -/
theorem reach_of_takesNothing {op : Operator} (hop : e.operator = some op) (hne : op ≠ .change)
    (hhere : e.buffer.positionAt e.cursorOffset = e.cursor) {target : Target}
    (h : e.TakesNothing (some target)) :
    e.reach target =
      { (e.recordTaken []).takeCheckpoint with
        toPending := {}
        selected := none } := by
  cases target with
  | line row offset => exact h.elim
  | char offset inclusive =>
    rw [reach_char_of_operator hop]
    exact applyRange_of_isEmpty (e := e.dropCounts) hop hne hhere h

/-- **A target with nothing before it** leaves the text and the cursor. The registers and the history
stay just when they hold nothing and this state already. -/
theorem reach_keeps_iff {op : Operator} (hop : e.operator = some op) (hne : op ≠ .change)
    (he : e.clampCursor = e) {target : Target} (h : e.TakesNothing (some target)) :
    let e' := (e.reach target).clampCursor
    e'.buffer = e.buffer ∧ e'.cursor = e.cursor ∧
      (e'.registers = e.registers ∧ e'.history = e.history ↔
        e.registers.HoldsNothing e.selected ∧
          e.history.newest? = some ⟨e.buffer, e'.snapshot⟩) := by
  intro e'
  have hhere : e.buffer.positionAt e.cursorOffset = e.cursor :=
    Buffer.positionAt_offsetAt (cursor_le_of_clampCursor_eq he)
  have he' : e' = { (e.recordTaken []).takeCheckpoint with
      toPending := {}
      selected := none } := by
    show (e.reach target).clampCursor = _
    rw [reach_of_takesNothing hop hne hhere h]
    exact clampCursor_of_eq he rfl rfl rfl
  have hbuffer : e'.buffer = e.buffer := by
    rw [he']
    rfl
  have hcursor : e'.cursor = e.cursor := by
    rw [he']
    rfl
  have hregisters : e'.registers = (e.recordTaken []).registers := by
    rw [he']
    rfl
  have hhistory : e'.history = e.history.checkpoint ⟨e.buffer, e'.snapshot⟩ := by
    rw [he']
    rfl
  exact ⟨hbuffer, hcursor, by
    rw [hregisters, hhistory, recordTaken_nil_eq_iff, History.checkpoint_eq_self_iff]⟩

/-- **When an operator on nothing does nothing.** Wherever a run has led to, in normal mode, with
nothing half typed, a delete or a yank is given a motion and has nothing to take. The text and the
cursor stay. The registers, with the keys that are recorded and the query of a search, and the
history stay exactly if the motion leads nowhere, or the registers hold nothing where an empty text
goes and the newest checkpoint is of this state. -/
theorem nothing_taken_iff {b : Buffer} (he : Reachable b e) (hm : e.mode = .normal)
    (hw : e.waiting = false) (hn : e.repeatCount = none) (settings : Settings) (h : OperatorHead)
    {op : Operator} (hne : op ≠ .change) {m : Motion} (hz : m = .rowStart → h.since ++ h.late = [])
    (hnothing : ({ e with modifier := m.keeps h.modifier } : Editor).TakesNothing
      (m.target? settings (h.typed op (e.captured (h.keys op ++ m.keys))))) :
    let keys := h.keys op ++ m.keys
    let e' := e.after settings keys
    let kept := m.noted (e.captured keys).registers
    e'.buffer = e.buffer ∧ e'.cursor = e.cursor ∧
      (e'.registers = kept ∧ e'.history = e.history ↔
        m.target? settings (h.typed op (e.captured keys)) = none ∨
          kept.HoldsNothing (h.register.or e.selected) ∧
            e.history.newest? = some ⟨e.buffer, e'.snapshot⟩) := by
  intro keys e' kept
  let e₁ : Editor := h.typed op (e.captured keys)
  have hclamped := he.clampCursor_eq
  have hk := continuation_of_not_waiting hw
  have ho : e₁.control.Orderly := orderly_typed he hm hw hn h op keys
  have hafter : e' = (m.run settings e₁).clampCursor :=
    after_operator_motion settings hclamped hm hw hn h op hz
  rcases exists_run_eq_reachOr settings m ho hm hk (repeatCount_typed hz op _) with
    ⟨e₂, hr, hrun⟩ | ⟨name, rfl, hmark, hrun⟩
  · have hmode : e₂.mode = e.mode := congrArg Control.mode hr.control
    have hregisters : e₂.registers = kept := hr.registers
    cases htarget : m.target? settings e₁ with
    | none =>
      have he' : e' = e₂.clearPending := by
        rw [hafter, hrun, htarget]
        exact clampCursor_of_eq hclamped hr.buffer hmode hr.cursor
      rw [he']
      exact ⟨hr.buffer, hr.cursor, iff_of_true ⟨hregisters, hr.history⟩ (.inl rfl)⟩
    | some target =>
      have hop : e₂.operator = some op := congrArg (·.operator) hr.control
      have hmodifier : e₂.modifier = m.keeps h.modifier := congrArg (·.modifier) hr.control
      have hselected : e₂.selected = h.register.or e.selected := hr.selected
      have hbuffer : e₂.buffer = e.buffer := hr.buffer
      have hcursor : e₂.cursor = e.cursor := hr.cursor
      have hhistory : e₂.history = e.history := hr.history
      have hnothing₂ : e₂.TakesNothing (some target) := by
        rw [htarget] at hnothing
        cases target with
        | line row offset => exact hnothing
        | char offset inclusive =>
          have hspan := spanTo_congr (e := { e with modifier := m.keeps h.modifier }) hbuffer
            hcursor hmodifier offset inclusive
          exact (congrArg Span.isEmpty hspan).trans hnothing
      have hreach := reach_keeps_iff hop hne (clampCursor_of_eq hclamped hbuffer hmode
        hcursor) hnothing₂
      have he' : e' = (e₂.reach target).clampCursor := by
        rw [hafter, hrun, htarget]
        rfl
      dsimp only at hreach
      rw [← he', hbuffer, hcursor, hregisters, hhistory, hselected] at hreach
      rwa [or_iff_right (Option.some_ne_none target)]
  · have he' : e' = e₁ := by
      rw [hafter, hrun]
      exact clampCursor_of_eq hclamped rfl rfl rfl
    have hnone : (Motion.mark name).target? settings e₁ = none := by
      simp [Motion.target?, hmark]
    rw [he']
    exact ⟨rfl, rfl, iff_of_true ⟨rfl, rfl⟩ (.inl hnone)⟩

/-- In an empty text, where nothing has been deleted ten times before, an eleventh time changes
nothing. -/
theorem nothing_taken_again :
    ∃ e : Editor, Reachable ⟨[]⟩ e ∧ e.registers.HoldsNothing none ∧
      let e' := e.after {} [.char 'd', .char 'h']
      e'.registers = e.registers ∧ e'.history = e.history := by
  have he : Reachable ⟨[]⟩ _ :=
    .first {} (List.replicate 10 [.char 'd', .char 'h']).flatten
  obtain ⟨-, -, hiff⟩ := nothing_taken_iff he (by decide +kernel) (by decide +kernel)
    (by decide +kernel) {} {} (show Operator.delete ≠ .change by decide) (m := .left) (by simp)
    (show Span.isEmpty _ = true by decide +kernel)
  obtain ⟨hregisters, hhistory⟩ := hiff.2 (.inr ⟨⟨by decide +kernel, by decide +kernel,
    fun name hname => by
      have hnone : some name = none := Eq.trans (Eq.symm hname) (by decide +kernel)
      cases hnone⟩, by decide +kernel⟩)
  have hkeys : ({} : OperatorHead).keys .delete ++ Motion.left.keys = [.char 'd', .char 'h'] := rfl
  rw [hkeys] at hregisters hhistory
  refine ⟨_, he, ⟨by decide +kernel, by decide +kernel, by simp⟩, ?_, hhistory⟩
  exact hregisters.trans (by decide +kernel)

/-- With a text copied, another deleted, and that undone: a delete to the left at the start of the
row takes nothing, and the copied text is lost from the unnamed register, and the redo. -/
theorem nothing_taken_loses_redo :
    ∃ e : Editor, Reachable ⟨['a', 'b']⟩ e ∧ e.mode = .normal ∧ e.waiting = false ∧
      e.repeatCount = none ∧ e.recording = none ∧
      let e' := e.after {} [.char 'd', .char 'h']
      e'.buffer = e.buffer ∧ e.registers.read unnamedRegister = ['a'] ∧
        e'.registers.read unnamedRegister = [] ∧ e.history.canRedo = true ∧
        e'.history.canRedo = false := by
  have he : Reachable ⟨['a', 'b']⟩ _ :=
    .first {} [.char 'y', .char 'l', .char 'x', .char 'u']
  exact ⟨_, he, by decide +kernel⟩

end Editor

end ModalEditor
