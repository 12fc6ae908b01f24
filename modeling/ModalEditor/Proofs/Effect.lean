import ModalEditor.Proofs.MotionKeys

/-!
# What a key does to the text

Each key is taken in one of four ways (`Effect`): the text and the history stay; text is typed in an
insert session; the state after a copy is kept as a checkpoint; or the text from before an edit is
kept as one, and the edit leaves insert mode or normal mode with nothing half typed. A key that is
taken well also leaves the half-typed command orderly (`Taken`). So every operator and every motion
does.
-/

namespace ModalEditor

namespace Editor

/-- Whether a command is half typed. -/
def waiting (e : Editor) : Bool := e.control.waiting

theorem operator_of_not_waiting {e : Editor} (hw : e.waiting = false) : e.operator = none := by
  simp only [waiting, Control.waiting, control, Bool.or_eq_false_iff] at hw
  simpa using hw.1.1.1

theorem continuation_of_not_waiting {e : Editor} (hw : e.waiting = false) :
    e.continuation = none := by
  simp only [waiting, Control.waiting, control, Bool.or_eq_false_iff] at hw
  simpa using hw.1.1.2

theorem waiting_eq_false {e : Editor} (hop : e.operator = none) (hk : e.continuation = none)
    (hm : e.mode = .normal) : e.waiting = false := by
  simp [waiting, Control.waiting, control, hop, hk, hm, Mode.isLineInput]

/-- **What a key does to the text and the history**, undo, redo and playback apart. -/
inductive Effect (e e' : Editor) : Prop where
  /-- Neither changes. Unless the cursor stays, the key ends a command. -/
  | still (buffer : e'.buffer = e.buffer) (history : e'.history = e.history)
    (mode : e'.mode = .insert → e.mode = .insert)
    (cursor : e'.waiting = false ∨
      e'.cursor = e.cursor ∧ (e'.mode.isVisual = true → e.mode.isVisual = true))
  /-- Text is typed or erased in an insert session. -/
  | typed (mode : e.mode = .insert) (mode' : e'.mode = .insert) (history : e'.history = e.history)
  /-- A checkpoint is taken of the same text. The key ends a command. -/
  | copied (snapshot : Snapshot) (mode : e.mode ≠ .insert) (buffer : e'.buffer = e.buffer)
    (history : e'.history = e.history.checkpoint ⟨e.buffer, snapshot⟩)
    (waiting : e'.waiting = false)
  /-- A checkpoint is taken of the text before an edit. The key starts an insert session, or ends a
  command in normal mode. -/
  | edited (snapshot : Snapshot) (mode : e.mode ≠ .insert)
    (cursor : e.mode.isVisual = false → snapshot.cursor = e.cursor)
    (history : e'.history = e.history.checkpoint ⟨e.buffer, snapshot⟩)
    (ended : e'.mode = .insert ∨
      e'.mode = .normal ∧ e'.waiting = false ∧ e'.repeatCount = none)

/-- A key leaves the half-typed command orderly, with one of the four effects. -/
structure Taken (e e' : Editor) : Prop where
  /-- What is left open goes together. -/
  orderly : e'.control.Orderly
  /-- What happens to the text and the history. -/
  effect : Effect e e'

/-! ### Changes that only concern what is half typed -/

theorem taken_still {e e' : Editor} (ho : e'.control.Orderly) (hb : e'.buffer = e.buffer)
    (hh : e'.history = e.history) (hc : e'.cursor = e.cursor) (hm : e'.mode = e.mode) :
    Taken e e' :=
  ⟨ho, .still hb hh (fun h => hm ▸ h) (.inr ⟨hc, fun h => hm ▸ h⟩)⟩

/-- Nothing about a key depends on where the same text, history, cursor and mode came from. -/
theorem Taken.congr {e₁ e' : Editor} (h : Taken e₁ e') (e : Editor) (hb : e₁.buffer = e.buffer)
    (hh : e₁.history = e.history) (hc : e₁.cursor = e.cursor) (hm : e₁.mode = e.mode) :
    Taken e e' := by
  refine ⟨h.orderly, ?_⟩
  cases h.effect with
  | still buffer history mode cursor =>
    exact .still (buffer.trans hb) (history.trans hh) (hm ▸ mode) (by rwa [hc, hm] at cursor)
  | typed mode mode' history => exact .typed (hm ▸ mode) mode' (history.trans hh)
  | copied snapshot mode buffer history waiting =>
    exact .copied snapshot (hm ▸ mode) (buffer.trans hb) (by rw [history, hh, hb]) waiting
  | edited snapshot mode cursor history ended =>
    exact .edited snapshot (hm ▸ mode) (by rwa [hc, hm] at cursor) (by rw [history, hh, hb]) ended

/-! ### Operators and motions -/

/-- Where commands are typed: in normal mode and while a selection is made. -/
def Commanding (e : Editor) : Prop := e.mode = .normal ∨ e.mode.isVisual = true

theorem Commanding.ne_search {e : Editor} (h : e.Commanding) : e.mode ≠ .search := by
  rcases h with h | h <;> intro hm <;> simp [hm, Mode.isVisual] at h

theorem Commanding.ne_commandLine {e : Editor} (h : e.Commanding) : e.mode ≠ .commandLine := by
  rcases h with h | h <;> intro hm <;> simp [hm, Mode.isVisual] at h

theorem Commanding.ne_insert {e : Editor} (h : e.Commanding) : e.mode ≠ .insert := by
  rcases h with h | h <;> intro hm <;> simp [hm, Mode.isVisual] at h

theorem Operated.control_eq {e e' : Editor} {op : Option Operator} (h : Operated e e' op) :
    e'.control = e.control.operated op := by
  cases h with
  | moved control => exact control
  | copied _ control => exact control
  | cut _ control => exact control

theorem mode_operated (c : Control) (op : Option Operator) :
    (c.operated op).mode = if op = some .change then .insert else c.mode := by
  unfold Control.operated
  split <;> rfl

theorem repeatCount_operated (c : Control) (op : Option Operator) :
    (c.operated op).repeatCount = c.repeatCount := by
  unfold Control.operated
  split <;> rfl

/-- An operator is taken well where no count is left; `e₀` is the editor before the key, which
differs from the one that the operator works on in what is half typed, or, when a selection is
operated on, in the cursor. -/
theorem Operated.taken {e₀ e e' : Editor} {op : Option Operator} (h : Operated e e' op)
    (ho : e.control.Orderly) (hk : e.continuation = none) (hn : e.operatorCount = none)
    (hr : e.repeatCount = none) (hm : e.Commanding) (hop : op.isSome = true → e.mode = .normal)
    (hb : e.buffer = e₀.buffer) (hh : e.history = e₀.history) (hm₀ : e₀.mode ≠ .insert)
    (hc : e₀.mode.isVisual = false → e.cursor = e₀.cursor) : Taken e₀ e' := by
  have hcontrol := h.control_eq
  have hmode : e'.mode = if op = some .change then .insert else e.mode :=
    (congrArg Control.mode hcontrol).trans (mode_operated _ _)
  have hwait (hne : op ≠ some .change) : e'.waiting = false := by
    unfold waiting
    rw [hcontrol]
    exact Control.waiting_operated (c := e.control) hk hm hne
  refine ⟨?_, ?_⟩
  · rw [hcontrol]
    exact ho.operated hk hn hr hm.ne_search hm.ne_commandLine op
  · cases h with
    | moved control buffer history =>
      have hmode' : e'.mode = e.mode := by simpa using hmode
      exact .still (buffer.trans hb) (history.trans hh)
        (fun hi => absurd (hmode'.symm.trans hi) hm.ne_insert) (.inl (hwait (by simp)))
    | copied snapshot control buffer history =>
      exact .copied snapshot hm₀ (buffer.trans hb) (by rw [history, hh, hb]) (hwait (by simp))
    | cut hyank control history =>
      rename_i op
      refine .edited e.snapshot hm₀ hc (by rw [history, hh, hb]) ?_
      by_cases hch : op = .change
      · exact .inl (by simpa [hch] using hmode)
      · have hrep : e'.repeatCount = none :=
          (congrArg (·.repeatCount) hcontrol).trans ((repeatCount_operated _ _).trans hr)
        exact .inr ⟨by simpa [hch, hop] using hmode, hwait (by simp [hch]), hrep⟩

/-- A motion that reaches its target, or gives up, is taken well. -/
theorem Settled.taken {e e' : Editor} (h : Settled e e') (ho : e.control.Orderly)
    (hk : e.continuation = none) (hm : e.Commanding) : Taken e e' := by
  cases h with
  | @reach e₁ akin target =>
    have ho₁ : e₁.control.Orderly := akin.control ▸ ho
    have hk₁ : e₁.continuation = none := (congrArg Control.continuation akin.control).trans hk
    have hmode : e₁.mode = e.mode := congrArg Control.mode akin.control
    have hm₁ : e₁.Commanding := by rwa [Commanding, hmode]
    refine (operated_reach ho₁ target).taken ho₁.dropCounts hk₁ rfl rfl hm₁ ?_ akin.buffer
      akin.history hm.ne_insert (fun _ => akin.cursor)
    intro hop
    exact (ho₁.operator hop).resolve_right hm₁.ne_search
  | @giveUp e₁ akin =>
    have ho₁ : e₁.control.Orderly := akin.control ▸ ho
    have hmode : e₁.mode = e.mode := congrArg Control.mode akin.control
    have hwait : e₁.clearPending.waiting = false :=
      Control.waiting_clearPending ((congrArg Control.continuation akin.control).trans hk)
        (by rwa [akin.control])
    exact ⟨ho₁.clearPending, .still akin.buffer akin.history (fun hi => hmode ▸ hi) (.inl hwait)⟩

/-- So is any motion key. -/
theorem Moved.taken {e e' : Editor} (h : Moved e e') (ho : e.control.Orderly)
    (hk : e.continuation = none) (hm : e.Commanding) : Taken e e' := by
  cases h with
  | settled h => exact h.taken ho hk hm
  | @awaits k hopens m hmod =>
    refine taken_still ?_ rfl rfl rfl rfl
    refine { ho with modifier := ?_, continuation := ?_ }
    · rintro hsome
      rcases hmod with rfl | rfl
      · exact ho.modifier hsome
      · simp [control, awaitKey] at hsome
    · rintro k' hk'
      obtain rfl : k = k' := by simpa [control, awaitKey] using hk'
      exact hm.imp (fun hn => ⟨hn, .inl hopens⟩) (fun hv => ⟨hv, .inl hopens⟩)
  | query d =>
    have hv : (e.startSearch d).mode.isVisual ≠ true := by simp [startSearch, Mode.isVisual]
    refine ⟨?_, .still rfl rfl (by simp [startSearch]) (.inr ⟨rfl, fun h => absurd h hv⟩)⟩
    exact { ho with
      modifier := by simp [control, startSearch]
      operator := fun _ => .inr rfl
      continuation := by simp [control, startSearch, hk]
      insertAppend := by
        have happ := ho.insertAppend
        simpa [control, startSearch, hm.ne_insert] using happ
      typing := by simp [control, startSearch]
      anchored := by simp [control, startSearch, Mode.isVisual]
      searchQuery := by simp [control, startSearch]
      commandQuery := fun _ => ho.commandQuery hm.ne_commandLine
      searchQuery_atEnd := rfl }

end Editor

end ModalEditor
