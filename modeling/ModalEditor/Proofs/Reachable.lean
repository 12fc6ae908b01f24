import ModalEditor.Proofs.Checkpoints
import ModalEditor.Proofs.Press

/-!
# Reachable editors

What holds of every editor that runs lead to: the half-typed command is orderly, the live text hangs
on to the line of checkpoints, and the oldest checkpoint has the text that the first run started
from. While an insert session types without checkpoints, the current checkpoint and the newest have
the same text (`Traceable.typing`); so undo finds its way back however the text has changed.
-/

namespace ModalEditor

namespace Editor

/-! ### Undo and redo -/

@[simp] theorem history_goTo (e : Editor) (h : History Snapshot)
    (c? : Option (Checkpoint Snapshot)) : (e.goTo h c?).history = h := by
  cases c? <;> rfl

@[simp] theorem buffer_goTo (e : Editor) (h : History Snapshot)
    (c? : Option (Checkpoint Snapshot)) :
    (e.goTo h c?).buffer = (c?.map (·.buffer)).getD e.buffer := by
  cases c? <;> rfl

@[simp] theorem mode_goTo (e : Editor) (h : History Snapshot)
    (c? : Option (Checkpoint Snapshot)) : (e.goTo h c?).mode = e.mode := by
  cases c? <;> rfl

/-- A move along the line changes no more of what is half typed than whether there is an anchor. -/
theorem control_goTo (e : Editor) (h : History Snapshot) (c? : Option (Checkpoint Snapshot)) :
    (e.goTo h c?).control =
      { e.control with anchored := (e.goTo h c?).visualAnchor.isSome } := by
  cases c? <;> rfl

theorem orderly_goTo {e : Editor} (ho : e.control.Orderly) (hm : e.mode = .normal)
    (h : History Snapshot) (c? : Option (Checkpoint Snapshot)) :
    (e.dropCounts.goTo h c?).control.Orderly := by
  have hdrop : e.dropCounts.control.Orderly := ho.dropCounts
  rw [control_goTo]
  exact { hdrop with
    anchored := fun hv => by simp [control, dropCounts, hm, Mode.isVisual] at hv }

/-! ### What every run keeps -/

/-- **What holds of every editor that runs lead to** from a text. -/
structure Traceable (b : Buffer) (e : Editor) : Prop where
  /-- The half-typed command is orderly. -/
  orderly : e.control.Orderly
  /-- The live text hangs on to the line of checkpoints. -/
  anchored : e.history.Anchors e.buffer
  /-- While text is typed, undo leads to the text of the newest checkpoint. -/
  typing : e.mode = .insert → e.history.newestBuffer? = e.history.currentBuffer?
  /-- The oldest checkpoint has the text of the start. -/
  oldest : e.history.oldest?.map (·.buffer) = some b

namespace Traceable

variable {b : Buffer} {e e' : Editor}

theorem exists_oldest (h : Traceable b e) :
    ∃ o, e.history.oldest? = some o ∧ o.buffer = b :=
  Option.map_eq_some_iff.1 h.oldest

theorem history_ne_empty (h : Traceable b e) : e.history ≠ .empty := by
  obtain ⟨o, ho, -⟩ := h.exists_oldest
  exact History.ne_empty_of_oldest? ho

/-- A checkpoint of the live text keeps it, whatever text follows. -/
theorem of_checkpoint (h : Traceable b e) (ho : e'.control.Orderly) {s : Snapshot}
    (hh : e'.history = e.history.checkpoint ⟨e.buffer, s⟩) : Traceable b e' where
  orderly := ho
  anchored := .inl (hh ▸ History.newestBuffer?_eq_of_checkpoint h.anchored s)
  typing := fun _ => hh ▸ History.newestBuffer?_eq_of_checkpoint h.anchored s
  oldest := by
    obtain ⟨o, hold, rfl⟩ := h.exists_oldest
    rw [hh, History.oldest?_checkpoint hold]
    rfl

/-- A key that is taken well keeps it. -/
theorem taken (h : Traceable b e) (ht : Taken e e') : Traceable b e' := by
  cases ht.effect with
  | still buffer history mode cursor =>
    refine ⟨ht.orderly, ?_, fun hi => ?_, history ▸ h.oldest⟩
    · rw [buffer, history]
      exact h.anchored
    · rw [history]
      exact h.typing (mode hi)
  | typed mode mode' history =>
    refine ⟨ht.orderly, .inl ?_, fun _ => ?_, history ▸ h.oldest⟩
    · rw [history]
      exact h.typing mode
    · rw [history]
      exact h.typing mode
  | copied snapshot mode buffer history waiting => exact h.of_checkpoint ht.orderly history
  | edited snapshot mode cursor history ended => exact h.of_checkpoint ht.orderly history

/-- Undo keeps it. -/
theorem undo (h : Traceable b e) (hm : e.mode = .normal) : Traceable b e.undo := by
  unfold Editor.undo
  dsimp only
  refine ⟨orderly_goTo h.orderly hm _ _, ?_, fun hi => ?_, ?_⟩
  · rw [history_goTo, buffer_goTo]
    exact History.anchors_undo h.anchored h.history_ne_empty _ _
  · rw [mode_goTo] at hi
    exact absurd (hm.symm.trans hi) (by simp)
  · obtain ⟨o, hold, rfl⟩ := h.exists_oldest
    rw [history_goTo, History.oldest?_undo hold]
    rfl

/-- So does redo. -/
theorem redo (h : Traceable b e) (hm : e.mode = .normal) : Traceable b e.redo := by
  unfold Editor.redo
  dsimp only
  refine ⟨orderly_goTo h.orderly hm _ _, ?_, fun hi => ?_, ?_⟩
  · rw [history_goTo, buffer_goTo]
    exact History.anchors_redo h.anchored _
  · rw [mode_goTo] at hi
    exact absurd (hm.symm.trans hi) (by simp)
  · rw [history_goTo, History.oldest?_redo]
    exact h.oldest

/-- The second key of a command may as well come first. -/
theorem continued (h : Traceable b e) : Traceable b { e with continuation := none } :=
  ⟨h.orderly.continued, h.anchored, h.typing, h.oldest⟩

theorem mode_of_travels {key : Key} (ht : e.travels key = true) : e.mode = .normal := by
  simp only [travels, Bool.and_eq_true, beq_iff_eq] at ht
  exact ht.1.1

/-- Every key keeps it. -/
theorem invariant (b : Buffer) : Invariant (Traceable b) where
  capture := by
    intro e key h
    unfold capture
    split
    · exact ⟨h.orderly, h.anchored, h.typing, h.oldest⟩
    · exact h
  clampCursor h := ⟨h.orderly, h.anchored, h.typing, h.oldest⟩
  done := by
    intro e e' settings key h hpress
    have hkey := pressed h.orderly settings key
    rw [hpress] at hkey
    cases hkey with
    | taken ht => exact h.taken ht
    | undone ht hkey =>
      have hm : e.mode = .normal := mode_of_travels ht
      exact h.continued.undo hm
    | redone ht hkey =>
      have hm : e.mode = .normal := mode_of_travels ht
      exact h.continued.redo hm
  play := by
    intro e e' settings key keys times h hpress
    have hkey := pressed h.orderly settings key
    rw [hpress] at hkey
    cases hkey with
    | played hk ht control => exact h.taken ht

/-- The start has one checkpoint, of the live text. -/
theorem start (b : Buffer) : Traceable b (start b) where
  orderly := Control.Orderly.rest
  anchored := .inl rfl
  typing := fun _ => rfl
  oldest := rfl

end Traceable

/-- **Every reachable editor is traceable.** -/
theorem Reachable.traceable {b : Buffer} {e : Editor} (h : Reachable b e) : Traceable b e :=
  (Traceable.invariant b).reachable (Traceable.start b) h

end Editor

end ModalEditor
