import ModalEditor.History

/-!
# The line of checkpoints

What taking a checkpoint, undo and redo do to the line of checkpoints. A checkpoint that equals the
newest one is not taken, wherever the index stands, so a checkpoint of the live text need not become
the current one. What holds instead is `Anchors`: either the current checkpoint has the live text,
or the newest one has the text of the current one. Under it the checkpoint before an edit leaves the
text from before the edit current (`currentBuffer?_checkpoint`), and undo starts from a checkpoint
of the live text (`currentBuffer?_keepLive`). The oldest checkpoint is never dropped
(`oldest?_checkpoint`).
-/

namespace ModalEditor

namespace History

variable {σ : Type}

/-- The text of the current checkpoint. -/
def currentBuffer? (h : History σ) : Option Buffer := h.current?.map (·.buffer)

/-- The text of the newest checkpoint. -/
def newestBuffer? (h : History σ) : Option Buffer := h.newest?.map (·.buffer)

/-- The oldest checkpoint. -/
def oldest? (h : History σ) : Option (Checkpoint σ) := h.entries.head?

/-- Whether checkpoints follow the current one, for redo to go on to. -/
def canRedo : History σ → Bool
  | empty => false
  | line _ _ after => !after.isEmpty

/-- The line with a checkpoint after the current one, in place of those that followed. -/
def push : History σ → Checkpoint σ → History σ
  | empty, c => line [] c []
  | line before current _, c => line (current :: before) c []

/-- A checkpoint is dropped that would have cut off what redo can reach: it equals the newest one,
while an older one is current. -/
def Skips (h : History σ) (c : Checkpoint σ) : Prop := h.canRedo = true ∧ h.newest? = some c

instance [DecidableEq σ] (h : History σ) (c : Checkpoint σ) : Decidable (h.Skips c) :=
  inferInstanceAs (Decidable (_ ∧ _))

/-- **The live buffer hangs on to the line**: the current checkpoint has its text, or the newest
checkpoint has the text of the current one. -/
def Anchors (h : History σ) (live : Buffer) : Prop :=
  h.newestBuffer? = h.currentBuffer? ∨ h.currentBuffer? = some live

/-! ### Where the line ends -/

/-- With nothing to redo the current checkpoint is the newest. -/
theorem newest?_eq_current? {h : History σ} (hr : h.canRedo = false) : h.newest? = h.current? := by
  cases h with
  | empty => rfl
  | line before current after =>
    have hnil : after = [] := by simpa [canRedo] using hr
    rw [hnil]
    rfl

theorem canRedo_iff {h : History σ} {i : Nat} (hi : h.index? = some i) :
    h.canRedo = true ↔ i + 1 < h.size := by
  cases h with
  | empty => simp [index?] at hi
  | line before current after =>
    obtain rfl := Option.some.inj hi
    cases after <;> simp [canRedo, size]

theorem oldest?_eq_getElem? (h : History σ) : h.oldest? = h.entries[0]? :=
  List.head?_eq_getElem?

theorem ne_empty_of_oldest? {h : History σ} {o : Checkpoint σ} (ho : h.oldest? = some o) :
    h ≠ empty := by
  rintro rfl
  simp [oldest?, entries] at ho

theorem lt_size_of_index? {h : History σ} {i : Nat} (hi : h.index? = some i) : i < h.size := by
  cases h with
  | empty => simp [index?] at hi
  | line before current after =>
    obtain rfl := Option.some.inj hi
    simp only [size]
    omega

/-- The line and the index are all there is to a history. -/
theorem eq_of_entries_eq {h h' : History σ} (he : h'.entries = h.entries)
    (hi : h'.index? = h.index?) : h' = h := by
  cases h with
  | empty =>
    cases h' with
    | empty => rfl
    | line before current after => simp [index?] at hi
  | line before current after =>
    cases h' with
    | empty => simp [index?] at hi
    | line before' current' after' =>
      have hlength : before'.length = before.length := Option.some.inj hi
      obtain ⟨hbefore, hrest⟩ := List.append_inj he (by simpa using hlength)
      obtain ⟨rfl, rfl⟩ := List.cons.inj hrest
      rw [List.reverse_inj.1 hbefore]

theorem exists_index_of_currentBuffer? {h : History σ} {live : Buffer}
    (hc : h.currentBuffer? = some live) : ∃ i, h.index? = some i := by
  cases h with
  | empty => simp [currentBuffer?, current?] at hc
  | line before current after => exact ⟨_, rfl⟩

/-! ### Taking a checkpoint -/

section Checkpoint

variable [DecidableEq σ]

/-- A checkpoint that equals the newest changes nothing. -/
theorem checkpoint_of_newest {h : History σ} {c : Checkpoint σ} (hc : h.newest? = some c) :
    h.checkpoint c = h := by
  unfold checkpoint
  rw [if_pos hc]

/-- Any other checkpoint goes after the current one. -/
theorem checkpoint_of_ne {h : History σ} {c : Checkpoint σ} (hc : h.newest? ≠ some c) :
    h.checkpoint c = h.push c := by
  unfold checkpoint
  rw [if_neg hc]
  cases h <;> rfl

omit [DecidableEq σ] in
@[simp] theorem current?_push (h : History σ) (c : Checkpoint σ) :
    (h.push c).current? = some c := by
  cases h <;> rfl

omit [DecidableEq σ] in
@[simp] theorem canRedo_push (h : History σ) (c : Checkpoint σ) : (h.push c).canRedo = false := by
  cases h <;> rfl

@[simp] theorem newest?_checkpoint (h : History σ) (c : Checkpoint σ) :
    (h.checkpoint c).newest? = some c := by
  by_cases hc : h.newest? = some c
  · rw [checkpoint_of_newest hc, hc]
  · rw [checkpoint_of_ne hc, newest?_eq_current? (canRedo_push h c), current?_push]

/-- **When a checkpoint leaves something to redo**: only where it is skipped. -/
theorem canRedo_checkpoint_iff (h : History σ) (c : Checkpoint σ) :
    (h.checkpoint c).canRedo = true ↔ h.Skips c := by
  by_cases hc : h.newest? = some c
  · simp [checkpoint_of_newest hc, Skips, hc]
  · simp [checkpoint_of_ne hc, Skips, hc]

omit [DecidableEq σ] in
theorem not_skips_of_ne {h : History σ} {c : Checkpoint σ} (hb : h.newestBuffer? ≠ some c.buffer) :
    ¬ h.Skips c := by
  rintro ⟨-, hnew⟩
  exact hb (by rw [newestBuffer?, hnew, Option.map_some])

theorem Skips.checkpoint_eq {h : History σ} {c : Checkpoint σ} (hs : h.Skips c) :
    h.checkpoint c = h :=
  checkpoint_of_newest hs.2

theorem current?_checkpoint_of_not_skips {h : History σ} {c : Checkpoint σ} (hs : ¬ h.Skips c) :
    (h.checkpoint c).current? = some c := by
  by_cases hc : h.newest? = some c
  · have hlast : h.canRedo = false := by simpa using fun hredo => hs ⟨hredo, hc⟩
    rw [checkpoint_of_newest hc, ← newest?_eq_current? hlast, hc]
  · rw [checkpoint_of_ne hc, current?_push]

/-- A checkpoint never drops the oldest one. -/
theorem oldest?_checkpoint {h : History σ} {o : Checkpoint σ} (ho : h.oldest? = some o)
    (c : Checkpoint σ) : (h.checkpoint c).oldest? = some o := by
  by_cases hc : h.newest? = some c
  · rw [checkpoint_of_newest hc, ho]
  · rw [checkpoint_of_ne hc]
    cases h with
    | empty => simp [oldest?, entries] at ho
    | line before current after =>
      cases hb : before.reverse with
      | nil => simpa [oldest?, entries, push, hb] using ho
      | cons x xs => simpa [oldest?, entries, push, hb] using ho

theorem size_checkpoint_le (h : History σ) (c : Checkpoint σ) :
    (h.checkpoint c).size ≤ h.size + 1 := by
  by_cases hc : h.newest? = some c
  · rw [checkpoint_of_newest hc]
    omega
  · rw [checkpoint_of_ne hc]
    cases h with
    | empty => simp [push, size]
    | line before current after =>
      simp only [push, size, List.length_cons, List.length_nil]
      omega

end Checkpoint

/-! ### Anchored histories -/

section Anchors

variable [DecidableEq σ] {h : History σ} {live : Buffer}

/-- Taken of the live text, a checkpoint leaves that text current, even if it is dropped because it
equals the newest. -/
theorem currentBuffer?_checkpoint (ha : h.Anchors live) (s : σ) :
    (h.checkpoint ⟨live, s⟩).currentBuffer? = some live := by
  by_cases hc : h.newest? = some ⟨live, s⟩
  · rw [checkpoint_of_newest hc]
    rcases ha with ha | ha
    · rw [← ha, newestBuffer?, hc]
      rfl
    · exact ha
  · rw [currentBuffer?, checkpoint_of_ne hc, current?_push]
    rfl

@[simp] theorem newestBuffer?_checkpoint (h : History σ) (c : Checkpoint σ) :
    (h.checkpoint c).newestBuffer? = some c.buffer := by
  rw [newestBuffer?, newest?_checkpoint]
  rfl

/-- After a checkpoint of the live text any edit may follow. -/
theorem newestBuffer?_eq_of_checkpoint (ha : h.Anchors live) (s : σ) :
    (h.checkpoint ⟨live, s⟩).newestBuffer? = (h.checkpoint ⟨live, s⟩).currentBuffer? := by
  rw [currentBuffer?_checkpoint ha, newestBuffer?_checkpoint]

/-- Undo starts from a checkpoint of the live text. -/
theorem currentBuffer?_keepLive (ha : h.Anchors live) (hne : h ≠ empty) (s : σ) :
    (h.keepLive ⟨live, s⟩).currentBuffer? = some live := by
  cases h with
  | empty => exact absurd rfl hne
  | line before current after =>
    simp only [keepLive, current?]
    split
    · rename_i hb
      simp [currentBuffer?, current?, hb]
    · exact currentBuffer?_checkpoint ha s

theorem oldest?_keepLive {o : Checkpoint σ} (ho : h.oldest? = some o) (c : Checkpoint σ) :
    (h.keepLive c).oldest? = some o := by
  unfold keepLive
  split
  · split
    · exact ho
    · exact oldest?_checkpoint ho c
  · exact ho

theorem size_keepLive_le (h : History σ) (c : Checkpoint σ) : (h.keepLive c).size ≤ h.size + 1 := by
  unfold keepLive
  split
  · split
    · omega
    · exact size_checkpoint_le h c
  · omega

end Anchors

/-! ### Moving along the line -/

section Moves

variable {h h' : History σ} {live : Buffer}

/-- A move to another place on the line brings back the checkpoint there. -/
theorem exists_arrival_of_ne (he : h'.entries = h.entries) (hi : h.index? ≠ h'.index?) :
    ∃ c, h'.current? = some c ∧ h.arrival? h' = some c := by
  cases h' with
  | line before current after => exact ⟨current, rfl, if_neg hi⟩
  | empty =>
    cases h with
    | empty => exact absurd rfl hi
    | line before current after => simp [entries] at he

/-- What a move brings back is the text of the checkpoint it leads to, the live one if it leads
nowhere. -/
theorem currentBuffer?_arrival (he : h'.entries = h.entries)
    (hc : h.currentBuffer? = some live) :
    h'.currentBuffer? = some (((h.arrival? h').map (·.buffer)).getD live) := by
  by_cases hi : h.index? = h'.index?
  · rw [arrival?, if_pos hi, eq_of_entries_eq he hi.symm]
    exact hc
  · obtain ⟨c, hcur, harrival⟩ := exists_arrival_of_ne he hi
    rw [currentBuffer?, hcur, harrival]
    rfl

theorem anchors_arrival (he : h'.entries = h.entries) (ha : h.Anchors live) :
    h'.Anchors (((h.arrival? h').map (·.buffer)).getD live) := by
  by_cases hi : h.index? = h'.index?
  · have hsame : h' = h := eq_of_entries_eq he hi.symm
    simpa [arrival?, hsame] using ha
  · obtain ⟨c, hcur, harrival⟩ := exists_arrival_of_ne he hi
    refine .inr ?_
    rw [currentBuffer?, hcur, harrival]
    rfl

theorem anchors_redo (ha : h.Anchors live) (n : Nat) :
    (h.redo n).1.Anchors (((h.redo n).2.map (·.buffer)).getD live) :=
  anchors_arrival (entries_forth n h) ha

theorem oldest?_redo (h : History σ) (n : Nat) : (h.redo n).1.oldest? = h.oldest? := by
  simp [redo, oldest?]

theorem redo_of_canRedo_eq_false (hr : h.canRedo = false) (n : Nat) : h.redo n = (h, none) := by
  have hforth : h.forth n = h := by
    cases h with
    | empty => cases n <;> rfl
    | line before current after =>
      obtain rfl : after = [] := by simpa [canRedo] using hr
      cases n <;> rfl
  simp [redo, arrival?, hforth]

/-- With something to redo, redo moves the index. -/
theorem index?_redo_ne (hr : h.canRedo = true) : (h.redo 1).1.index? ≠ h.index? := by
  cases h with
  | empty => simp [canRedo] at hr
  | line before current after =>
    cases after with
    | nil => simp [canRedo] at hr
    | cons c after => simp [redo, forth, index?]

variable [DecidableEq σ]

theorem anchors_undo (ha : h.Anchors live) (hne : h ≠ empty) (s : σ) (n : Nat) :
    (h.undo ⟨live, s⟩ n).1.Anchors (((h.undo ⟨live, s⟩ n).2.map (·.buffer)).getD live) :=
  anchors_arrival (entries_back n _) (.inr (currentBuffer?_keepLive ha hne s))

theorem oldest?_undo {o : Checkpoint σ} (ho : h.oldest? = some o) (c : Checkpoint σ) (n : Nat) :
    (h.undo c n).1.oldest? = some o := by
  have hkeep := oldest?_keepLive ho c
  simpa [undo, oldest?] using hkeep

/-- **Undo goes back to the oldest text**: a count as large as the line brings back the text of the
oldest checkpoint, whether or not the live text had to be kept first. -/
theorem buffer_undo_of_size_le {o : Checkpoint σ} (ha : h.Anchors live) (ho : h.oldest? = some o)
    (s : σ) {n : Nat} (hn : h.size ≤ n) :
    ((h.undo ⟨live, s⟩ n).2.map (·.buffer)).getD live = o.buffer := by
  have hkept := currentBuffer?_keepLive ha (ne_empty_of_oldest? ho) s
  have hsize := size_keepLive_le h ⟨live, s⟩
  have hold := oldest?_keepLive ho ⟨live, s⟩
  unfold undo
  generalize h.keepLive ⟨live, s⟩ = kept at hkept hsize hold ⊢
  obtain ⟨i, hi⟩ := exists_index_of_currentBuffer? hkept
  have hzero : (kept.back n).index? = some 0 := by
    have hlt := lt_size_of_index? hi
    rw [index?_back, hi]
    simp only [Option.map_some, Option.some.injEq]
    omega
  have hcur : (kept.back n).current? = some o := by
    rw [← getElem?_index hzero, entries_back, ← oldest?_eq_getElem?, hold]
  have hlast := currentBuffer?_arrival (entries_back n kept) hkept
  rw [currentBuffer?, hcur] at hlast
  exact (Option.some.inj hlast).symm

/-- **Undo of an edit** goes back to the current checkpoint and keeps the edited text after it. -/
theorem undo_one_of_ne {c edited : Checkpoint σ} (hc : h.current? = some c)
    (hn : h.newestBuffer? = some c.buffer) (hne : edited.buffer ≠ c.buffer) :
    h.undo edited 1 = ((h.push edited).back 1, some c) := by
  have hnew : h.newest? ≠ some edited := fun e => hne (by simpa [newestBuffer?, e] using hn)
  have hkeep : h.keepLive edited = h.push edited := by
    simp [keepLive, hc, checkpoint_of_ne hnew, Ne.symm hne]
  cases h with
  | empty => simp [current?] at hc
  | line before current after =>
    obtain rfl := Option.some.inj hc
    simp [undo, hkeep, push, back, arrival?, index?, current?]

omit [DecidableEq σ] in
/-- Redo after it brings the edited text back. -/
theorem redo_one_back_push {c : Checkpoint σ} (hc : h.current? = some c) (edited : Checkpoint σ) :
    ((h.push edited).back 1).redo 1 = (h.push edited, some edited) := by
  cases h with
  | empty => simp [current?] at hc
  | line before current after => simp [redo, push, back, forth, arrival?, index?, current?]

end Moves

end History

end ModalEditor
