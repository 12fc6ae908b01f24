import ModalEditor.Proofs.Commands
import ModalEditor.Proofs.SearchStatus

/-!
# Search errors

An error report says that the last query is no pattern. So it should stand alone: nothing is being
searched for, and no match has been found (`SearchStatus.Consistent`). Whatever a key makes of
consistent outcomes is consistent again, but for one thing: an empty query that is committed under
an error report searches for what the search register holds, and the report stays
(`Editor.Revives`). `consistent_iff` follows all calls key by key, and shows that nothing else goes
wrong.
-/

namespace ModalEditor

/-- **An error is reported alone**, without a pattern and without a match. -/
def SearchStatus.Consistent (s : SearchStatus) : Prop :=
  s.error.isSome = true → s.pattern = none ∧ s.found = false

instance (s : SearchStatus) : Decidable s.Consistent :=
  inferInstanceAs (Decidable (_ = true → _ ∧ _))

/-- A search under no error report may note anything. -/
theorem SearchStatus.consistent_of_error {s : SearchStatus} (h : s.error = none) :
    s.Consistent := by
  simp [Consistent, h]

namespace Editor

/-- All that searches have left is consistent. -/
def Consistent (e : Editor) : Prop := ∀ s ∈ e.statuses, s.Consistent

/-- **Whether a key brings a search back under an error report**: it commits an empty query that
stands for a pattern, such as the one that the search register holds. -/
def Revives (e : Editor) (settings : Settings) (key : Key) : Prop :=
  key = .enter ∧ e.mode = .search ∧ e.searchQuery.text = [] ∧ e.searchError.isSome = true ∧
    (e.patternFor settings []).isSome = true

instance (e : Editor) (settings : Settings) (key : Key) : Decidable (e.Revives settings key) :=
  inferInstanceAs (Decidable (_ ∧ _))

variable {e e' : Editor} {settings : Settings} {key : Key}

/-! ### One key -/

theorem Consistent.status (h : e.Consistent) : e.searchStatus.Consistent := h _ List.mem_cons_self

theorem Consistent.mono (h : e.Consistent) (hsub : e'.statuses ⊆ e.statuses) : e'.Consistent :=
  fun s hs => h s (hsub hs)

/-- Only the new status has to be looked at. -/
theorem Consistent.of_status (h : e.Consistent) (hs : e'.searchStatus.Consistent)
    (hsub : e'.statuses ⊆ e'.searchStatus :: e.statuses) : e'.Consistent := by
  intro s hmem
  rcases List.mem_cons.1 (hsub hmem) with rfl | hmem
  · exact hs
  · exact h s hmem

theorem Consistent.clampCursor (h : e.Consistent) : e.clampCursor.Consistent :=
  h.mono (statuses_of_eq rfl rfl)

/-- A pattern is searched for under no error report. -/
theorem Consistent.error_eq_none (h : e.Consistent) {p : SearchPattern}
    (hp : e.searchPattern = some p) : e.searchError = none := by
  cases herror : e.searchError with
  | none => rfl
  | some err =>
    have halone : e.searchPattern = none ∧ e.matchFound = false :=
      h.status (by simp [Snapshot.searchStatus, herror])
    simp [hp] at halone

/-- A committed query leaves a consistent status, unless it revives a search. -/
theorem Committed.consistent {s : SearchStatus} (hcommit : Committed settings e s)
    (h : e.Consistent) (hm : e.mode = .search) (hrevive : ¬ e.Revives settings .enter) :
    s.Consistent := by
  cases hcommit with
  | again hquery hp hit? =>
    have herror : e.searchError = none := by
      cases herror : e.searchError with
      | none => rfl
      | some err => exact absurd ⟨rfl, hm, hquery, by simp [herror], by simp [hp]⟩ hrevive
    exact SearchStatus.consistent_of_error herror
  | idle hquery hp => exact h.status
  | compiled hquery p hit? => exact SearchStatus.consistent_of_error rfl
  | malformed hquery err => exact fun _ => ⟨rfl, rfl⟩

/-- **A key leaves consistent outcomes**, unless it revives a search. -/
theorem Consistent.searchStep (h : e.Consistent) (hstep : SearchStep settings e key e')
    (hrevive : ¬ e.Revives settings key) : e'.Consistent := by
  cases hstep with
  | kept hsub => exact h.mono hsub
  | again d =>
    refine h.of_status ?_ (statuses_runSearch rfl d false)
    cases hp : e.searchPattern with
    | none =>
      rw [searchStatus_runSearch_of_none hp]
      exact h.status
    | some p =>
      rw [searchStatus_runSearch_of_some hp]
      exact SearchStatus.consistent_of_error (h.error_eq_none hp)
  | committed hm hkey =>
    subst hkey
    refine h.of_status ?_ (statuses_commitSearch e settings)
    exact (committed_commitSearch e settings).consistent h hm hrevive

/-- The outcome of a search that is revived is not consistent: the pattern stands under the
error. -/
theorem Committed.not_consistent {s : SearchStatus} (hcommit : Committed settings e s)
    (h : e.Revives settings key) : ¬ s.Consistent := by
  obtain ⟨-, -, hquery, herror, hpattern⟩ := h
  intro hconsistent
  cases hcommit with
  | again hnil hp hit? => simpa [SearchStatus.noting] using (hconsistent herror).1
  | idle hnil hp => simp [hp] at hpattern
  | compiled hne p hit? => exact hne hquery
  | malformed hne err => exact hne hquery

theorem not_consistent_of_revives (ho : e.control.Orderly) (h : e.Revives settings key) :
    ¬ (e.press settings key).editor.searchStatus.Consistent := by
  obtain rfl : key = .enter := h.1
  have hm : e.mode = .search := h.2.1
  have hk : e.continuation = none :=
    ho.continuation_eq_none (by simp [control, hm]) (congrArg Mode.isVisual hm)
  have hmode : e.modeKey settings .enter = e.commitSearch settings := by
    unfold modeKey
    rw [hm]
    rfl
  have hpress : e.press settings .enter = .done (e.commitSearch settings) := by
    simp [press, Key.isEscape, hk, hmode]
  rw [hpress]
  exact (committed_commitSearch e settings).not_consistent h

end Editor

/-! ### Keys of a call -/

namespace Stroke

/-- Whether the key brings a search back under an error report. -/
def Revives (s : Stroke) (settings : Settings) : Prop := s.met.Revives settings s.key

instance (s : Stroke) (settings : Settings) : Decidable (s.Revives settings) :=
  inferInstanceAs (Decidable (s.met.Revives settings s.key))

variable {s : Stroke} {settings : Settings}

/-- **A key of a call leaves consistent outcomes**, unless it revives a search. -/
theorem consistent_after (h : s.before.Consistent) (hrevive : ¬ s.Revives settings) :
    (s.after settings).Consistent := by
  have hmet : s.met.Consistent := by
    unfold met
    split
    · exact h.mono (Editor.statuses_capture _ _)
    · exact h
  have hstart : ({ s.met with continuation := none } : Editor).Consistent :=
    hmet.mono (Editor.statuses_of_eq rfl rfl)
  exact hstart.searchStep (Editor.searchStep_press s.met settings s.key) hrevive

theorem not_consistent_after (ho : s.before.control.Orderly) (h : s.Revives settings) :
    ¬ (s.after settings).searchStatus.Consistent := by
  refine Editor.not_consistent_of_revives ?_ h
  unfold met
  split
  · rwa [Editor.control_capture]
  · exact ho

end Stroke

/-! ### Calls in a row -/

namespace Editor

/-- **The calls that lead to an editor** from a text, with the keys that they press. The settings
may change from call to call. -/
inductive Journey (b : Buffer) : List (Settings × Stroke) → Editor → Prop where
  /-- Before the first call. -/
  | start : Journey b [] (start b)
  /-- Another call. -/
  | call {t : List (Settings × Stroke)} {e : Editor} (settings : Settings) (keys : List Key) :
    Journey b t e →
      Journey b (t ++ (e.strokes settings keys).map (settings, ·)) (e.after settings keys)

namespace Journey

variable {b : Buffer} {t : List (Settings × Stroke)}

theorem reachable (h : Journey b t e) : Reachable b e := by
  induction h with
  | start => exact .first {} []
  | call settings keys _ ih => exact ih.next settings keys

/-- Every run is a journey. -/
theorem exists_of_reachable (h : Reachable b e) : ∃ t, Journey b t e := by
  induction h with
  | first settings keys => exact ⟨_, .call settings keys .start⟩
  | next settings keys _ ih =>
    obtain ⟨t, ht⟩ := ih
    exact ⟨_, ht.call settings keys⟩

theorem orderly (h : Journey b t e) : ∀ p ∈ t, p.2.before.control.Orderly := by
  induction h with
  | start => simp
  | @call t e settings keys h ih =>
    intro p hp
    rcases List.mem_append.1 hp with hp | hp
    · exact ih p hp
    · obtain ⟨s, hs, rfl⟩ := List.mem_map.1 hp
      obtain ⟨c, hrun, -⟩ := e.run_strokes settings keys
      have hbefore : Traceable b s.before :=
        hrun.invariant (Traceable.invariant b) h.reachable.traceable s hs
      exact hbefore.orderly

/-- **A journey leaves consistent outcomes** all the way, unless one of its keys revives a
search. -/
theorem consistent (h : Journey b t e) (ht : ∀ p ∈ t, ¬ p.2.Revives p.1) :
    e.Consistent ∧ ∀ p ∈ t, (p.2.after p.1).Consistent := by
  induction h with
  | start =>
    refine ⟨?_, by simp⟩
    intro s hs
    rcases List.mem_cons.1 hs with rfl | hs
    · exact SearchStatus.consistent_of_error rfl
    · obtain rfl := List.mem_singleton.1 hs
      exact SearchStatus.consistent_of_error rfl
  | @call t e settings keys h ih =>
    obtain ⟨he, hdone⟩ := ih fun p hp => ht p (List.mem_append_left _ hp)
    obtain ⟨c, hrun, -, heditor, -⟩ := e.run_strokes settings keys
    have hkeys : ∀ s ∈ e.strokes settings keys, s.before.Consistent →
        (s.after settings).Consistent := by
      intro s hs hbefore
      have hrevive : ¬ s.Revives settings :=
        ht (settings, s) (List.mem_append_right _ (List.mem_map_of_mem hs))
      exact Stroke.consistent_after hbefore hrevive
    obtain ⟨hend, hstrokes⟩ := hrun.keeps (fun _ => Consistent.clampCursor) hkeys he
    refine ⟨heditor ▸ hend, ?_⟩
    intro p hp
    rcases List.mem_append.1 hp with hp | hp
    · exact hdone p hp
    · obtain ⟨s, hs, rfl⟩ := List.mem_map.1 hp
      exact (hstrokes s hs).2

end Journey

/-- **An error is reported alone until a search is revived under it.** Follow the keys of any calls
from a text, whatever queries, register writes, undo, redo and macros are among them: after every
one of them the search status is consistent, just when none commits an empty query that stands for a
pattern while an error is reported. Then it is consistent at the end, too. -/
theorem consistent_iff {b : Buffer} {t : List (Settings × Stroke)} (h : Journey b t e) :
    ((∀ p ∈ t, (p.2.after p.1).searchStatus.Consistent) ↔ ∀ p ∈ t, ¬ p.2.Revives p.1) ∧
      ((∀ p ∈ t, ¬ p.2.Revives p.1) → e.searchStatus.Consistent) := by
  refine ⟨⟨?_, ?_⟩, ?_⟩
  · intro hconsistent p hp hrevive
    exact Stroke.not_consistent_after (h.orderly p hp) hrevive (hconsistent p hp)
  · intro ht p hp
    exact ((h.consistent ht).2 p hp).status
  · intro ht
    exact (h.consistent ht).1.status

/-- Valid, invalid and empty queries, a yank into the search register, undo and redo. The empty
query is committed while the search register holds the invalid one. -/
theorem consistent_mixed :
    ∃ (t : List (Settings × Stroke)) (e : Editor), Journey ⟨['a', 'b', 'a']⟩ t e ∧
      (∀ p ∈ t, ¬ p.2.Revives p.1) ∧ e.searchError.isSome = true ∧
        (∀ p ∈ t, (p.2.after p.1).searchStatus.Consistent) ∧ e.searchStatus.Consistent := by
  let searches : List Key := [.char '/', .char 'b', .enter, .char 'x', .char '/', .char '(', .enter]
  let yanks : List Key := [.char '/', .enter, .char '"', .char '/', .char 'y', .char 'l', .char 'u',
    .ctrlR, .char '/', .char 'a', .enter, .char '?', .char '[', .enter, .char 'n']
  have h : Journey ⟨['a', 'b', 'a']⟩ _ _ := .call {} yanks (.call {} searches .start)
  have ht : ∀ p ∈ [] ++ ((start ⟨['a', 'b', 'a']⟩).strokes {} searches).map (({} : Settings), ·) ++
      (((start ⟨['a', 'b', 'a']⟩).after {} searches).strokes {} yanks).map (({} : Settings), ·),
      ¬ p.2.Revives p.1 := by
    decide +kernel
  exact ⟨_, _, h, ht, by decide +kernel, (consistent_iff h).1.2 ht, (consistent_iff h).2 ht⟩

/-- A malformed query is reported, a character is yanked into the search register, and an empty
query searches for it. The report stays beside the pattern and its match. -/
theorem error_beside_match :
    ∃ e : Editor, Reachable ⟨['a']⟩ e ∧ e.searchError.isSome = true ∧
      e.searchPattern.isSome = true ∧ e.matchFound = true ∧ ¬ e.searchStatus.Consistent := by
  have he : Reachable ⟨['a']⟩ _ := .first {} [.char '/', .char '(', .enter, .char '"', .char '/',
    .char 'y', .char 'l', .char '/', .enter]
  exact ⟨_, he, by decide +kernel⟩

end Editor

end ModalEditor
