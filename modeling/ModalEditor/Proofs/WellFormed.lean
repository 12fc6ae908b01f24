import ModalEditor.Proofs.SearchStatus

/-!
# Well-formed states

A state is a record of many fields that keys set and clear one at a time. `State.WellFormed` says
how those fields go together in every state that a call answers: which parts of a half-typed command
can stand next to which, that the history has a current checkpoint, and what the outcome of the last
search can be. It holds of all of them (`Reachable.wellFormed`), since each part is kept by every
key: the half-typed command as `Control.Orderly`, the history as `Traceable` and the searches as
`Sound`.
-/

namespace ModalEditor

/-- **How the fields of a state go together.** -/
structure State.WellFormed (s : State) : Prop where
  /-- A modifier belongs to an operator that waits for a motion. -/
  modifier : s.modifier.isSome = true → s.operator.isSome = true ∧ s.mode = .normal
  /-- So does the first of two counts. -/
  operatorCount : s.operatorCount.isSome = true → s.operator.isSome = true
  /-- An operator waits for a motion, which a search may be. -/
  operator : s.operator.isSome = true → s.mode = .normal ∨ s.mode = .search
  /-- A second key is waited for where commands or motions are typed. -/
  continuation : s.continuation.isSome = true → s.mode = .normal ∨ s.mode.isVisual = true
  /-- A count is at least one. -/
  one_le_repeatCount : ∀ n ∈ s.repeatCount, 1 ≤ n
  /-- So is the count before an operator. -/
  one_le_operatorCount : ∀ n ∈ s.operatorCount, 1 ≤ n
  /-- Insert mode, and no other, is left with a step back. -/
  insertAppend : s.insertAppend = true ↔ s.mode = .insert
  /-- Where text is typed, nothing is pending. -/
  typing : s.mode = .insert ∨ s.mode = .commandLine →
    s.operator = none ∧ s.operatorCount = none ∧ s.repeatCount = none ∧ s.continuation = none
  /-- A selection has an anchor, and an operator takes it at once. -/
  visual : s.mode.isVisual = true → s.visualAnchor.isSome = true ∧ s.operator = none
  /-- There is a query in search mode only. -/
  searchQuery : s.mode ≠ .search → s.searchQuery.text = []
  /-- There is a command line in its mode only. -/
  commandQuery : s.mode ≠ .commandLine → s.commandQuery.text = []
  /-- A query is typed at its end. -/
  searchQuery_cursor : s.searchQuery.cursor = s.searchQuery.text.length
  /-- So is a command line. -/
  commandQuery_cursor : s.commandQuery.cursor = s.commandQuery.text.length
  /-- There is a checkpoint. -/
  entries_ne_nil : s.history.entries ≠ []
  /-- One of them is current. -/
  index_lt : ∃ i, s.history.index? = some i ∧ i < s.history.entries.length
  /-- There is a span just when there was a match. -/
  matchSpan : s.matchSpan.isSome = true ↔ s.matchFound = true
  /-- Only a match can have wrapped. -/
  matchWrapped : s.matchWrapped = true → s.matchFound = true

theorem History.exists_index?_lt {σ : Type} {h : History σ} (hne : h ≠ .empty) :
    ∃ i, h.index? = some i ∧ i < h.entries.length := by
  cases h with
  | empty => exact absurd rfl hne
  | line before current after =>
    have hi : (line before current after).index? = some before.length := rfl
    exact ⟨before.length, hi, length_entries _ ▸ lt_size_of_index? hi⟩

namespace Editor

/-- What is half typed is well-formed, whatever the searches have left. -/
theorem wellFormed_of_orderly {e : Editor} (hcontrol : e.control.Orderly)
    (hhistory : e.history ≠ .empty) (hsearch : e.searchStatus.Coherent) :
    e.toState.WellFormed where
  modifier := hcontrol.modifier
  operatorCount := hcontrol.operatorCount
  operator := hcontrol.operator
  continuation hk := by
    obtain ⟨k, hk⟩ := Option.isSome_iff_exists.1 hk
    exact (hcontrol.continuation k hk).imp And.left And.left
  one_le_repeatCount n hn := by
    refine Nat.one_le_iff_ne_zero.2 ?_
    rintro rfl
    exact hcontrol.repeatCount_ne_zero hn
  one_le_operatorCount n hn := by
    refine Nat.one_le_iff_ne_zero.2 ?_
    rintro rfl
    exact hcontrol.operatorCount_ne_zero hn
  insertAppend := hcontrol.insertAppend
  typing hmode := by
    have hmode : e.control.mode = .insert ∨ e.control.mode = .commandLine := hmode
    have hnormal : e.control.mode ≠ .normal := by rcases hmode with hm | hm <;> simp [hm]
    have hsearch : e.control.mode ≠ .search := by rcases hmode with hm | hm <;> simp [hm]
    have hvisual : e.control.mode.isVisual = false := by
      rcases hmode with hm | hm <;> simp [hm, Mode.isVisual]
    have hop := hcontrol.operator_eq_none hnormal hsearch
    exact ⟨hop, hcontrol.operatorCount_eq_none hop, hcontrol.typing hmode,
      hcontrol.continuation_eq_none hnormal hvisual⟩
  visual hvisual := by
    have hnormal : e.control.mode ≠ .normal := by
      rintro hm
      exact absurd (hm ▸ hvisual : Mode.isVisual .normal = true) (by simp [Mode.isVisual])
    have hsearch : e.control.mode ≠ .search := by
      rintro hm
      exact absurd (hm ▸ hvisual : Mode.isVisual .search = true) (by simp [Mode.isVisual])
    exact ⟨hcontrol.anchored hvisual, hcontrol.operator_eq_none hnormal hsearch⟩
  searchQuery hmode := congrArg LineInput.text (hcontrol.searchQuery hmode)
  commandQuery hmode := congrArg LineInput.text (hcontrol.commandQuery hmode)
  searchQuery_cursor := hcontrol.searchQuery_atEnd
  commandQuery_cursor := hcontrol.commandQuery_atEnd
  entries_ne_nil := by
    obtain ⟨i, -, hi⟩ := History.exists_index?_lt hhistory
    exact List.ne_nil_of_length_pos (Nat.lt_of_le_of_lt (Nat.zero_le i) hi)
  index_lt := History.exists_index?_lt hhistory
  matchSpan := hsearch.1
  matchWrapped := hsearch.2

/-- **Every state that a call answers is well-formed.** -/
theorem Reachable.wellFormed {b : Buffer} {e : Editor} (he : Reachable b e) :
    e.toState.WellFormed :=
  wellFormed_of_orderly he.traceable.orderly he.traceable.history_ne_empty he.sound.coherent

/-- A delete with two counts has its motion searched for, after a search that wrapped, an undo and
the end of a first call. -/
theorem Reachable.wellFormed_half_typed :
    ∃ e : Editor, Reachable ⟨['a', 'b', '\n', 'a', 'c']⟩ e ∧ e.mode = .search ∧
      e.operator = some .delete ∧ e.operatorCount = some 2 ∧ e.repeatCount = some 3 ∧
      e.searchQuery.text = ['a'] ∧ e.matchWrapped = true ∧ e.history.index? = some 1 ∧
      e.toState.WellFormed := by
  have hfirst : Reachable ⟨['a', 'b', '\n', 'a', 'c']⟩ _ :=
    .first {} [.char '/', .char 'b', .enter, .char 'n', .char 'x', .char 'u', .char '2', .char 'd']
  have hnext := hfirst.next {} [.char '3', .char '/', .char 'a']
  exact ⟨_, hnext, by decide +kernel, by decide +kernel, by decide +kernel, by decide +kernel,
    by decide +kernel, by decide +kernel, by decide +kernel, hnext.wellFormed⟩

end Editor

end ModalEditor
