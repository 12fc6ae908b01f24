import ModalEditor.Proofs.Calls
import ModalEditor.Proofs.Reachable

/-!
# What searches have left

The outcome of the last search is part of every checkpoint, so undo and redo bring back older ones.
`Editor.statuses` lists all that can come back: that of the editor and those of its checkpoints.
A key that searches adds its own outcome, and every other key only picks among them (`SearchStep`).
So whatever searches establish holds of all of them (`Sound`): there is a span just when there was a
match, and only a match can have wrapped.
-/

namespace ModalEditor

/-- What the last search has left. -/
structure SearchStatus where
  /-- What is searched for. -/
  pattern : Option SearchPattern
  /-- Why the last query is no pattern. -/
  error : Option PatternError
  /-- Whether there was a match. -/
  found : Bool
  /-- Whether the search started over from the other edge. -/
  wrapped : Bool
  /-- Where the match is. -/
  span : Option Span

/-- There is a span just when there was a match, and only a match can have wrapped. -/
def SearchStatus.Coherent (s : SearchStatus) : Prop :=
  (s.span.isSome = true ↔ s.found = true) ∧ (s.wrapped = true → s.found = true)

/-- The status after a search, with the match if there was one. -/
def SearchStatus.noting (s : SearchStatus) (hit? : Option SearchHit) : SearchStatus :=
  { s with
    found := hit?.isSome
    wrapped := hit?.any (·.wrapped)
    span := hit?.map (·.span) }

theorem SearchStatus.coherent_noting (s : SearchStatus) (hit? : Option SearchHit) :
    (s.noting hit?).Coherent := by
  cases hit? <;> simp [noting, Coherent]

/-- The part of a snapshot that searches write. -/
def Snapshot.searchStatus (v : Snapshot) : SearchStatus :=
  ⟨v.searchPattern, v.searchError, v.matchFound, v.matchWrapped, v.matchSpan⟩

namespace History

variable {σ : Type}

/-- What a move along the line arrives at is on it. -/
theorem mem_entries_of_arrival? {h h' : History σ} {c : Checkpoint σ}
    (hc : h.arrival? h' = some c) : c ∈ h'.entries := by
  unfold arrival? at hc
  split at hc
  · simp at hc
  · cases h' with
    | empty => simp [current?] at hc
    | line before current after =>
      obtain rfl := Option.some.inj hc
      simp [entries]

variable [DecidableEq σ]

/-- A checkpoint adds at most itself to the line. -/
theorem entries_checkpoint_subset (h : History σ) (c : Checkpoint σ) :
    (h.checkpoint c).entries ⊆ c :: h.entries := by
  intro x hx
  unfold checkpoint at hx
  split at hx
  · exact List.mem_cons_of_mem _ hx
  · cases h with
    | empty => simpa [entries] using hx
    | line before current after =>
      simp only [entries, List.reverse_cons, List.append_assoc, List.mem_append, List.mem_reverse,
        List.mem_cons, List.not_mem_nil, or_false] at hx ⊢
      rcases hx with hx | hx | hx
      · exact .inr (.inl hx)
      · exact .inr (.inr (.inl hx))
      · exact .inl hx

/-- Undo leads to a checkpoint of the line, to which it adds at most the live state. -/
theorem entries_undo_subset (h : History σ) (live : Checkpoint σ) (count : Nat) :
    (h.undo live count).1.entries ⊆ live :: h.entries := by
  unfold undo keepLive
  simp only [entries_back]
  split
  · split
    · exact List.subset_cons_self _ _
    · exact entries_checkpoint_subset h live
  · exact List.subset_cons_self _ _

end History

namespace Editor

/-- What the last search has left, and what undo and redo could bring back of earlier ones. -/
def statuses (e : Editor) : List SearchStatus :=
  e.searchStatus :: e.history.entries.map (·.snapshot.searchStatus)

/-- **All that searches have left is coherent.** -/
def Sound (e : Editor) : Prop := ∀ s ∈ e.statuses, s.Coherent

variable {e e' : Editor}

theorem Sound.mono (h : e.Sound) (hsub : e'.statuses ⊆ e.statuses) : e'.Sound :=
  fun s hs => h s (hsub hs)

/-! ### Keys that search nothing -/

/-- A key that leaves searches and checkpoints alone. -/
theorem statuses_of_eq (hs : e'.searchStatus = e.searchStatus) (hh : e'.history = e.history) :
    e'.statuses ⊆ e.statuses := by
  unfold statuses
  rw [hs, hh]
  exact fun _ h => h

theorem statuses_of_checkpoint {b : Buffer} {v : Snapshot}
    (hh : e'.history = e.history.checkpoint ⟨b, v⟩) (hs : e'.searchStatus = e.searchStatus)
    (hv : v.searchStatus = e.searchStatus) : e'.statuses ⊆ e.statuses := by
  intro s hmem
  unfold statuses at hmem ⊢
  rw [hs, hh, List.mem_cons, List.mem_map] at hmem
  rcases hmem with rfl | ⟨c, hc, rfl⟩
  · exact List.mem_cons_self
  · rcases List.mem_cons.1 (History.entries_checkpoint_subset _ _ hc) with rfl | hc
    · exact hv ▸ List.mem_cons_self
    · exact List.mem_cons_of_mem _ (List.mem_map_of_mem hc)

theorem statuses_applyRange (e : Editor) (source target : Nat) :
    (e.applyRange source target).statuses ⊆ e.statuses := by
  unfold applyRange
  cases e.operator with
  | none => exact statuses_of_eq rfl rfl
  | some op =>
    cases op with
    | delete => exact statuses_of_checkpoint rfl rfl rfl
    | change => exact statuses_of_checkpoint rfl rfl rfl
    | yank =>
      dsimp only
      split
      · exact statuses_of_checkpoint rfl rfl rfl
      · exact statuses_of_checkpoint rfl rfl rfl

theorem statuses_applyRows (e : Editor) (first last : Nat) :
    (e.applyRows first last).statuses ⊆ e.statuses := by
  unfold applyRows
  cases e.operator with
  | none => exact statuses_of_eq rfl rfl
  | some op =>
    cases op with
    | delete => exact statuses_of_checkpoint rfl rfl rfl
    | change => exact statuses_of_checkpoint rfl rfl rfl
    | yank => exact statuses_of_checkpoint rfl rfl rfl

theorem statuses_applyBlock (e : Editor) (top bottom left right : Nat) :
    (e.applyBlock top bottom left right).statuses ⊆ e.statuses := by
  unfold applyBlock
  cases e.operator with
  | none => exact statuses_of_eq rfl rfl
  | some op =>
    cases op with
    | delete => exact statuses_of_checkpoint rfl rfl rfl
    | change => exact statuses_of_checkpoint rfl rfl rfl
    | yank => exact statuses_of_checkpoint rfl rfl rfl

theorem statuses_reach (e : Editor) (target : Target) :
    (e.reach target).statuses ⊆ e.statuses := by
  cases target with
  | char offset inclusive => exact statuses_applyRange e.dropCounts _ _
  | line row offset =>
    unfold reach
    dsimp only
    split
    · exact statuses_applyRows e.dropCounts _ _
    · exact statuses_of_eq rfl rfl

theorem statuses_reachOr (e : Editor) (target? : Option Target) :
    (e.reachOr target?).statuses ⊆ e.statuses := by
  cases target? with
  | none => exact statuses_of_eq rfl rfl
  | some target => exact statuses_reach e target

theorem statuses_jump (e : Editor) (j : Jump) (again : Bool) :
    (e.jump j again).statuses ⊆ e.statuses := by
  unfold jump
  dsimp only
  split
  · exact statuses_reach e _
  · exact statuses_of_eq rfl rfl

theorem statuses_repeatJump (e : Editor) (reverse : Bool) :
    (e.repeatJump reverse).statuses ⊆ e.statuses := by
  unfold repeatJump
  split
  · exact statuses_jump e _ true
  · exact statuses_of_eq rfl rfl

theorem statuses_insertKey (e : Editor) (key : Key) :
    (e.insertKey key).statuses ⊆ e.statuses := by
  cases key with
  | backspace =>
    unfold insertKey eraseBack unrecordTyped
    dsimp only
    split
    · exact statuses_of_eq rfl rfl
    · split
      · exact statuses_of_eq rfl rfl
      · exact statuses_of_eq rfl rfl
  | _ => exact statuses_of_eq rfl rfl

theorem statuses_toggleVisual (e : Editor) (kind : VisualKind) :
    (e.toggleVisual kind).statuses ⊆ e.statuses := by
  unfold toggleVisual
  dsimp only
  split
  · exact statuses_of_eq rfl rfl
  · exact statuses_of_eq rfl rfl

theorem statuses_operateOnSelection (e : Editor) (kind : VisualKind) (op : Operator) :
    (e.operateOnSelection kind op).statuses ⊆ e.statuses := by
  unfold operateOnSelection
  cases kind with
  | char => exact statuses_applyRange _ _ _
  | line => exact statuses_applyRows _ _ _
  | block => exact statuses_applyBlock _ _ _ _ _

theorem statuses_operatorKey (e : Editor) (op : Operator) :
    (e.operatorKey op).statuses ⊆ e.statuses := by
  unfold operatorKey
  split
  · exact statuses_applyRows e.dropCounts _ _
  · exact statuses_of_eq rfl rfl

theorem statuses_toggleRecording (e : Editor) : e.toggleRecording.statuses ⊆ e.statuses := by
  unfold toggleRecording
  dsimp only
  split
  · exact statuses_of_eq rfl rfl
  · exact statuses_of_eq rfl rfl

theorem statuses_startInsert (e : Editor) : e.startInsert.statuses ⊆ e.statuses :=
  statuses_of_checkpoint rfl rfl rfl

theorem statuses_openRow (e : Editor) (below : Bool) :
    (e.openRow below).statuses ⊆ e.statuses := by
  cases below with
  | true => exact statuses_of_checkpoint rfl rfl rfl
  | false => exact statuses_of_checkpoint rfl rfl rfl

theorem statuses_deleteUnder (e : Editor) : e.deleteUnder.statuses ⊆ e.statuses := by
  unfold deleteUnder removeChars
  dsimp only
  split
  · exact statuses_of_eq rfl rfl
  · exact statuses_of_checkpoint rfl rfl rfl

theorem statuses_deleteBefore (e : Editor) : e.deleteBefore.statuses ⊆ e.statuses := by
  unfold deleteBefore removeChars
  dsimp only
  split
  · exact statuses_of_eq rfl rfl
  · exact statuses_of_checkpoint rfl rfl rfl

theorem statuses_replaceChars (e : Editor) (c : Char) :
    (e.replaceChars c).statuses ⊆ e.statuses := by
  unfold replaceChars
  dsimp only
  split
  · exact statuses_of_eq rfl rfl
  · exact statuses_of_checkpoint rfl rfl rfl

theorem statuses_put (e : Editor) (after : Bool) : (e.put after).statuses ⊆ e.statuses := by
  unfold put
  dsimp only
  split
  · exact statuses_of_eq rfl rfl
  · split
    · unfold putRows
      dsimp only
      split
      · exact statuses_of_checkpoint rfl rfl rfl
      · split
        · exact statuses_of_checkpoint rfl rfl rfl
        · exact statuses_of_checkpoint rfl rfl rfl
    · exact statuses_of_checkpoint rfl rfl rfl

/-! ### Undo and redo -/

/-- To go to a checkpoint of a line brings back what it has kept. -/
theorem statuses_goTo {h : History Snapshot} {c? : Option (Checkpoint Snapshot)}
    (hline : ∀ c ∈ h.entries, c.snapshot.searchStatus ∈ e.statuses)
    (harrive : ∀ c, c? = some c → c ∈ h.entries) :
    (e.dropCounts.goTo h c?).statuses ⊆ e.statuses := by
  intro s hs
  unfold statuses at hs
  rw [history_goTo, List.mem_cons, List.mem_map] at hs
  rcases hs with rfl | ⟨c, hc, rfl⟩
  · cases c? with
    | none => exact List.mem_cons_self
    | some c => exact hline c (harrive c rfl)
  · exact hline c hc

theorem statuses_undo (e : Editor) : e.undo.statuses ⊆ e.statuses := by
  refine statuses_goTo (fun c hc => ?_) fun c hc => History.mem_entries_of_arrival? hc
  rcases List.mem_cons.1 (History.entries_undo_subset _ _ _ hc) with rfl | hc
  · exact List.mem_cons_self
  · exact List.mem_cons_of_mem _ (List.mem_map_of_mem hc)

theorem statuses_redo (e : Editor) : e.redo.statuses ⊆ e.statuses := by
  refine statuses_goTo (fun c hc => ?_) fun c hc => History.mem_entries_of_arrival? hc
  simp only [History.entries_forth] at hc
  exact List.mem_cons_of_mem _ (List.mem_map_of_mem hc)

/-! ### Searches -/

/-- A new status over the same line of checkpoints is all that is added. -/
theorem statuses_of_history (hh : e'.history = e.history) :
    e'.statuses ⊆ e'.searchStatus :: e.statuses := by
  intro s hs
  rw [statuses, List.mem_cons, hh] at hs
  rcases hs with rfl | hs
  · exact List.mem_cons_self
  · exact List.mem_cons_of_mem _ (List.mem_cons_of_mem _ hs)

theorem searchStatus_applyRange (e : Editor) (source target : Nat) :
    (e.applyRange source target).searchStatus = e.searchStatus := by
  unfold applyRange
  cases e.operator with
  | none => rfl
  | some op =>
    cases op with
    | delete => rfl
    | change => rfl
    | yank =>
      dsimp only
      split <;> rfl

theorem searchStatus_applyRows (e : Editor) (first last : Nat) :
    (e.applyRows first last).searchStatus = e.searchStatus := by
  unfold applyRows
  cases e.operator with
  | none => rfl
  | some op => cases op <;> rfl

theorem searchStatus_reach (e : Editor) (target : Target) :
    (e.reach target).searchStatus = e.searchStatus := by
  cases target with
  | char offset inclusive => exact searchStatus_applyRange e.dropCounts _ _
  | line row offset =>
    unfold reach
    dsimp only
    split
    · exact searchStatus_applyRows e.dropCounts _ _
    · rfl

theorem statuses_reach_of_history (hh : e'.history = e.history) (target : Target) :
    (e'.reach target).statuses ⊆ (e'.reach target).searchStatus :: e.statuses := by
  rw [searchStatus_reach]
  exact List.Subset.trans (statuses_reach e' target) (statuses_of_history hh)

/-- **A search adds no more than its own outcome** to what a line of checkpoints has kept. -/
theorem statuses_runSearch (hh : e'.history = e.history) (d : Direction) (first : Bool) :
    (e'.runSearch d first).statuses ⊆ (e'.runSearch d first).searchStatus :: e.statuses := by
  cases hp : e'.searchPattern with
  | none =>
    rw [runSearch_of_none hp]
    exact statuses_of_history hh
  | some p =>
    rw [runSearch_of_some hp]
    cases e'.searchHit? p d first with
    | some hit =>
      refine statuses_reach_of_history ?_ _
      exact hh
    | none => exact statuses_of_history hh

/-- **So does a committed query.** -/
theorem statuses_commitSearch (e : Editor) (settings : Settings) :
    (e.commitSearch settings).statuses ⊆ (e.commitSearch settings).searchStatus :: e.statuses := by
  have hrecall := reminded_recallPattern { e with mode := .normal, searchQuery := {} } settings
  unfold commitSearch searchFor
  dsimp only
  split
  · exact statuses_runSearch hrecall.history _ false
  · split
    · refine statuses_runSearch ?_ _ true
      rfl
    · exact statuses_of_history rfl

theorem searchStatus_runSearch_of_none (h : e.searchPattern = none) (d : Direction) (first : Bool) :
    (e.runSearch d first).searchStatus = e.searchStatus := by
  rw [runSearch_of_none h]
  rfl

theorem searchStatus_runSearch_of_some {p : SearchPattern} (h : e.searchPattern = some p)
    (d : Direction) (first : Bool) :
    (e.runSearch d first).searchStatus = e.searchStatus.noting (e.searchHit? p d first) := by
  rw [runSearch_of_some h]
  cases e.searchHit? p d first with
  | some hit => exact searchStatus_reach _ _
  | none => rfl

theorem searchStatus_recallPattern (e : Editor) (settings : Settings) :
    (e.recallPattern settings).searchStatus =
      { e.searchStatus with pattern := e.patternFor settings [] } := by
  have hpattern := searchPattern_recallPattern e settings
  rw [← hpattern]
  unfold recallPattern
  dsimp only
  split
  · rfl
  · split <;> rfl

/-- **What a committed query leaves.** -/
inductive Committed (settings : Settings) (e : Editor) : SearchStatus → Prop where
  /-- An empty query searches for what it stands for. -/
  | again (hquery : e.searchQuery.text = []) {p : SearchPattern}
    (hp : e.patternFor settings [] = some p) (hit? : Option SearchHit) :
    Committed settings e ({ e.searchStatus with pattern := some p }.noting hit?)
  /-- It notes nothing if it stands for none. -/
  | idle (hquery : e.searchQuery.text = []) (hp : e.patternFor settings [] = none) :
    Committed settings e e.searchStatus
  /-- A query that is a pattern is searched for. -/
  | compiled (hquery : e.searchQuery.text ≠ []) (p : SearchPattern) (hit? : Option SearchHit) :
    Committed settings e ({ e.searchStatus with pattern := some p, error := none }.noting hit?)
  /-- A query that is no pattern takes the place of the last. -/
  | malformed (hquery : e.searchQuery.text ≠ []) (err : PatternError) :
    Committed settings e ⟨none, some err, false, false, none⟩

theorem committed_commitSearch (e : Editor) (settings : Settings) :
    Committed settings e (e.commitSearch settings).searchStatus := by
  let e₁ : Editor := { e with mode := .normal, searchQuery := {} }
  unfold commitSearch
  dsimp only
  split
  · rename_i hquery
    have hnil : e.searchQuery.text = [] := by simpa using hquery
    have hpattern := searchPattern_recallPattern e₁ settings
    have hstatus := searchStatus_recallPattern e₁ settings
    show Committed settings e ((e₁.recallPattern settings).runSearch _ false).searchStatus
    cases hp : e₁.patternFor settings [] with
    | none =>
      rw [hp] at hpattern hstatus
      have hnone : e.searchPattern = none := by
        cases hsome : e.searchPattern with
        | none => rfl
        | some p => simp [patternFor, e₁, hsome] at hp
      rw [searchStatus_runSearch_of_none hpattern, hstatus, ← hnone]
      exact .idle hnil hp
    | some p =>
      rw [hp] at hpattern hstatus
      rw [searchStatus_runSearch_of_some hpattern, hstatus]
      exact .again hnil hp _
  · rename_i hquery
    have hne : e.searchQuery.text ≠ [] := by simpa using hquery
    unfold searchFor
    dsimp only
    split
    · rw [searchStatus_runSearch_of_some rfl]
      exact .compiled hne _ _
    · exact .malformed hne _

/-! ### Any key -/

/-- **What a key does to what searches have left.** -/
inductive SearchStep (settings : Settings) (e : Editor) (key : Key) : Editor → Prop where
  /-- It picks among them. -/
  | kept {e' : Editor} (h : e'.statuses ⊆ e.statuses) : SearchStep settings e key e'
  /-- It repeats the last search. -/
  | again (d : Direction) : SearchStep settings e key (e.runSearch d false)
  /-- It commits a query. -/
  | committed (hm : e.mode = .search) (hkey : key = .enter) :
    SearchStep settings e key (e.commitSearch settings)

namespace SearchStep

variable {settings : Settings}

theorem of_motionKey? {c : Char} (hm : e.motionKey? c = some e') :
    SearchStep settings e (.char c) e' := by
  unfold motionKey? at hm
  split at hm
  case h_6 | h_7 =>
    obtain rfl := Option.some.inj hm
    exact .kept (statuses_reachOr e _)
  case h_15 | h_16 | h_17 | h_18 | h_21 | h_22 | h_23 | h_24 =>
    obtain rfl := Option.some.inj hm
    exact .kept (statuses_of_eq rfl rfl)
  case h_19 | h_20 =>
    obtain rfl := Option.some.inj hm
    exact .kept (statuses_repeatJump e _)
  case h_25 | h_26 =>
    obtain rfl := Option.some.inj hm
    exact .again _
  case h_27 => simp at hm
  all_goals
    obtain rfl := Option.some.inj hm
    exact .kept (statuses_reach e _)

theorem visualKey (e : Editor) (kind : VisualKind) (key : Key) :
    SearchStep settings e key (e.visualKey kind key) := by
  have same : SearchStep settings e key e := .kept (List.Subset.refl _)
  cases key with
  | ctrlV => exact .kept (statuses_toggleVisual e .block)
  | char c =>
    unfold Editor.visualKey
    dsimp only
    split
    case h_1 | h_2 => exact .kept (statuses_toggleVisual e _)
    case h_3 | h_4 | h_5 | h_6 => exact .kept (statuses_operateOnSelection e kind _)
    case h_7 => exact .kept (statuses_of_eq rfl rfl)
    case h_8 =>
      cases hmotion : e.motionKey? c with
      | none => exact same
      | some e' => exact of_motionKey? hmotion
  | _ => exact same

theorem commandKey (e : Editor) (c : Char) :
    SearchStep settings e (.char c) (e.commandKey c) := by
  have insert {e' : Editor} (h : e'.statuses ⊆ e.startInsert.statuses) :
      SearchStep settings e (.char c) e' :=
    .kept (List.Subset.trans h (statuses_startInsert e))
  unfold Editor.commandKey
  split
  case h_1 => exact insert (List.Subset.refl _)
  case h_2 =>
    dsimp only
    split
    · exact insert (List.Subset.refl _)
    · exact insert (statuses_of_eq rfl rfl)
  case h_3 | h_4 => exact insert (statuses_reach _ _)
  case h_5 | h_6 => exact .kept (statuses_reach { e with operator := some _ } _)
  case h_7 | h_8 => exact .kept (statuses_openRow e _)
  case h_9 => exact .kept (statuses_deleteUnder e)
  case h_10 => exact .kept (statuses_deleteBefore e)
  case h_11 | h_12 => exact .kept (statuses_put e _)
  case h_15 => exact .kept (statuses_toggleRecording e)
  case h_17 => exact .kept (statuses_undo e)
  case h_18 | h_19 => exact .kept (statuses_toggleVisual e _)
  all_goals exact .kept (statuses_of_eq rfl rfl)

theorem normalChar (e : Editor) (c : Char) :
    SearchStep settings e (.char c) (e.normalChar c) := by
  have pending {e' : Editor} (hs : e'.searchStatus = e.searchStatus)
      (hh : e'.history = e.history) : SearchStep settings e (.char c) e' :=
    .kept (statuses_of_eq hs hh)
  unfold Editor.normalChar
  split
  · rename_i hmotion
    exact of_motionKey? hmotion
  · split
    · exact .kept (statuses_operatorKey e _)
    · split
      · exact pending rfl rfl
      · split
        · exact pending rfl rfl
        · split
          · exact pending rfl rfl
          · split
            · exact pending rfl rfl
            · exact commandKey e c

theorem searchKey (hm : e.mode = .search) (key : Key) :
    SearchStep settings e key (e.searchKey settings key) := by
  cases key with
  | enter => exact .committed hm rfl
  | _ => exact .kept (statuses_of_eq rfl rfl)

theorem modeKey (e : Editor) (key : Key) :
    SearchStep settings e key (e.modeKey settings key) := by
  unfold Editor.modeKey
  split
  · exact .kept (statuses_insertKey e key)
  · cases key <;> exact .kept (statuses_of_eq rfl rfl)
  · rename_i hm
    exact searchKey hm key
  · split
    · exact .kept (statuses_of_eq rfl rfl)
    · cases key with
      | char c => exact normalChar e c
      | ctrlR => exact .kept (statuses_redo e)
      | ctrlV => exact .kept (statuses_toggleVisual e .block)
      | _ => exact .kept (List.Subset.refl _)
  · split
    · exact .kept (statuses_of_eq rfl rfl)
    · exact visualKey e _ key

end SearchStep

/-- The second key of a command picks among what searches have left. -/
theorem statuses_continueWith (e : Editor) (k : Continuation) (c : Char) :
    (e.continueWith k c).editor.statuses ⊆ e.statuses := by
  cases k with
  | findChar d => exact statuses_jump { e with lastJump := _ } _ false
  | toChar d => exact statuses_jump { e with lastJump := _ } _ false
  | replaceChar => exact statuses_replaceChars e c
  | jumpToMark =>
    change (e.jumpToMark c).statuses ⊆ e.statuses
    unfold jumpToMark
    split
    · exact statuses_reach e _
    · exact List.Subset.refl _
  | startPlayback =>
    change (e.startPlayback c).editor.statuses ⊆ e.statuses
    unfold startPlayback
    dsimp only
    split
    · exact List.Subset.refl _
    · split
      · exact statuses_of_eq rfl rfl
      · exact statuses_of_eq rfl rfl
  | gotoPrefix => exact statuses_reach e e.topTarget
  | _ => exact statuses_of_eq rfl rfl

/-- **What any key does to what searches have left.** -/
theorem searchStep_press (e : Editor) (settings : Settings) (key : Key) :
    SearchStep settings { e with continuation := none } key (e.press settings key).editor := by
  unfold press
  split
  · exact .kept (statuses_of_eq rfl rfl)
  · split
    · rename_i hk
      rw [continued_of_none hk]
      exact .modeKey e key
    · rename_i k _
      dsimp only
      split
      · exact .modeKey _ key
      · cases key with
        | char c => exact .kept (statuses_continueWith _ k c)
        | _ => exact .kept (List.Subset.refl _)

theorem statuses_capture (e : Editor) (key : Key) : (e.capture key).statuses ⊆ e.statuses := by
  unfold capture
  split
  · exact statuses_of_eq rfl rfl
  · exact List.Subset.refl _

/-! ### Coherence -/

theorem Sound.coherent (h : e.Sound) : e.searchStatus.Coherent := h _ List.mem_cons_self

theorem Sound.of_coherent (h : e.Sound) (hc : e'.searchStatus.Coherent)
    (hsub : e'.statuses ⊆ e'.searchStatus :: e.statuses) : e'.Sound := by
  intro s hs
  rcases List.mem_cons.1 (hsub hs) with rfl | hs
  · exact hc
  · exact h s hs

theorem Committed.coherent {settings : Settings} {s : SearchStatus} (h : Committed settings e s)
    (hc : e.searchStatus.Coherent) : s.Coherent := by
  cases h with
  | again hquery hp hit? => exact SearchStatus.coherent_noting _ hit?
  | idle hquery hp => exact hc
  | compiled hquery p hit? => exact SearchStatus.coherent_noting _ hit?
  | malformed hquery err => simp [SearchStatus.Coherent]

/-- **Whatever searches note is coherent.** -/
theorem Sound.searchStep {settings : Settings} {key : Key} (h : e.Sound)
    (hstep : SearchStep settings e key e') : e'.Sound := by
  cases hstep with
  | kept hsub => exact h.mono hsub
  | again d =>
    refine h.of_coherent ?_ (statuses_runSearch rfl d false)
    cases hp : e.searchPattern with
    | none =>
      rw [searchStatus_runSearch_of_none hp]
      exact h.coherent
    | some p =>
      rw [searchStatus_runSearch_of_some hp]
      exact SearchStatus.coherent_noting _ _
  | committed hm hkey =>
    refine h.of_coherent ?_ (statuses_commitSearch e settings)
    exact (committed_commitSearch e settings).coherent h.coherent

/-- Whatever a key does, it leaves what searches have left coherent. -/
theorem Sound.press (h : e.Sound) (settings : Settings) (key : Key) :
    (e.press settings key).editor.Sound := by
  have h₁ : ({ e with continuation := none } : Editor).Sound := h.mono (statuses_of_eq rfl rfl)
  exact h₁.searchStep (searchStep_press e settings key)

theorem Sound.invariant : Invariant Sound where
  capture key h := h.mono (statuses_capture _ key)
  clampCursor h := h.mono (statuses_of_eq rfl rfl)
  done {e e' settings key} h hpress := by
    have hkey := h.press settings key
    rwa [hpress] at hkey
  play {e e' settings key keys times} h hpress := by
    have hkey := h.press settings key
    rwa [hpress] at hkey

theorem Sound.start (b : Buffer) : (start b).Sound := by
  have hnone : SearchStatus.Coherent ⟨none, none, false, false, none⟩ := by
    simp [SearchStatus.Coherent]
  intro s hs
  rcases List.mem_cons.1 hs with rfl | hs
  · exact hnone
  · obtain rfl := List.mem_singleton.1 hs
    exact hnone

/-- **Every reachable editor is sound.** -/
theorem Reachable.sound {b : Buffer} (he : Reachable b e) : e.Sound :=
  Sound.invariant.reachable (Sound.start b) he

end Editor

end ModalEditor
