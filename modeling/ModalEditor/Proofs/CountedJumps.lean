import ModalEditor.Proofs.CarriedCursor

/-!
# Counted jumps

A counted jump goes to the occurrence that the count says; pressed again, the jump goes from one
occurrence to the next, and looks for it from where it stopped. That may be next to the occurrence
it has found, so one place is skipped then. Seen from there the occurrences are those that come
after the one that was found (`Jump.candidates_landing`): to repeat the jump is to drop the first of
them, and to count is to drop all but the last (`Editor.Idle.after_again`).
-/

namespace ModalEditor

namespace Jump

/-- One column is before another on the way of a jump. -/
def Onward (j : Jump) (col col' : Nat) : Prop :=
  match j.direction with
  | .forward => col < col'
  | .backward => col' < col

instance (j : Jump) (col col' : Nat) : Decidable (j.Onward col col') :=
  match j with
  | ⟨_, _, .forward⟩ => inferInstanceAs (Decidable (col < col'))
  | ⟨_, _, .backward⟩ => inferInstanceAs (Decidable (col' < col))

/-- The occurrences in the row, in the order in which the jump comes to them. -/
def inOrder (j : Jump) (row : Text) : List Nat :=
  match j.direction with
  | .forward => columnsOf row j.target
  | .backward => (columnsOf row j.target).reverse

variable {j : Jump} {row : Text} {col col' c : Nat}

theorem Onward.trans {col'' : Nat} (h : j.Onward col col') (h' : j.Onward col' col'') :
    j.Onward col col'' := by
  obtain ⟨target, kind, direction⟩ := j
  cases direction with
  | forward => exact Nat.lt_trans h h'
  | backward => exact Nat.lt_trans h' h

theorem Onward.not_onward (h : j.Onward col col') : ¬ j.Onward col' col := by
  obtain ⟨target, kind, direction⟩ := j
  cases direction with
  | forward => exact Nat.lt_asymm h
  | backward => exact Nat.lt_asymm h

theorem pairwise_inOrder (j : Jump) (row : Text) : (j.inOrder row).Pairwise j.Onward := by
  have hcolumns : (columnsOf row j.target).Pairwise (· < ·) := by
    rw [Checked.columnsOf_eq]
    exact List.pairwise_lt_range.filter _
  obtain ⟨target, kind, direction⟩ := j
  cases direction with
  | forward => exact hcolumns
  | backward => exact List.pairwise_reverse.2 hcolumns

/-- The occurrences that a jump can lead to are those on its way. -/
theorem candidates_eq (j : Jump) (row : Text) (col : Nat) :
    j.candidates row col 0 = (j.inOrder row).filter fun i => j.Onward col i := by
  obtain ⟨target, kind, direction⟩ := j
  cases direction with
  | forward => rfl
  | backward => exact List.filter_reverse.symm

theorem pairwise_candidates (j : Jump) (row : Text) (col : Nat) :
    (j.candidates row col 0).Pairwise j.Onward := by
  rw [candidates_eq]
  exact (pairwise_inOrder j row).filter _

theorem onward_of_mem_candidates (h : c ∈ j.candidates row col 0) : j.Onward col c := by
  rw [candidates_eq] at h
  simpa using (List.mem_filter.1 h).2

/-- From where it stops at an occurrence, the jump sees those on its way from the occurrence. -/
theorem candidates_skip (h : j.Onward col c) :
    j.candidates row (j.landing c) (j.skip true) =
      (j.inOrder row).filter fun i => j.Onward c i := by
  obtain ⟨target, kind, direction⟩ := j
  cases kind <;> cases direction
  case find.forward => rfl
  case find.backward => exact List.filter_reverse.symm
  case till.forward =>
    have hpos : c - 1 + 1 = c := Nat.sub_add_cancel (Nat.zero_lt_of_lt h)
    show (columnsOf row target).filter (c - 1 + 1 < ·) = _
    rw [hpos]
    rfl
  case till.backward => exact List.filter_reverse.symm

variable {before rest : List Nat}

/-- **From where a jump stops at an occurrence, those after it are left.** -/
theorem candidates_landing (h : j.candidates row col 0 = before ++ c :: rest) :
    j.candidates row (j.landing c) (j.skip true) = rest := by
  have hmem : c ∈ j.candidates row col 0 := by simp [h]
  have hc := onward_of_mem_candidates hmem
  have hsorted : (before ++ c :: rest).Pairwise j.Onward := h ▸ pairwise_candidates j row col
  have hlater : (j.inOrder row).filter (fun i => j.Onward c i) =
      (j.candidates row col 0).filter fun i => j.Onward c i := by
    rw [candidates_eq, List.filter_filter]
    refine List.filter_congr fun i _ => ?_
    by_cases hi : j.Onward c i
    · simp [hi, hc.trans hi]
    · simp [hi]
  obtain ⟨-, hrest, hbefore⟩ := List.pairwise_append.1 hsorted
  have hearlier : before.filter (fun i => j.Onward c i) = [] := by
    refine List.filter_eq_nil_iff.2 fun i hi => ?_
    simpa using (hbefore i hi c List.mem_cons_self).not_onward
  have hself : ¬ j.Onward c c := fun honward => honward.not_onward honward
  have hkept : rest.filter (fun i => j.Onward c i) = rest :=
    List.filter_eq_self.2 fun i hi => by simpa using List.rel_of_pairwise_cons hrest hi
  rw [candidates_skip hc, hlater, h, List.filter_append, hearlier,
    List.filter_cons_of_neg (by simpa), hkept]
  rfl

theorem landing_lt_length (h : c ∈ j.candidates row col 0) (hcol : col < row.length) :
    j.landing c < row.length := by
  have hbounds := Checked.bounds_of_mem_candidates h
  obtain ⟨target, kind, direction⟩ := j
  cases kind <;> cases direction <;> dsimp only [landing] at hbounds ⊢ <;> omega

/-- At further occurrences the jump stops further on. -/
theorem Onward.landing {c' : Nat} (h : j.Onward col c) (h' : j.Onward c c') :
    j.Onward (j.landing c) (j.landing c') := by
  obtain ⟨target, kind, direction⟩ := j
  cases kind <;> cases direction <;> dsimp only [Onward, Jump.landing] at h h' ⊢ <;> omega

/-- There are fewer occurrences than columns, but for those of an empty row. -/
theorem occurrences_lt (j : Jump) (hcol : col < row.length ∨ col = 0) {k : Nat} (hk : 0 < k)
    (hrow : row.length ≤ k) : j.occurrences row col 0 < k := by
  have hdrop : (row.drop (col + 0 + 1)).count j.target ≤ row.length - (col + 0 + 1) := by
    rw [← List.length_drop]
    exact List.count_le_length
  have htake : (row.take (col - 0)).count j.target ≤ min (col - 0) row.length := by
    rw [← List.length_take]
    exact List.count_le_length
  obtain ⟨target, kind, direction⟩ := j
  cases direction <;> dsimp only [occurrences] at hdrop htake ⊢ <;> omega

end Jump

namespace Editor

variable {e : Editor} {j : Jump} {settings : Settings} {c : Nat}

/-- A jump is remembered, and has stopped at an occurrence in the row of the cursor. -/
def jumpedTo (e : Editor) (j : Jump) (c : Nat) : Editor :=
  ({ e with lastJump := some j } : Editor).carriedTo (e.buffer.rowStart e.cursor.row + j.landing c)

/-- The occurrences in the row of the cursor that a jump can lead to. -/
def jumpCandidates (e : Editor) (j : Jump) : List Nat :=
  j.candidates (e.buffer.rowText e.cursor.row) e.cursor.col 0

/-- Where a jump leads is said by the occurrence of its number. -/
theorem jumpTarget?_eq {n : Nat} (hcount : e.count = n + 1) (j : Jump) (again : Bool) :
    e.jumpTarget? j again =
      (j.candidates (e.buffer.rowText e.cursor.row) e.cursor.col (j.skip again))[n]?.map fun c =>
        .char (e.buffer.rowStart e.cursor.row + j.landing c) (j.direction = .forward) := by
  unfold jumpTarget? Jump.column?
  rw [hcount, Option.map_map]
  rfl

namespace Idle

/-- The first occurrence and the last alike are in a row that is not empty. -/
theorem col_lt (h : e.Idle) (hc : c ∈ e.jumpCandidates j) :
    e.cursor.col < (e.buffer.rowText e.cursor.row).length := by
  obtain hlt | ⟨hzero, hempty⟩ := col_lt_of_clampCursor_eq h.clampCursor_eq h.mode
  · exact hlt
  · have hnil : e.buffer.rowText e.cursor.row = [] := List.eq_nil_iff_length_eq_zero.2 hempty
    unfold jumpCandidates at hc
    rw [hnil] at hc
    obtain ⟨target, kind, direction⟩ := j
    cases direction <;> simp [Jump.candidates, columnsOf] at hc

theorem remembering (h : e.Idle) (j : Jump) : ({ e with lastJump := some j } : Editor).Idle :=
  { h with clampCursor_eq := clampCursor_of_eq h.clampCursor_eq rfl rfl rfl }

theorem jumpedTo (h : e.Idle) (j : Jump) (c : Nat) : (e.jumpedTo j c).Idle :=
  (h.remembering j).carriedTo _

theorem cursor_jumpedTo (h : e.Idle) (hc : c ∈ e.jumpCandidates j) :
    (e.jumpedTo j c).cursor = ⟨e.cursor.row, j.landing c⟩ := by
  have hrow := (cursor_le_of_clampCursor_eq h.clampCursor_eq).1
  rw [Editor.jumpedTo, (h.remembering j).cursor_carriedTo]
  exact Buffer.positionAt_landing_of_lt hrow (Jump.landing_lt_length hc (h.col_lt hc))

/-- Again and again a jump stops in the same row. -/
theorem jumpedTo_jumpedTo (h : e.Idle) (hc : c ∈ e.jumpCandidates j) (c' : Nat) :
    (e.jumpedTo j c).jumpedTo j c' = e.jumpedTo j c' := by
  unfold Editor.jumpedTo
  have hrow : (e.jumpedTo j c).cursor.row = e.cursor.row := by rw [h.cursor_jumpedTo hc]
  show (({ e with lastJump := some j } : Editor).carriedTo (e.buffer.rowStart
    (e.jumpedTo j c).cursor.row + j.landing c')) = _
  rw [hrow]

variable (settings : Settings)

theorem target?_jump (h : e.Idle) (n : TypedCount) (j : Jump) :
    (Motion.jump j).target? settings { e with repeatCount := n.count? } =
      (e.jumpCandidates j)[min n.times maxCount - 1]?.map fun c =>
        .char (e.buffer.rowStart e.cursor.row + j.landing c) (j.direction = .forward) := by
  have hcount : ({ e with repeatCount := n.count? } : Editor).count =
      min n.times maxCount - 1 + 1 := by
    have hpos : 0 < min n.times maxCount := Nat.lt_min.2 ⟨n.times_pos, by decide⟩
    rw [Nat.sub_add_cancel hpos, count_of_operatorCount (e := { e with repeatCount := n.count? })
      (congrArg Pending.operatorCount h.toPending)]
    exact n.getD_count?
  exact jumpTarget?_eq hcount j false

/-- A typed jump is remembered, whether it leads anywhere or not. -/
theorem run_jump (h : e.Idle) (n : TypedCount) (j : Jump) :
    (Motion.jump j).run settings { e with repeatCount := n.count? } =
      ({ e with repeatCount := n.count?, lastJump := some j } : Editor).reachOr
        ((Motion.jump j).target? settings { e with repeatCount := n.count? }) := by
  have hmodifier : none = e.modifier := (congrArg Pending.modifier h.toPending).symm
  have hbegun : ({ (Motion.jump j).begin { e with repeatCount := n.count? } with
      continuation := none } : Editor) = { e with repeatCount := n.count? } :=
    congrArg₂ (fun modifier continuation => ({ e with
      repeatCount := n.count?
      modifier := modifier
      continuation := continuation } : Editor)) hmodifier h.continuation.symm
  unfold Motion.run
  rw [hbegun, Motion.finish, startJump, jump_eq]
  rfl

/-- **A counted jump goes to the occurrence that the count says.** -/
theorem after_jump (h : e.Idle) (n : TypedCount)
    (hc : (e.jumpCandidates j)[min n.times maxCount - 1]? = some c) (rest : List Key) :
    e.after settings (n.keys ++ ((Motion.jump j).keys ++ rest)) =
      (e.jumpedTo j c).after settings rest := by
  have hrun := h.run_jump settings n j
  rw [h.target?_jump, hc] at hrun
  exact h.after_char settings n (by simp) hrun rest

/-- **A jump that is pressed again goes to the next occurrence.** -/
theorem after_again (h : e.Idle) {before after : List Nat} {c' : Nat}
    (hsplit : e.jumpCandidates j = before ++ c :: c' :: after) (rest : List Key) :
    (e.jumpedTo j c).after settings (.char ';' :: rest) =
      (e.jumpedTo j c').after settings rest := by
  have hc : c ∈ e.jumpCandidates j := by simp [hsplit]
  let e' : Editor := { e.jumpedTo j c with repeatCount := ({} : TypedCount).count? }
  have hcandidates : j.candidates (e'.buffer.rowText e'.cursor.row) e'.cursor.col (j.skip true) =
      c' :: after := by
    have hcursor : e'.cursor = ⟨e.cursor.row, j.landing c⟩ := h.cursor_jumpedTo hc
    rw [hcursor]
    exact Jump.candidates_landing hsplit
  have hrun : (Motion.jumpAgain false).run settings e' =
      e'.reach
        (.char (e'.buffer.rowStart e'.cursor.row + j.landing c') (j.direction = .forward)) := by
    have hcount : e'.count = 0 + 1 :=
      count_of_operatorCount (e := e') (congrArg Pending.operatorCount h.toPending)
    have htarget := jumpTarget?_eq hcount j true
    rw [hcandidates] at htarget
    show ({ e' with continuation := none } : Editor).repeatJump false = _
    rw [continued_of_none (e := e') h.continuation]
    show e'.jump j true = _
    rw [jump_eq, htarget]
    rfl
  rw [← h.jumpedTo_jumpedTo hc c']
  exact (h.jumpedTo j c).after_char settings {} (m := .jumpAgain false) (by simp) hrun rest

/-- **Pressed again and again a jump goes from occurrence to occurrence.** The induction is on the
presses. -/
theorem after_agains (h : e.Idle) {before after : List Nat} {c' : Nat}
    (hsplit : e.jumpCandidates j = before ++ c :: after) {k : Nat}
    (hk : (c :: after)[k]? = some c') :
    (e.jumpedTo j c).after settings (List.replicate k (.char ';')) = e.jumpedTo j c' := by
  induction k generalizing before c after with
  | zero =>
    obtain rfl : c = c' := by simpa using hk
    rfl
  | succ k ih =>
    rw [List.getElem?_cons_succ] at hk
    cases after with
    | nil => simp at hk
    | cons d after =>
      rw [List.replicate_succ, h.after_again settings hsplit]
      exact ih (by simp [hsplit] : e.jumpCandidates j = (before ++ [c]) ++ d :: after) hk

theorem after_jump_again (h : e.Idle) {k : Nat} (hc : (e.jumpCandidates j)[k]? = some c) :
    e.after settings ((Motion.jump j).keys ++ List.replicate k (.char ';')) = e.jumpedTo j c := by
  cases hcandidates : e.jumpCandidates j with
  | nil => simp [hcandidates] at hc
  | cons first others =>
    have hfirst : (e.jumpCandidates j)[min ({} : TypedCount).times maxCount - 1]? = some first := by
      rw [hcandidates]
      rfl
    rw [hcandidates] at hc
    have hjump := h.after_jump settings {} hfirst (List.replicate k (.char ';'))
    have hsplit : e.jumpCandidates j = [] ++ first :: others := hcandidates
    exact hjump.trans (h.after_agains settings hsplit hc)

/-- Of two occurrences one after the other, the jump stops further on in the row at the second. -/
theorem onward_jumpedTo (h : e.Idle) {k c' : Nat} (hc : (e.jumpCandidates j)[k]? = some c)
    (hc' : (e.jumpCandidates j)[k + 1]? = some c') :
    (e.jumpedTo j c').cursor.row = (e.jumpedTo j c).cursor.row ∧
      j.Onward (e.jumpedTo j c).cursor.col (e.jumpedTo j c').cursor.col := by
  obtain ⟨hk, rfl⟩ := List.getElem?_eq_some_iff.1 hc
  obtain ⟨hk', rfl⟩ := List.getElem?_eq_some_iff.1 hc'
  have honward := List.pairwise_iff_getElem.1 (j.pairwise_candidates _ _) k (k + 1) hk hk'
    (Nat.lt_succ_self k)
  have hmem := List.getElem_mem hk
  rw [h.cursor_jumpedTo (List.getElem_mem hk'), h.cursor_jumpedTo hmem]
  exact ⟨rfl, (Jump.onward_of_mem_candidates hmem).landing honward⟩

/-- **A counted jump that leads nowhere** leaves everything in place. -/
theorem unmoved_after_jump (h : e.Idle) (n : TypedCount)
    (hnone : (e.jumpCandidates j)[min n.times maxCount - 1]? = none) :
    Unmoved e (e.after settings (n.keys ++ (Motion.jump j).keys)) := by
  let e₁ : Editor := { e with repeatCount := n.count? }
  have htarget : (Motion.jump j).target? settings e₁ = none := by
    rw [h.target?_jump settings n j, hnone]
    rfl
  have hafter := h.after_motion settings n (m := .jump j) (by simp) []
  rw [List.append_nil] at hafter
  have hclamped₁ : e₁.clampCursor = e₁ := clampCursor_of_eq h.clampCursor_eq rfl rfl rfl
  have hrun := unmoved_run (e := e₁) h.mode h.continuation (by simp) htarget
  have hsame : Unmoved e e₁ := (Unmoved.refl e).congr rfl rfl rfl rfl rfl rfl rfl
  rw [hafter]
  exact hsame.trans (hrun.clampCursor hclamped₁)

end Idle

/-- **A counted jump is the jump and its repetitions.** Wherever a run has led to, in normal mode,
with nothing half typed and no macro being recorded, with a count that can be held or a text of no
more characters than can be counted: a counted jump leads somewhere just when the row has as many
occurrences of the character on that side of the cursor. Then it leads to the same editor as the
jump with `;` pressed one time less, and each of these presses moves on in the row. Otherwise
everything is left in place. -/
theorem counted_jump {b : Buffer} (he : Reachable b e) (hm : e.mode = .normal)
    (hw : e.waiting = false) (hn : e.repeatCount = none) (hrec : e.recording = none)
    (settings : Settings) (n : TypedCount)
    (hfits : n.times ≤ maxCount ∨ e.buffer.length ≤ maxCount) (j : Jump) :
    let found := j.occurrences (e.buffer.rowText e.cursor.row) e.cursor.col 0
    let counted := e.after settings (n.keys ++ (Motion.jump j).keys)
    let repeated (k : Nat) :=
      e.after settings ((Motion.jump j).keys ++ List.replicate k (.char ';'))
    (((Motion.jump j).target? settings { e with repeatCount := n.count? }).isSome = true ↔
        n.times ≤ found) ∧
      (n.times ≤ found → counted = repeated (n.times - 1) ∧
        ∀ k, k + 1 < n.times → (repeated (k + 1)).cursor.row = (repeated k).cursor.row ∧
          j.Onward (repeated k).cursor.col (repeated (k + 1)).cursor.col) ∧
      (found < n.times → Unmoved e counted) := by
  intro found counted repeated
  have h := he.idle hm hw hn hrec
  have hpos := n.times_pos
  have hlength : (e.jumpCandidates j).length = found := Jump.length_candidates _ _ _ _
  -- A count that is cut off is too great anyway.
  have hcut : n.times ≤ maxCount ∨ found < maxCount := by
    refine hfits.imp_right fun hle => ?_
    refine j.occurrences_lt ((col_lt_of_clampCursor_eq h.clampCursor_eq hm).imp_right And.left)
      (by decide) ?_
    exact Nat.le_trans (e.buffer.rowLength_le_length e.cursor.row) hle
  have hrepeated {k : Nat} (hk : k < found) :
      ∃ c, (e.jumpCandidates j)[k]? = some c ∧ repeated k = e.jumpedTo j c := by
    have hc := List.getElem?_eq_getElem (hlength.symm ▸ hk : k < (e.jumpCandidates j).length)
    exact ⟨_, hc, h.after_jump_again settings hc⟩
  refine ⟨?_, fun hfound => ⟨?_, fun k hk => ?_⟩, fun hfound => ?_⟩
  · rw [h.target?_jump settings n j, Option.isSome_map, isSome_getElem?]
    omega
  · obtain ⟨c, hc, hagain⟩ := hrepeated (show n.times - 1 < found by omega)
    have hmin : min n.times maxCount = n.times := by omega
    have hjump := h.after_jump settings n (hmin.symm ▸ hc) []
    rw [List.append_nil] at hjump
    exact hjump.trans hagain.symm
  · obtain ⟨c, hc, hthis⟩ := hrepeated (show k < found by omega)
    obtain ⟨c', hc', hnext⟩ := hrepeated (show k + 1 < found by omega)
    rw [hthis, hnext]
    exact h.onward_jumpedTo hc hc'
  · exact h.unmoved_after_jump settings n (List.getElem?_eq_none (by omega))

/-- Up to the third of three characters that follow the cursor without a gap: the first jump stops
where it is, and each repetition gets on. A fourth is not there. -/
theorem counted_jump_no_gap :
    ∃ e : Editor, Reachable ⟨['a', 'b', 'b', 'b']⟩ e ∧
      let counted := e.after {} [.char '3', .char 't', .char 'b']
      counted = e.after {} [.char 't', .char 'b', .char ';', .char ';'] ∧
        counted.cursor = ⟨0, 2⟩ ∧ Unmoved e (e.after {} [.char '4', .char 't', .char 'b']) := by
  let j : Jump := ⟨'b', .till, .forward⟩
  let e : Editor := ofResult (interpret {} ⟨['a', 'b', 'b', 'b']⟩ none [])
  have he : Reachable ⟨['a', 'b', 'b', 'b']⟩ e := .first {} []
  have hfound : j.occurrences (e.buffer.rowText e.cursor.row) e.cursor.col 0 = 3 := by
    decide +kernel
  obtain ⟨-, hthird, -⟩ := counted_jump he (by decide +kernel) (by decide +kernel)
    (by decide +kernel) (by decide +kernel) {} { digits := ['3'] } (.inl (by decide)) j
  obtain ⟨-, -, hfourth⟩ := counted_jump he (by decide +kernel) (by decide +kernel)
    (by decide +kernel) (by decide +kernel) {} { digits := ['4'] } (.inl (by decide)) j
  rw [hfound] at hthird hfourth
  exact ⟨e, he, (hthird (by decide)).1, by decide +kernel, hfourth (by decide)⟩

end Editor

end ModalEditor
