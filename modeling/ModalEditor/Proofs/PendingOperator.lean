import ModalEditor.Proofs.Reachable
import ModalEditor.Proofs.TypedMotions

/-!
# Pending operators

What a key can do while an operator is pending (`Answered`): complete a motion, double the operator,
put another in its place, keep it waiting or give it up. So only the operator edits, at the end of a
motion or doubled (`Obeyed`). There is one exception. A redo is carried out although the operator is
pending, and leaves it so; `obeyed_iff` shows that it is the only one.
-/

namespace ModalEditor

namespace Editor

/-! ### One key -/

/-- **What a key does while an operator is pending.** -/
inductive Answered (settings : Settings) (e : Editor) (op : Operator) (key : Key) : Editor → Prop where
  /-- It carries out a motion. -/
  | completed (m : Motion) (hbegun : m.Begun e) (hlast : m.last = key) :
    Answered settings e op key (m.finish settings { e with continuation := none })
  /-- It doubles the operator. -/
  | doubled (hkey : key = .char op.key) :
    Answered settings e op key
      (({ e with continuation := none } : Editor).dropCounts.applyRows e.cursor.row
        (e.cursor.row + (e.count - 1)))
  /-- It puts another operator in its place. -/
  | replaced {e' : Editor} {op' : Operator} (hkey : key = .char op'.key)
    (buffer : e'.buffer = e.buffer) (operator : e'.operator = some op') :
    Answered settings e op key e'
  /-- It keeps the operator waiting. -/
  | waits {e' : Editor} (buffer : e'.buffer = e.buffer) (operator : e'.operator = some op) :
    Answered settings e op key e'
  /-- It gives the operator up. -/
  | abandoned {e' : Editor} (buffer : e'.buffer = e.buffer) (operator : e'.operator = none) :
    Answered settings e op key e'
  /-- It redoes. -/
  | redone (ht : e.travels key = true) :
    Answered settings e op key ({ e with continuation := none } : Editor).redo

section OneKey

variable {e : Editor} {op : Operator} (settings : Settings)

theorem operator_of_ofKey? {c : Char} {op : Operator} (h : Operator.ofKey? c = some op) :
    c = op.key := by
  unfold Operator.ofKey? at h
  split at h
  case h_4 => simp at h
  all_goals
    obtain rfl := Option.some.inj h
    rfl

theorem answered_normalChar (hop : e.operator = some op) (hm : e.mode = .normal) {c : Char}
    (hk : e.continuation = none ∨ e.continuation = some .gotoPrefix ∧ Key.char c ≠ .char 'g')
    (hcount : e.countDigit? (.char c) = none) :
    Answered settings e op (.char c)
      (({ e with continuation := none } : Editor).normalChar c) := by
  have hwait : e.continuation = none ∨ e.continuation = some .gotoPrefix := hk.imp_right And.left
  unfold normalChar
  split
  · rename_i e' hmotion
    cases motionKey_of_motionKey? settings hmotion with
    | whole m hlast hopening =>
      have hz : m = .rowStart → e.repeatCount = none := by
        rintro rfl
        obtain rfl : '0' = c := by simpa [Motion.last] using hlast
        simpa [countDigit?] using hcount
      have hbegun : m.Begun e := by
        cases m with
        | top | jump | mark | search => simp [Motion.opening] at hopening
        | _ => exact ⟨.inl hm, hwait, hz⟩
      exact .completed m hbegun hlast
    | awaits k hopens modifier => exact .waits rfl hop
    | query d => exact .waits rfl hop
  · split
    · rename_i op' hoperator
      have hkey : Key.char c = .char op'.key := congrArg Key.char (operator_of_ofKey? hoperator)
      unfold operatorKey
      dsimp only
      split
      · rename_i hsame
        obtain rfl : op = op' := Option.some.inj (hop.symm.trans hsame)
        exact .doubled hkey
      · exact .replaced hkey rfl rfl
    · split
      · exact .waits rfl hop
      · split
        · exact .waits rfl hop
        · split
          · exact .abandoned rfl rfl
          · split
            · exact .abandoned rfl rfl
            · rename_i hnone
              exact absurd (by simp [hop]) hnone

theorem answered_modeKey (ho : e.control.Orderly) (hop : e.operator = some op) {key : Key}
    (hk : e.continuation = none ∨ e.continuation = some .gotoPrefix ∧ key ≠ .char 'g') :
    Answered settings e op key (({ e with continuation := none } : Editor).modeKey settings key) := by
  have hmode : e.mode = .normal ∨ e.mode = .search := ho.operator (by simp [control, hop])
  rcases hmode with hm | hm
  · have hcm : ({ e with continuation := none } : Editor).Commanding := .inl hm
    cases hcount : e.countDigit? key with
    | some d =>
      have hd : ({ e with continuation := none } : Editor).countDigit? key = some d := hcount
      rw [modeKey_of_digit hcm settings hd]
      exact .waits rfl hop
    | none =>
      have hd : ({ e with continuation := none } : Editor).countDigit? key = none := hcount
      have hnormal : ({ e with continuation := none } : Editor).modeKey settings key =
          ({ e with continuation := none } : Editor).normalKey key := by
        rcases modeKey_of_commanding hcm settings hd with ⟨-, h⟩ | ⟨kind, hvisual, -⟩
        · exact h
        · exact absurd (hm.symm.trans hvisual) (by simp)
      rw [hnormal]
      cases key with
      | char c => exact answered_normalChar settings hop hm hk hcount
      | ctrlR =>
        refine .redone ?_
        rcases hk with hk | hk
        · simp [travels, hm, hk]
        · simp [travels, hm, hk.1]
      | ctrlV =>
        refine .abandoned ?_ ?_
        · unfold normalKey toggleVisual
          dsimp only
          split <;> rfl
        · rfl
      | _ => exact .waits rfl hop
  · rw [modeKey_of_search (e := { e with continuation := none }) hm]
    cases key with
    | enter =>
      have hnone : e.continuation = none :=
        ho.continuation_eq_none (by simp [control, hm]) (by simp [control, hm, Mode.isVisual])
      obtain ⟨q, hq⟩ := Query.exists_line ho.searchQuery_atEnd
      exact .completed (.search (e.searchDirection.getD .forward) q) ⟨hm, hnone, rfl, hq.symm⟩ rfl
    | _ => exact .waits rfl hop

/-- **Every key does one of these**, and plays nothing. -/
theorem answered (ho : e.control.Orderly) (hop : e.operator = some op) (key : Key) :
    ∃ e', e.press settings key = .done e' ∧ Answered settings e op key e' := by
  cases hesc : key.isEscape with
  | true => exact ⟨e.escape, by simp [press, hesc], .abandoned rfl rfl⟩
  | false =>
    by_cases hmode : e.continuation = none ∨ e.continuation = some .gotoPrefix ∧ key ≠ .char 'g'
    · exact ⟨_, press_of_modeKey settings hesc hmode, answered_modeKey settings ho hop hmode⟩
    · cases hk : e.continuation with
      | none => exact absurd (.inl hk) hmode
      | some k =>
        have hg : k = .gotoPrefix → key = .char 'g' := by
          rintro rfl
          simpa [hk] using hmode
        -- Under an operator only motions wait for a second key.
        have hopens : k.opensMotion = true ∧ e.Commanding := by
          have hpending : e.control.operator ≠ none := by simp [control, hop]
          rcases ho.continuation k hk with ⟨hm, hopens⟩ | ⟨hm, -⟩
          · exact ⟨hopens.resolve_right hpending, .inl hm⟩
          · have hnormal := ho.operator (by simp [control, hop])
            rcases hnormal with h | h <;> simp [h, Mode.isVisual] at hm
        rcases press_second settings hesc hk hg with ⟨c, rfl, hpress⟩ | ⟨-, hpress⟩
        · obtain ⟨m, hlast, hbegun, hdone⟩ := continueWith_opensMotion hopens.1 settings
            (e := { e with continuation := none }) (c := c) (by simpa using hg)
          exact ⟨_, hpress.trans hdone, .completed m (hbegun e hopens.2 hk) hlast⟩
        · exact ⟨_, hpress, .waits rfl hop⟩

end OneKey

/-! ### What it does to the text -/

/-- **The operator has been applied** by a key, to the range of a motion or, doubled, to rows. -/
inductive Applied (settings : Settings) (e : Editor) (op : Operator) (key : Key) (e' : Editor) :
    Prop where
  /-- The key is the last of a motion, which leads somewhere. -/
  | motion (m : Motion) (hbegun : m.Begun e) (hlast : m.last = key) (target : Target)
    (htarget : m.target? settings e = some target) (buffer : e'.buffer = (e.reach target).buffer)
  /-- The key is that of the operator. -/
  | doubled (hkey : key = .char op.key)
    (buffer : e'.buffer =
      (e.dropCounts.applyRows e.cursor.row (e.cursor.row + (e.count - 1))).buffer)

/-- **Only the operator edits.** -/
structure Obeyed (settings : Settings) (e : Editor) (op : Operator) (key : Key) (e' : Editor) :
    Prop where
  /-- A key that changes the text has had the operator applied, which is a delete or a change and is
  not pending any more. -/
  edits : e'.buffer ≠ e.buffer →
    (op = .delete ∨ op = .change) ∧ Applied settings e op key e' ∧ e'.operator = none
  /-- Any other key keeps the operator waiting, or abandons it, maybe for another. -/
  otherwise : e'.buffer = e.buffer →
    e'.operator = some op ∨ e'.operator = none ∨
      ∃ op', key = .char op'.key ∧ e'.operator = some op'

theorem buffer_applyRange (e : Editor) (source target : Nat) :
    (e.applyRange source target).buffer =
      match e.operator with
      | some .delete | some .change =>
        e.buffer.remove (if e.modifier.isSome then e.buffer.expandWord (Span.ordered source target)
          else Span.ordered source target)
      | _ => e.buffer := by
  unfold applyRange
  cases e.operator with
  | none => rfl
  | some op =>
    cases op with
    | delete => rfl
    | change => rfl
    | yank =>
      dsimp only
      split <;> rfl

theorem buffer_applyRows (e : Editor) (first last : Nat) :
    (e.applyRows first last).buffer =
      let first := min first e.buffer.lastRow
      let last := min (max last first) e.buffer.lastRow
      match e.operator with
      | some .delete => e.buffer.remove (e.buffer.rowsSpan first last)
      | some .change =>
        e.buffer.replace ⟨e.buffer.rowStart first, e.buffer.rowEnd last⟩
          (leadingBlanks (e.buffer.rowText first))
      | _ => e.buffer := by
  unfold applyRows
  cases e.operator with
  | none => rfl
  | some op => cases op <;> rfl

/-- What an operator does to the text depends on the text, the cursor and the operator. -/
theorem buffer_reach_congr {e e₁ : Editor} (hb : e₁.buffer = e.buffer) (hc : e₁.cursor = e.cursor)
    (ho : e₁.operator = e.operator) (hm : e₁.modifier = e.modifier) (target : Target) :
    (e₁.reach target).buffer = (e.reach target).buffer := by
  have hoffset : e₁.cursorOffset = e.cursorOffset := by rw [cursorOffset, hb, hc, cursorOffset]
  cases target with
  | char offset inclusive =>
    unfold reach
    dsimp only
    rw [buffer_applyRange, buffer_applyRange]
    simp only [dropCounts, hoffset, hb, ho, hm]
    rfl
  | line row offset =>
    unfold reach
    dsimp only [dropCounts]
    rw [ho]
    split
    · rw [buffer_applyRows, buffer_applyRows]
      simp only [hb, hc]
    · exact hb

theorem Operated.operator_eq_none {e e' : Editor} {op : Option Operator} (h : Operated e e' op) :
    e'.operator = none := by
  have hcontrol : e'.operator = (e.control.operated op).operator :=
    congrArg (·.operator) h.control_eq
  rw [hcontrol]
  unfold Control.operated
  split <;> rfl

theorem operator_reach (e : Editor) (target : Target) : (e.reach target).operator = none := by
  cases target with
  | char offset inclusive => exact (operated_applyRange e.dropCounts _ _).operator_eq_none
  | line row offset =>
    unfold reach
    dsimp only
    split
    · exact (operated_applyRows e.dropCounts _ _).operator_eq_none
    · rename_i hop
      show e.dropCounts.operator = none
      simpa using hop

/-- A yank leaves the text alone. -/
theorem buffer_reach_of_yank {e : Editor} (hop : e.operator = some .yank) (target : Target) :
    (e.reach target).buffer = e.buffer := by
  have hop₁ : e.dropCounts.operator = some .yank := hop
  cases target with
  | char offset inclusive =>
    unfold reach
    dsimp only
    rw [buffer_applyRange, hop₁]
    rfl
  | line row offset =>
    unfold reach
    dsimp only
    rw [if_pos (by simp [hop₁]), buffer_applyRows, hop₁]
    rfl

section Obeying

variable {e e' : Editor} {op : Operator} {settings : Settings} {key : Key}

/-- A motion that completes the operator. -/
theorem obeyed_of_settles (hop : e.operator = some op) {m : Motion} (hbegun : m.Begun e)
    (hlast : m.last = key) (hs : Settles e.concluded (m.target? settings e) e') :
    Obeyed settings e op key e' := by
  have hsame : e.concluded.buffer = e.buffer ∧ e.concluded.cursor = e.cursor ∧
      e.concluded.toPending = e.toPending := by
    unfold concluded
    split <;> exact ⟨rfl, rfl, rfl⟩
  obtain ⟨hb, hc, hp⟩ := hsame
  cases htarget : m.target? settings e with
  | none =>
    rw [htarget] at hs
    obtain ⟨hr⟩ := hs
    exact ⟨fun hne => absurd (hr.buffer.trans hb) hne, fun _ => .inr (.inl rfl)⟩
  | some target =>
    rw [htarget] at hs
    obtain ⟨hr⟩ := hs
    rename_i e₁
    have hpending : e₁.toPending = e.toPending :=
      (congrArg Control.toPending hr.control).trans hp
    have hnone := operator_reach e₁ target
    have hbuffer : (e₁.reach target).buffer = (e.reach target).buffer :=
      buffer_reach_congr (hr.buffer.trans hb) (hr.cursor.trans hc)
        (congrArg Pending.operator hpending) (congrArg Pending.modifier hpending) target
    refine ⟨fun hne => ⟨?_, .motion m hbegun hlast target htarget hbuffer, hnone⟩,
      fun _ => .inr (.inl hnone)⟩
    cases op with
    | delete => exact .inl rfl
    | change => exact .inr rfl
    | yank => exact absurd (hbuffer.trans (buffer_reach_of_yank hop target)) hne

theorem obeyed_of_doubled (hop : e.operator = some op) (hkey : key = .char op.key) :
    Obeyed settings e op key (({ e with continuation := none } : Editor).dropCounts.applyRows
      e.cursor.row (e.cursor.row + (e.count - 1))) := by
  let e₁ : Editor := ({ e with continuation := none } : Editor).dropCounts
  let stop := e.cursor.row + (e.count - 1)
  have hop₁ : e₁.operator = some op := hop
  have hnone : (e₁.applyRows e.cursor.row stop).operator = none :=
    (operated_applyRows e₁ _ _).operator_eq_none
  have hbuffer : (e₁.applyRows e.cursor.row stop).buffer =
      (e.dropCounts.applyRows e.cursor.row stop).buffer := by
    rw [buffer_applyRows, buffer_applyRows]
    rfl
  refine ⟨fun hne => ⟨?_, .doubled hkey hbuffer, hnone⟩, fun _ => .inr (.inl hnone)⟩
  cases op with
  | delete => exact .inl rfl
  | change => exact .inr rfl
  | yank =>
    refine absurd ?_ hne
    show (e₁.applyRows e.cursor.row stop).buffer = e.buffer
    rw [buffer_applyRows, hop₁]
    rfl

/-- **Whatever a key is answered, only the operator edits**, unless the key redoes. -/
theorem Answered.obeyed (h : Answered settings e op key e') (hop : e.operator = some op)
    (ht : e.travels key = false) : Obeyed settings e op key e' := by
  cases h with
  | completed m hbegun hlast =>
    rcases settles_finish hbegun settings with hs | ⟨-, -, -, hsame⟩
    · exact obeyed_of_settles hop hbegun hlast hs
    · rw [hsame]
      exact ⟨fun hne => absurd rfl hne, fun _ => .inl hop⟩
  | doubled hkey => exact obeyed_of_doubled hop hkey
  | replaced hkey buffer operator =>
    exact ⟨fun hne => absurd buffer hne, fun _ => .inr (.inr ⟨_, hkey, operator⟩)⟩
  | waits buffer operator => exact ⟨fun hne => absurd buffer hne, fun _ => .inl operator⟩
  | abandoned buffer operator =>
    exact ⟨fun hne => absurd buffer hne, fun _ => .inr (.inl operator)⟩
  | redone htravels => simp [htravels] at ht

theorem Obeyed.clampCursor (h : Obeyed settings e op key e') :
    Obeyed settings e op key e'.clampCursor := by
  refine ⟨fun hne => ?_, h.otherwise⟩
  obtain ⟨hop, happlied, hnone⟩ := h.edits hne
  refine ⟨hop, ?_, hnone⟩
  cases happlied with
  | motion m hbegun hlast target htarget buffer =>
    exact .motion m hbegun hlast target htarget buffer
  | doubled hkey buffer => exact .doubled hkey buffer

/-- A redo goes on under an operator as it does without, and keeps it. -/
theorem press_of_travels (hop : e.operator = some op) (ht : e.travels key = true)
    (settings : Settings) : ∃ e', e.press settings key = .done e' ∧ e'.operator = some op := by
  obtain ⟨⟨hm, hk⟩, rfl⟩ : (e.mode = .normal ∧
      (e.continuation = none ∨ e.continuation = some .gotoPrefix)) ∧ key = .ctrlR := by
    simpa [travels, hop] using ht
  refine ⟨({ e with continuation := none } : Editor).redo, ?_, ?_⟩
  · rw [press_of_modeKey settings rfl (hk.imp_right fun hk => ⟨hk, by simp⟩)]
    exact congrArg Outcome.done (modeKey_ctrlR (e := { e with continuation := none }) hm settings)
  · unfold redo
    dsimp only
    cases (e.history.redo e.count).2 <;> exact hop

end Obeying

/-- **While an operator is pending, only the operator edits.** Wherever a run has led to, whatever
else is half typed, a key that changes the text has a delete or a change applied, to the range of a
motion that it completes or doubled, and every other key keeps the operator waiting or abandons it:
just when the key is no redo that changes the text. -/
theorem obeyed_iff {b : Buffer} {e : Editor} (he : Reachable b e) {op : Operator}
    (hop : e.operator = some op) (settings : Settings) (key : Key) :
    Obeyed settings (e.capture key) op key (e.after settings [key]) ↔
      (e.travels key = true → (e.after settings [key]).buffer = e.buffer) := by
  have ho : (e.capture key).control.Orderly := by simpa using he.traceable.orderly
  have hop₁ : (e.capture key).operator = some op := by simpa using hop
  have htravels : (e.capture key).travels key = e.travels key := by simp [travels]
  obtain ⟨e', hpress, hanswered⟩ := answered settings ho hop₁ key
  rw [after_singleton_of_done hpress]
  have hpending (ht : e.travels key = true) : e'.operator = some op := by
    obtain ⟨e'', hpress', hkept⟩ := press_of_travels hop₁ (htravels.trans ht) settings
    obtain rfl : e' = e'' := Outcome.done.inj (hpress.symm.trans hpress')
    exact hkept
  constructor
  · intro hobeyed ht
    refine Decidable.byContradiction fun hne => ?_
    have hedit : e'.clampCursor.buffer ≠ (e.capture key).buffer := by simpa using hne
    obtain ⟨-, -, hnone⟩ := hobeyed.edits hedit
    exact absurd ((hpending ht).symm.trans hnone) (by simp)
  · intro hsame
    cases ht : e.travels key with
    | false => exact (hanswered.obeyed hop₁ (htravels.trans ht)).clampCursor
    | true =>
      have hbuffer : e'.clampCursor.buffer = (e.capture key).buffer := by simpa using hsame ht
      exact ⟨fun hne => absurd hbuffer hne, fun _ => .inl (hpending ht)⟩

/-- The character of a jump is typed, under a change with two counts, and the change is carried out. -/
theorem obeyed_change_jump :
    ∃ e : Editor, Reachable ⟨['a', 'b', 'c', 'b', 'd']⟩ e ∧ e.operator = some .change ∧
      e.travels (.char 'b') = false ∧ (e.after {} [.char 'b']).buffer ≠ e.buffer ∧
      Obeyed {} (e.capture (.char 'b')) .change (.char 'b') (e.after {} [.char 'b']) := by
  have he : Reachable ⟨['a', 'b', 'c', 'b', 'd']⟩ _ :=
    .first {} [.char '2', .char 'c', .char '1', .char 'f']
  have hop : (ofResult (interpret {} ⟨['a', 'b', 'c', 'b', 'd']⟩ none
      [.char '2', .char 'c', .char '1', .char 'f'])).operator = some .change := by decide +kernel
  refine ⟨_, he, hop, by decide +kernel, by decide +kernel, ?_⟩
  exact (obeyed_iff he hop {} (.char 'b')).2 (by decide +kernel)

/-- A redo is typed after a delete that has no motion yet: the text changes, and the delete is still
pending. -/
theorem redo_ignores_operator :
    ∃ e : Editor, Reachable ⟨['a', 'b']⟩ e ∧ e.mode = .normal ∧ e.operator = some .delete ∧
      (e.after {} [.ctrlR]).buffer ≠ e.buffer ∧
      (e.after {} [.ctrlR]).operator = some .delete := by
  have he : Reachable ⟨['a', 'b']⟩ _ := .first {} [.char 'x', .char 'u', .char 'd']
  exact ⟨_, he, by decide +kernel⟩

end Editor

end ModalEditor
