import ModalEditor.Proofs.Handlers

/-!
# Any key

Every key is taken well, but for undo and redo and the key that has a macro played (`Pressed`).
-/

namespace ModalEditor

namespace Editor

/-- Whether the key is an undo or a redo: in normal mode, where it starts a command. -/
def travels (e : Editor) (key : Key) : Bool :=
  e.mode == .normal && (e.continuation == none || e.continuation == some .gotoPrefix) &&
    (key == .ctrlR || e.operator.isNone && key == .char 'u')

/-- A character in normal mode is taken well, or undoes. -/
theorem taken_normalChar {e : Editor} (ho : e.control.Orderly) (hk : e.continuation = none)
    (hm : e.mode = .normal) {c : Char} (hu : c ≠ 'u' ∨ e.operator ≠ none) :
    Taken e (e.normalChar c) := by
  have hcm : e.Commanding := .inl hm
  unfold normalChar
  split
  · rename_i e' hmotion
    exact (moved_motionKey? hmotion).taken ho hk hcm
  · split
    · rename_i op _
      exact taken_operatorKey ho hk hm op
    · have modify (m : Modifier) (hop : e.operator.isSome = true) :
          Taken e { e with modifier := some m } := by
        refine taken_still ?_ rfl rfl rfl rfl
        exact { ho with modifier := fun _ => ⟨hop, hm⟩ }
      split
      · rename_i h
        exact modify .inside h.2
      · split
        · rename_i h
          exact modify .around h.2
        · split
          · have ho₁ : e.clearPending.control.Orderly := ho.clearPending
            have hwait (k : Continuation) : Taken e.clearPending (e.clearPending.awaitKey k) :=
              taken_awaitKey ho₁ (.inl ⟨hm, .inr rfl⟩)
            exact (hwait _).congr e rfl rfl rfl rfl
          · split
            · exact taken_clearPending ho
            · rename_i hop
              have hnone : e.operator = none := by simpa using hop
              exact taken_commandKey ho hk hnone hm (hu.resolve_right (by simp [hnone]))

theorem taken_visualKey {e : Editor} (ho : e.control.Orderly) (hk : e.continuation = none)
    (hv : e.mode.isVisual = true) (kind : VisualKind) (key : Key) :
    Taken e (e.visualKey kind key) := by
  have hcm : e.Commanding := .inr hv
  have same : Taken e e := taken_still ho rfl rfl rfl rfl
  cases key with
  | ctrlV => exact taken_toggleVisual ho hk hcm .block
  | char c =>
    unfold visualKey
    dsimp only
    split
    · exact taken_toggleVisual ho hk hcm .char
    · exact taken_toggleVisual ho hk hcm .line
    · exact taken_operateOnSelection ho hk hv kind .delete
    · exact taken_operateOnSelection ho hk hv kind .delete
    · exact taken_operateOnSelection ho hk hv kind .yank
    · exact taken_operateOnSelection ho hk hv kind .change
    · exact taken_awaitKey ho (.inr ⟨hv, .inr rfl⟩)
    · cases hmotion : e.motionKey? c with
      | none => exact same
      | some e' => exact (moved_motionKey? hmotion).taken ho hk hcm
  | escape => exact same
  | ctrlC => exact same
  | backspace => exact same
  | enter => exact same
  | ctrlR => exact same

/-- **A key that no command waits for is taken well**, unless it undoes or redoes. -/
theorem taken_modeKey {e : Editor} (ho : e.control.Orderly) (hk : e.continuation = none)
    (settings : Settings) {key : Key} (ht : e.travels key = false) :
    Taken e (e.modeKey settings key) := by
  unfold modeKey
  split
  · rename_i hm
    exact taken_insertKey ho hm key
  · rename_i hm
    exact taken_commandLineKey ho hm key
  · rename_i hm
    exact taken_searchKey ho hm settings key
  · rename_i hm
    split
    · rename_i d hd
      exact taken_typeDigit ho (.inl hm) hd
    · have same : Taken e e := taken_still ho rfl rfl rfl rfl
      cases key with
      | char c =>
        have hu : c ≠ 'u' ∨ e.operator ≠ none := by
          by_cases hop : e.operator = none
          · left
            rintro rfl
            simp [travels, hm, hk, hop] at ht
          · exact .inr hop
        exact taken_normalChar ho hk hm hu
      | ctrlR => simp [travels, hm, hk] at ht
      | ctrlV => exact taken_toggleVisual ho hk (.inl hm) .block
      | escape => exact same
      | ctrlC => exact same
      | backspace => exact same
      | enter => exact same
  · rename_i kind hm
    have hv : e.mode.isVisual = true := by simp [hm, Mode.isVisual]
    split
    · rename_i d hd
      exact taken_typeDigit ho (.inr hv) hd
    · exact taken_visualKey ho hk hv kind key

/-- **The second key of a command is taken well**, unless it plays a macro. -/
theorem taken_continueWith {e : Editor} {k : Continuation} (ho : e.control.Orderly)
    (hk : e.continuation = some k) (hp : k ≠ .startPlayback) (c : Char) :
    ∃ e', ({ e with continuation := none } : Editor).continueWith k c = .done e' ∧ Taken e e' := by
  have ho₁ : ({ e with continuation := none } : Editor).control.Orderly := ho.continued
  have hopen := ho.continuation k hk
  have hcm : ({ e with continuation := none } : Editor).Commanding :=
    hopen.imp (·.1) (·.1)
  have settled {e' : Editor} (h : Settled { e with continuation := none } e') : Taken e e' :=
    (h.taken ho₁ rfl hcm).congr e rfl rfl rfl rfl
  cases k with
  | setRegister => exact ⟨_, rfl, taken_still ho₁ rfl rfl rfl rfl⟩
  | setMark => exact ⟨_, rfl, taken_still ho₁ rfl rfl rfl rfl⟩
  | deleteMark => exact ⟨_, rfl, taken_still ho₁ rfl rfl rfl rfl⟩
  | findChar d => exact ⟨_, rfl, settled (settles_startJump _ _).settled⟩
  | toChar d => exact ⟨_, rfl, settled (settles_startJump _ _).settled⟩
  | replaceChar =>
    have hnormal : e.mode = .normal ∧ e.operator = none := by
      simpa [control, Continuation.opensMotion] using hopen
    have h := taken_replaceChars ho₁ rfl hnormal.2 hnormal.1 c
    exact ⟨_, rfl, h.congr e rfl rfl rfl rfl⟩
  | jumpToMark =>
    refine ⟨_, rfl, ?_⟩
    rcases settled_jumpToMark { e with continuation := none } c with h | h
    · exact settled h
    · rw [h]
      exact taken_still ho₁ rfl rfl rfl rfl
  | startRecording => exact ⟨_, rfl, taken_still ho₁ rfl rfl rfl rfl⟩
  | startPlayback => exact absurd rfl hp
  | gotoPrefix => exact ⟨_, rfl, settled (.reach (.refl _) _)⟩

/-- **What a key leads to**: it is taken well, it undoes or redoes, or it has a macro played. -/
inductive Pressed (e : Editor) (key : Key) : Outcome → Prop where
  /-- The key is taken well. -/
  | taken {e' : Editor} (h : Taken e e') : Pressed e key (.done e')
  /-- The key undoes. -/
  | undone (ht : e.travels key = true) (hkey : key = .char 'u') :
    Pressed e key (.done ({ e with continuation := none } : Editor).undo)
  /-- The key redoes. -/
  | redone (ht : e.travels key = true) (hkey : key = .ctrlR) :
    Pressed e key (.done ({ e with continuation := none } : Editor).redo)
  /-- The key has a macro played, and has only dropped the counts so far. -/
  | played (hk : e.continuation = some .startPlayback) {e' : Editor} (h : Taken e e')
    (control : e'.control = ({ e.control with continuation := none } : Control).dropCounts)
    (keys : List Key) (times : Nat) : Pressed e key (.play e' keys times)

theorem normalChar_undo {e : Editor} (hop : e.operator = none) : e.normalChar 'u' = e.undo := by
  unfold normalChar
  rw [hop]
  rfl

theorem modeKey_ctrlR {e : Editor} (hm : e.mode = .normal) (settings : Settings) :
    e.modeKey settings .ctrlR = e.redo := by
  unfold modeKey
  rw [hm]
  rfl

/-- In normal mode, where a command starts, undo and redo do what they say. -/
theorem modeKey_of_travels {e : Editor} (settings : Settings) {key : Key}
    (hk : e.continuation = none) (ht : e.travels key = true) :
    key = .char 'u' ∧ e.modeKey settings key = e.undo ∨
      key = .ctrlR ∧ e.modeKey settings key = e.redo := by
  have hm : e.mode = .normal := by
    simp only [travels, Bool.and_eq_true, beq_iff_eq] at ht
    exact ht.1.1
  have hkey : key = .ctrlR ∨ e.operator = none ∧ key = .char 'u' := by
    simpa [travels, hm, hk] using ht
  rcases hkey with rfl | ⟨hop, rfl⟩
  · exact .inr ⟨rfl, modeKey_ctrlR hm settings⟩
  · refine .inl ⟨rfl, ?_⟩
    unfold modeKey
    rw [hm]
    exact normalChar_undo hop

theorem normalKey_char (e : Editor) (c : Char) : e.normalKey (.char c) = e.normalChar c := rfl

theorem press_normalChar {e : Editor} (hm : e.mode = .normal) (hk : e.continuation = none)
    (settings : Settings) {c : Char} (hcount : e.countDigit? (.char c) = none) :
    e.press settings (.char c) = .done (e.normalChar c) := by
  have hmode : e.modeKey settings (.char c) = e.normalChar c := by
    unfold modeKey
    rw [hm]
    dsimp only
    rw [hcount, normalKey_char]
  rw [← hmode]
  simp [press, Key.isEscape, hk]

theorem press_command {e : Editor} (hm : e.mode = .normal) (hk : e.continuation = none)
    (hop : e.operator = none) (settings : Settings) {c : Char} (hdigit : c.isDigit = false)
    (hmotion : e.motionKey? c = none) (hoperator : Operator.ofKey? c = none) (hmark : c ≠ 'm') :
    e.press settings (.char c) = .done (e.commandKey c) := by
  have hcount : e.countDigit? (.char c) = none := by
    have hzero : c ≠ '0' := by
      rintro rfl
      simp at hdigit
    simp [countDigit?, hzero, hdigit]
  have hnormal : e.normalChar c = e.commandKey c := by
    simp [normalChar, hmotion, hoperator, hop, hmark]
  rw [press_normalChar hm hk settings hcount, hnormal]

theorem press_continueWith {e : Editor} {k : Continuation} (hk : e.continuation = some k)
    (hg : k ≠ .gotoPrefix) (settings : Settings) (c : Char) :
    e.press settings (.char c) = ({ e with continuation := none } : Editor).continueWith k c := by
  simp [press, Key.isEscape, hk, hg]

theorem pressed_modeKey {e : Editor} (ho : e.control.Orderly) (settings : Settings) (key : Key)
    (hk : e.continuation = none ∨ e.continuation = some .gotoPrefix) :
    Pressed e key (.done (({ e with continuation := none } : Editor).modeKey settings key)) := by
  have ho₁ : ({ e with continuation := none } : Editor).control.Orderly := ho.continued
  have htravels : ({ e with continuation := none } : Editor).travels key = e.travels key := by
    rcases hk with hk | hk <;> simp [travels, hk]
  by_cases ht : e.travels key = true
  · rcases modeKey_of_travels settings rfl (htravels.trans ht) with ⟨hkey, h⟩ | ⟨hkey, h⟩
    · exact h ▸ .undone ht hkey
    · exact h ▸ .redone ht hkey
  · have h := taken_modeKey ho₁ rfl settings (htravels.trans (by simpa using ht))
    exact .taken (h.congr e rfl rfl rfl rfl)

theorem pressed_startPlayback {e : Editor} (ho : e.control.Orderly)
    (hk : e.continuation = some .startPlayback) (key : Key) (c : Char) :
    Pressed e key (({ e with continuation := none } : Editor).startPlayback c) := by
  have ho₁ : ({ e with continuation := none } : Editor).control.Orderly := ho.continued
  have hdrop (played : Option Char) :
      Taken e { ({ e with continuation := none } : Editor).dropCounts with lastPlayed := played } :=
    taken_still ho₁.dropCounts rfl rfl rfl rfl
  unfold startPlayback
  dsimp only
  split
  · exact .taken (taken_still ho₁ rfl rfl rfl rfl)
  · split
    · exact .taken (hdrop _)
    · exact .played hk (hdrop _) rfl _ _

/-- **Every key does one of these.** -/
theorem pressed {e : Editor} (ho : e.control.Orderly) (settings : Settings) (key : Key) :
    Pressed e key (e.press settings key) := by
  unfold press
  split
  · exact .taken (taken_escape e)
  · split
    · rename_i hk
      have h := pressed_modeKey ho settings key (.inl hk)
      rwa [continued_of_none hk] at h
    · rename_i k hk
      dsimp only
      split
      · rename_i hgoto
        exact pressed_modeKey ho settings key (.inr (hk.trans (congrArg some hgoto.1)))
      · have same : Taken e { e with continuation := none } :=
          taken_still ho.continued rfl rfl rfl rfl
        cases key with
        | char c =>
          by_cases hp : k = .startPlayback
          · subst hp
            exact pressed_startPlayback ho hk _ c
          · obtain ⟨e', he', h⟩ := taken_continueWith ho hk hp c
            dsimp only
            rw [he']
            exact .taken h
        | escape => exact .taken same
        | ctrlC => exact .taken same
        | backspace => exact .taken same
        | enter => exact .taken same
        | ctrlR => exact .taken same
        | ctrlV => exact .taken same

end Editor

end ModalEditor
