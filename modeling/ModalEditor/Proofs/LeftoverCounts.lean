import ModalEditor.Proofs.CountPlacement
import ModalEditor.Proofs.Failures

/-!
# Counts that are left over

A command that is typed without an operator forgets the count before it, whether it can be carried
out or not: a motion settles the command, an edit drops the counts, an insert session starts without
one. A command of two keys whose second stands for nothing is no command, though
(`CountedCommand.Unmapped`): a mark that is not set, and a key that is neither a character nor an
escape, change nothing at all, and the count stays for what is typed next. `pending_after_counted`
has both cases.
-/

namespace ModalEditor

/-! ### Calls that play nothing -/

namespace Call

variable {settings : Settings} {c c' : Call} {t : List Stroke}

/-- Macros under way that play no key are left in one step. -/
theorem Step.left_of_playedKeys (h : Step settings c t c') (hframes : c.frames ≠ [])
    (hplayed : playedKeys t = []) :
    c'.editor = c.editor.clampCursor ∧ c'.frames = [] ∧ c'.typed = c.typed := by
  cases h with
  | typed a key keys e => exact absurd rfl hframes
  | played typed e next spend => simp [(length_of_nextKey? next).1] at hplayed
  | through a typed e under next => exact ⟨rfl, rfl, rfl⟩
  | cut typed e next spend => exact ⟨rfl, rfl, rfl⟩

/-- So all that they do is put the cursor in order. -/
theorem Run.editor_of_playedKeys (h : Run settings c t c') (hover : c'.IsOver)
    (hframes : c.frames ≠ []) (htyped : c.typed = []) (hplayed : playedKeys t = []) :
    c'.editor = c.editor.clampCursor := by
  cases h with
  | refl => exact absurd hover.1 hframes
  | @step _ c₁ _ t₁ t₂ head tail =>
    have hkeys : playedKeys t₁ = [] ∧ playedKeys t₂ = [] := by simpa using hplayed
    obtain ⟨heditor, hframes₁, htyped₁⟩ := head.left_of_playedKeys hframes hkeys.1
    have hover₁ : c₁.IsOver := ⟨hframes₁, htyped₁.trans htyped⟩
    cases tail with
    | refl => exact heditor
    | step head' => exact absurd head' hover₁.not_step

end Call

namespace Editor

section Quiet

variable {e e' : Editor} {settings : Settings} {key : Key}

theorem typeKey_of_playedKeys {a : Allowance} (h : playedKeys (playedBy settings a e key) = []) :
    (e.typeKey settings a key).1 = ((e.capture key).press settings key).editor.clampCursor := by
  unfold typeKey
  unfold playedBy at h
  cases hpress : (e.capture key).press settings key with
  | done e' => rfl
  | play e' keys times =>
    rw [hpress] at h
    dsimp only at h ⊢
    by_cases hdepth : a.permits 1 = true
    · rw [if_pos hdepth] at h ⊢
      have hrun := run_replay settings a [] e' (List.cons_ne_nil (Frame.fresh keys times) [])
      exact hrun.editor_of_playedKeys ⟨rfl, rfl⟩ (List.cons_ne_nil _ _) rfl h
    · rw [if_neg hdepth]
      rfl

theorem after_singleton_of_playedKeys (h : playedKeys (e.strokes settings [key]) = []) :
    e.after settings [key] = ((e.capture key).press settings key).editor.clampCursor := by
  have hcons : e.strokes settings [key] =
      [⟨0, key, e⟩] ++ playedBy settings (.ofSettings settings) e key := by
    simp [strokes, pressedBy]
  rw [hcons, playedKeys_append, playedKeys_typed] at h
  exact typeKey_of_playedKeys h

/-- The keys that are pressed after one that plays nothing. -/
theorem strokes_cons_of_done (h : (e.capture key).press settings key = .done e')
    (keys : List Key) : e.strokes settings (key :: keys) =
      [⟨0, key, e⟩] ++ e'.clampCursor.strokes settings keys := by
  simp only [strokes, pressedBy, playedBy, typeKey, h]

/-- The keys that are pressed after a count. -/
theorem exists_strokes_count (settings : Settings) (he : e.clampCursor = e) (hm : e.mode = .normal)
    (hk : e.continuation = none) (hrec : e.recording = none) (hn : e.repeatCount = none)
    {digits : Text} (hd : digits.all Char.isDigit = true) (hz : digits.head? ≠ some '0')
    (keys : List Key) :
    ∃ t, e.strokes settings (digits.map Key.char ++ keys) =
      t ++ ({ e with repeatCount := typedCount? digits } : Editor).strokes settings keys := by
  obtain ⟨t, hcount⟩ := run_count settings (.ofSettings settings) keys he hm hk hrec hn hd hz
  have hrest := run_typeKeys settings (.ofSettings settings)
    ({ e with repeatCount := typedCount? digits } : Editor) keys
  exact ⟨t, ((hcount.append hrest).eq_of_isOver ⟨rfl, rfl⟩).1⟩

end Quiet

end Editor

/-! ### Commands that take a count -/

/-- The keys that start an insert session. -/
def sessionKeys : List Char := ['i', 'a', 'I', 'A', 'o', 'O']

/-- The keys that wait for a character. -/
def argumentKeys : List Char := ['f', 'F', 't', 'T', 'r', '@', '\'']

/-- **A command that a count may stand before**, with all that is typed for it. -/
inductive CountedCommand where
  /-- A command that is typed to its end. -/
  | attempt (a : Attempt)
  /-- An insert session, with the escape that closes it. -/
  | session (entry : Char) (typed : List Key) (close : Key) (starts : entry ∈ sessionKeys)
    (goes_on : ∀ key ∈ typed, key.isEscape = false) (closes : close.isEscape = true)
  /-- A command that is given another key than the character it waits for. -/
  | cancelled (first : Char) (second : Key) (waits : first ∈ argumentKeys)
    (cancels : ∀ c, second ≠ .char c)

namespace CountedCommand

/-- The keys of the command. -/
def keys : CountedCommand → List Key
  | attempt a => a.keys
  | session entry typed close _ _ _ => .char entry :: (typed ++ [close])
  | cancelled first second _ _ => [.char first, second]

/-- **When the second key of a command stands for nothing**: it names a mark that is not set, or it
is neither a character nor an escape. -/
def Unmapped (e : Editor) : CountedCommand → Prop
  | attempt (.motion (.mark name)) => e.marks.get? name = none
  | cancelled _ second _ _ => second.isEscape = false
  | _ => False

/-- The command is to play again what has not been played. -/
def PlaysNone (e : Editor) (c : CountedCommand) : Prop :=
  c = attempt (.play '@') ∧ e.lastPlayed = none

end CountedCommand

namespace Editor

/-! ### Commands that forget the count -/

/-- Neither an operator nor the count typed last is pending. -/
structure Clear (e : Editor) : Prop where
  /-- There is no operator. -/
  operator : e.operator = none
  /-- There is no count. -/
  repeatCount : e.repeatCount = none

variable {e e' : Editor}

theorem Clear.of_dropCounts (hop : e.operator = none)
    (h : e'.toPending = e.dropCounts.toPending) : Clear e' :=
  ⟨(congrArg Pending.operator h).trans hop, congrArg Pending.repeatCount h⟩

theorem Clear.toPending_eq (h : Clear e) (ho : e.control.Orderly) : e.toPending = {} := by
  rw [toPending_of_no_operator ho h.operator, h.repeatCount]

theorem clear_reach (hop : e.operator = none) (target : Target) : Clear (e.reach target) := by
  obtain ⟨cursor, modifier, selected, hreach⟩ := reach_of_no_operator hop target
  rw [hreach]
  exact ⟨hop, rfl⟩

theorem Settles.clear {target? : Option Target} (h : Settles e target? e')
    (hop : e.operator = none) : Clear e' := by
  obtain ⟨hr⟩ := h
  cases target? with
  | none => exact ⟨rfl, rfl⟩
  | some target => exact clear_reach ((congrArg (·.operator) hr.control).trans hop) target

/-- A motion forgets the count, unless it leads to a mark that is not set. -/
theorem clear_run {m : Motion} (settings : Settings) (hm : e.Commanding)
    (hk : e.continuation = none) (hop : e.operator = none)
    (hz : m = .rowStart → e.repeatCount = none)
    (hmark : ∀ name, m = .mark name → e.marks.get? name ≠ none) : Clear (m.run settings e) := by
  have hconcluded : (m.begin e).concluded.operator = none := by
    have hpending : (m.begin e).operator = none := by cases m <;> exact hop
    unfold concluded
    split
    · exact hpending
    · exact hpending
  rcases settles_run m settings hm hk hz with hs | ⟨name, rfl, hnone, -⟩
  · exact hs.clear hconcluded
  · exact absurd hnone (hmark name rfl)

theorem toPending_removeChars (e : Editor) (s : Span) :
    (e.removeChars s).toPending = e.toPending := by
  unfold removeChars
  split
  · rfl
  · rfl

theorem toPending_deleteUnder (e : Editor) : e.deleteUnder.toPending = e.dropCounts.toPending :=
  toPending_removeChars e.dropCounts _

theorem toPending_deleteBefore (e : Editor) : e.deleteBefore.toPending = e.dropCounts.toPending :=
  toPending_removeChars e.dropCounts _

theorem toPending_replaceChars (e : Editor) (c : Char) :
    (e.replaceChars c).toPending = e.dropCounts.toPending := by
  unfold replaceChars
  dsimp only
  split
  · rfl
  · rfl

theorem toPending_putRows (e : Editor) (content : Text) (after : Bool) :
    (e.putRows content after).toPending = e.toPending := by
  unfold putRows
  dsimp only
  split
  · rfl
  · split
    · rfl
    · rfl

theorem toPending_put (e : Editor) (after : Bool) :
    (e.put after).toPending = e.dropCounts.toPending := by
  unfold put
  dsimp only
  split
  · rfl
  · split
    · exact toPending_putRows _ _ after
    · rfl

theorem toPending_goTo (e : Editor) (history : History Snapshot)
    (c? : Option (Checkpoint Snapshot)) : (e.goTo history c?).toPending = e.toPending := by
  cases c? <;> rfl

/-- Playing a register forgets the count, unless it is to play again what has not been played. -/
theorem clear_startPlayback (hop : e.operator = none) {name : Char}
    (h : name = '@' → e.lastPlayed ≠ none) : Clear (e.startPlayback name).editor := by
  have hname : ∃ register, (if name = '@' then e.lastPlayed else some name) = some register := by
    by_cases hagain : name = '@'
    · rw [if_pos hagain]
      exact Option.ne_none_iff_exists'.1 (h hagain)
    · exact ⟨name, if_neg hagain⟩
  obtain ⟨register, hregister⟩ := hname
  unfold startPlayback
  rw [hregister]
  dsimp only
  split
  · exact ⟨hop, rfl⟩
  · exact ⟨hop, rfl⟩

/-! ### Insert sessions -/

/-- The key of an insert session starts a new record of the typed text, and a recording goes on. -/
theorem commandKey_of_session (hop : e.operator = none) {c : Char} (hc : c ∈ sessionKeys) :
    (e.commandKey c).mode = .insert ∧
      (e.commandKey c).registers = e.registers.clear lastInsertRegister ∧
      (e.commandKey c).recording = e.recording := by
  have hreach (target : Target) :
      (e.startInsert.reach target).mode = .insert ∧
        (e.startInsert.reach target).registers = e.registers.clear lastInsertRegister ∧
        (e.startInsert.reach target).recording = e.recording := by
    have hop₁ : e.startInsert.operator = none := hop
    obtain ⟨cursor, modifier, selected, hreach⟩ := reach_of_no_operator hop₁ target
    rw [hreach]
    exact ⟨rfl, rfl, rfl⟩
  simp only [sessionKeys, List.mem_cons, List.not_mem_nil, or_false] at hc
  rcases hc with rfl | rfl | rfl | rfl | rfl | rfl
  · exact ⟨rfl, rfl, rfl⟩
  · by_cases hrow : e.startInsert.buffer.rowLength e.startInsert.cursor.row = 0
    · have happend : e.commandKey 'a' = e.startInsert := if_pos hrow
      rw [happend]
      exact ⟨rfl, rfl, rfl⟩
    · have happend : e.commandKey 'a' =
          { e.startInsert with
            cursor := ⟨e.startInsert.cursor.row, e.startInsert.cursor.col + 1⟩ } := if_neg hrow
      rw [happend]
      exact ⟨rfl, rfl, rfl⟩
  · exact hreach _
  · exact hreach _
  · exact ⟨rfl, rfl, rfl⟩
  · exact ⟨rfl, rfl, rfl⟩

theorem press_of_session (hm : e.mode = .normal) (hk : e.continuation = none)
    (hop : e.operator = none) (settings : Settings) {c : Char} (hc : c ∈ sessionKeys) :
    e.press settings (.char c) = .done (e.commandKey c) := by
  have hplain : c.isDigit = false ∧ e.motionKey? c = none ∧ Operator.ofKey? c = none ∧ c ≠ 'm' := by
    simp only [sessionKeys, List.mem_cons, List.not_mem_nil, or_false] at hc
    rcases hc with rfl | rfl | rfl | rfl | rfl | rfl <;> exact ⟨rfl, rfl, rfl, by decide⟩
  obtain ⟨hdigit, hmotion, hoperator, hmark⟩ := hplain
  exact press_command hm hk hop settings hdigit hmotion hoperator hmark

theorem clear_after_session {b : Buffer} (he : Reachable b e) (hm : e.mode = .insert)
    (settings : Settings) {typed : List Key} (ht : ∀ key ∈ typed, key.isEscape = false)
    {close : Key} (hclose : close.isEscape = true) :
    Clear (e.after settings (typed ++ [close])) := by
  have ho := he.traceable.orderly
  induction typed generalizing e with
  | nil =>
    obtain ⟨-, hafter⟩ | ⟨hopen, -⟩ := after_of_insert ho hm settings close
    · rw [List.nil_append, hafter]
      exact ⟨rfl, rfl⟩
    · simp [hclose] at hopen
  | cons key typed ih =>
    obtain ⟨hkey, hrest⟩ := List.forall_mem_cons.1 ht
    have hnext := he.next settings [key]
    obtain ⟨hesc, -⟩ | ⟨-, hmode, -⟩ := after_of_insert ho hm settings key
    · simp [hkey] at hesc
    · rw [List.cons_append, after_cons_of_not_recalls ho settings (recalls_of_insert ho hm key)]
      exact ih hnext hmode hrest hnext.traceable.orderly

/-! ### Cancelled commands -/

theorem press_argumentKey (hm : e.mode = .normal) (hk : e.continuation = none)
    (hop : e.operator = none) (hmod : e.modifier = none) (settings : Settings) {c : Char}
    (hc : c ∈ argumentKeys) :
    ∃ k, k ≠ .gotoPrefix ∧ e.press settings (.char c) = .done (e.awaitKey k) := by
  have hcommand {c : Char} := press_command (c := c) hm hk hop settings
  have hsame : ({ e with modifier := none } : Editor) = e :=
    congrArg (fun m => ({ e with modifier := m } : Editor)) hmod.symm
  have hmotion {c : Char} {e' : Editor} (hcount : e.countDigit? (.char c) = none)
      (hkey : e.normalChar c = e') : e.press settings (.char c) = .done e' :=
    hkey ▸ press_normalChar hm hk settings hcount
  have hjump (k : Continuation) :
      ({ e with modifier := none } : Editor).awaitKey k = e.awaitKey k :=
    congrArg (awaitKey · k) hsame
  simp only [argumentKeys, List.mem_cons, List.not_mem_nil, or_false] at hc
  rcases hc with rfl | rfl | rfl | rfl | rfl | rfl | rfl
  · exact ⟨.findChar .forward, by simp, hmotion rfl (hjump _)⟩
  · exact ⟨.findChar .backward, by simp, hmotion rfl (hjump _)⟩
  · exact ⟨.toChar .forward, by simp, hmotion rfl (hjump _)⟩
  · exact ⟨.toChar .backward, by simp, hmotion rfl (hjump _)⟩
  · exact ⟨.replaceChar, by simp, hcommand rfl rfl rfl (by decide)⟩
  · exact ⟨.startPlayback, by simp, hcommand rfl rfl rfl (by decide)⟩
  · exact ⟨.jumpToMark, by simp, hmotion rfl rfl⟩

/-- A key that is neither a character nor an escape only ends the wait. -/
theorem press_cancel {k : Continuation} (hk : e.continuation = some k) (hg : k ≠ .gotoPrefix)
    (settings : Settings) {key : Key} (hkey : ∀ c, key ≠ .char c) (hesc : key.isEscape = false) :
    e.press settings key = .done { e with continuation := none } := by
  cases key with
  | char c => exact absurd rfl (hkey c)
  | _ => simp_all [press]

section Cancelled

variable (he : e.clampCursor = e) (hm : e.mode = .normal) (hk : e.continuation = none)
  (hop : e.operator = none) (hmod : e.modifier = none) (hrec : e.recording = none)
  (settings : Settings) {first : Char} {second : Key} (hfirst : first ∈ argumentKeys)

include he hm hk hop hmod hrec hfirst

theorem clear_after_escape (hesc : second.isEscape = true) :
    Clear (e.after settings [.char first, second]) := by
  obtain ⟨k, -, hpress⟩ := press_argumentKey hm hk hop hmod settings hfirst
  have hclamped : (e.awaitKey k).clampCursor = e.awaitKey k := clampCursor_of_eq he rfl rfl rfl
  have hrec₁ : (e.awaitKey k).recording = none := hrec
  have hescape : (e.awaitKey k).press settings second = .done (e.awaitKey k).escape := by
    simp [press, hesc]
  rw [after_cons_of_press hrec hpress hclamped, after_singleton_of_press hrec₁ hescape]
  exact ⟨rfl, rfl⟩

theorem after_cancel (hsecond : ∀ c, second ≠ .char c) (hesc : second.isEscape = false) :
    e.after settings [.char first, second] = e := by
  obtain ⟨k, hg, hpress⟩ := press_argumentKey hm hk hop hmod settings hfirst
  have hclamped : (e.awaitKey k).clampCursor = e.awaitKey k := clampCursor_of_eq he rfl rfl rfl
  have hrec₁ : (e.awaitKey k).recording = none := hrec
  have hcancel : (e.awaitKey k).press settings second = .done { e with continuation := none } :=
    press_cancel rfl hg settings hsecond hesc
  rw [after_cons_of_press hrec hpress hclamped, after_singleton_of_press hrec₁ hcancel,
    continued_of_none hk, he]

end Cancelled

/-! ### What is left of a count -/

section Finish

variable {b : Buffer} (he : Reachable b e) (hm : e.mode = .normal) (hw : e.waiting = false)
  (hrec : e.recording = none) (settings : Settings)

include he hm hw hrec

/-- A register is played, but no key of it. -/
theorem clear_after_play {name : Char} (h : name = '@' → e.lastPlayed ≠ none)
    (hplayed : playedKeys (e.strokes settings [.char '@', .char name]) = []) :
    Clear (e.after settings [.char '@', .char name]) := by
  have hop := operator_of_not_waiting hw
  have hk := continuation_of_not_waiting hw
  let e₁ : Editor := e.awaitKey .startPlayback
  have hpress : e.press settings (.char '@') = .done e₁ :=
    press_command hm hk hop settings rfl rfl rfl (by decide)
  have hclamped : e₁.clampCursor = e₁ := clampCursor_of_eq he.clampCursor_eq rfl rfl rfl
  have hrec₁ : e₁.recording = none := hrec
  have hplayed₁ : playedKeys (e₁.strokes settings [.char name]) = [] := by
    have hcapture : (e.capture (.char '@')).press settings (.char '@') = .done e₁ := by
      rw [capture_of_none hrec, hpress]
    rw [strokes_cons_of_done hcapture, hclamped, playedKeys_append,
      List.append_eq_nil_iff] at hplayed
    exact hplayed.2
  rw [after_cons_of_press hrec hpress hclamped, after_singleton_of_playedKeys hplayed₁,
    capture_of_none hrec₁, press_continueWith rfl (by decide)]
  have hclear := clear_startPlayback (e := { e₁ with continuation := none }) hop h
  exact ⟨hclear.operator, hclear.repeatCount⟩

theorem clear_after_attempt {a : Attempt} (hz : a = .motion .rowStart → e.repeatCount = none)
    (hplayed : playedKeys (e.strokes settings a.keys) = [])
    (hunmapped : ¬ (CountedCommand.attempt a).Unmapped e)
    (hnone : ¬ (CountedCommand.attempt a).PlaysNone e) : Clear (e.after settings a.keys) := by
  have hclamped := he.clampCursor_eq
  have hop := operator_of_not_waiting hw
  have hk := continuation_of_not_waiting hw
  -- A key puts the cursor in order last, which is nothing to what is pending.
  have hclear {e₁ e₂ : Editor} (hafter : e₂ = e₁.clampCursor) (h₁ : Clear e₁) : Clear e₂ := by
    rw [hafter]
    exact ⟨h₁.operator, h₁.repeatCount⟩
  cases a with
  | motion m =>
    have hmark : ∀ name, m = .mark name → e.marks.get? name ≠ none := by
      rintro name rfl
      exact hunmapped
    have hstart : m = .rowStart → e.repeatCount = none := fun hrow => hz (congrArg _ hrow)
    exact hclear (after_keys m hclamped (.inl hm) hk hrec hstart settings)
      (clear_run settings (.inl hm) hk hop hstart hmark)
  | replace c =>
    refine hclear ?_ (.of_dropCounts hop (toPending_replaceChars e c))
    exact after_continueWith hclamped hm hk hrec hop rfl rfl rfl (by decide) rfl (by simp) rfl
  | deleteUnder =>
    exact hclear (after_commandKey hm hk hrec hop rfl rfl rfl (by decide))
      (.of_dropCounts hop (toPending_deleteUnder e))
  | deleteBefore =>
    exact hclear (after_commandKey hm hk hrec hop rfl rfl rfl (by decide))
      (.of_dropCounts hop (toPending_deleteBefore e))
  | put after =>
    have hput := Clear.of_dropCounts hop (toPending_put e after)
    cases after with
    | true => exact hclear (after_commandKey hm hk hrec hop rfl rfl rfl (by decide)) hput
    | false => exact hclear (after_commandKey hm hk hrec hop rfl rfl rfl (by decide)) hput
  | undo =>
    exact hclear (after_commandKey hm hk hrec hop rfl rfl rfl (by decide))
      (.of_dropCounts hop (toPending_goTo e.dropCounts _ _))
  | redo =>
    have hpress : e.press settings .ctrlR = .done e.redo := by
      simp [press, Key.isEscape, hk, modeKey_ctrlR hm]
    exact hclear (after_singleton_of_press hrec hpress)
      (.of_dropCounts hop (toPending_goTo e.dropCounts _ _))
  | play name =>
    have hlast : name = '@' → e.lastPlayed ≠ none := by
      rintro rfl hlast
      exact hnone ⟨rfl, hlast⟩
    exact clear_after_play he hm hw hrec settings hlast hplayed

/-- **A command forgets the count**, unless its second key stands for nothing. -/
theorem clear_after_command {c : CountedCommand}
    (hz : c = .attempt (.motion .rowStart) → e.repeatCount = none)
    (hplayed : playedKeys (e.strokes settings c.keys) = []) (hunmapped : ¬ c.Unmapped e)
    (hnone : ¬ c.PlaysNone e) : Clear (e.after settings c.keys) := by
  have hop := operator_of_not_waiting hw
  have hk := continuation_of_not_waiting hw
  cases c with
  | attempt a =>
    have hz₁ : a = .motion .rowStart → e.repeatCount = none := fun ha => hz (congrArg _ ha)
    exact clear_after_attempt he hm hw hrec settings hz₁ hplayed hunmapped hnone
  | session entry typed close starts goes_on closes =>
    have hcapture : (e.capture (.char entry)).press settings (.char entry) =
        .done (e.commandKey entry) := by
      rw [capture_of_none hrec]
      exact press_of_session hm hk hop settings starts
    have hmode : (e.after settings [.char entry]).mode = .insert := by
      rw [after_singleton_of_done hcapture]
      exact (commandKey_of_session hop starts).1
    show Clear (e.after settings (.char entry :: (typed ++ [close])))
    rw [after_cons_of_done hcapture]
    exact clear_after_session (he.next settings [.char entry]) hmode settings goes_on closes
  | cancelled first second waits cancels =>
    have hesc : second.isEscape = true := by simpa [CountedCommand.Unmapped] using hunmapped
    have hmod : e.modifier = none := he.traceable.orderly.modifier_eq_none hop
    exact clear_after_escape he.clampCursor_eq hm hk hop hmod hrec settings waits hesc

/-- **Where the second key stands for nothing, nothing changes.** -/
theorem after_of_unmapped {c : CountedCommand} (h : c.Unmapped e) :
    e.after settings c.keys = e := by
  have hclamped := he.clampCursor_eq
  have hop := operator_of_not_waiting hw
  have hk := continuation_of_not_waiting hw
  cases c with
  | attempt a =>
    cases a with
    | motion m =>
      cases m with
      | mark name =>
        have hnone : e.marks.get? name = none := h
        have hjump : ({ e with continuation := none } : Editor).jumpToMark name = e := by
          rw [continued_of_none hk]
          simp [jumpToMark, hnone]
        have hafter : e.after settings (Motion.mark name).keys = _ :=
          after_keys (.mark name) hclamped (.inl hm) hk hrec (by simp) settings
        exact hafter.trans ((congrArg clampCursor hjump).trans hclamped)
      | _ => exact h.elim
    | _ => exact h.elim
  | session => exact h.elim
  | cancelled first second waits cancels =>
    have hmod : e.modifier = none := he.traceable.orderly.modifier_eq_none hop
    exact after_cancel hclamped hm hk hop hmod hrec settings waits cancels h

end Finish

/-- **A count outlives its command only where there is none.** Wherever a run has led to, in normal
mode, with nothing half typed and no macro being recorded, a command is typed after a count or none.
If it plays no key, then nothing is pending afterwards, neither of the two counts, whether it could
be carried out or not. Where its second key stands for nothing, nothing has changed but that the
count has been typed. (Playing again is left out where nothing has been played.) -/
theorem pending_after_counted {b : Buffer} (he : Reachable b e) (hm : e.mode = .normal)
    (hw : e.waiting = false) (hn : e.repeatCount = none) (hrec : e.recording = none)
    (settings : Settings) (digits : Text) (hd : digits.all Char.isDigit = true)
    (hz : digits.head? ≠ some '0') (c : CountedCommand)
    (hstart : c = .attempt (.motion .rowStart) → digits = []) :
    let keys := digits.map Key.char ++ c.keys
    let e' := e.after settings keys
    (¬ c.Unmapped e → ¬ c.PlaysNone e → playedKeys (e.strokes settings keys) = [] →
      e'.toPending = {}) ∧
      (c.Unmapped e → e' = { e with repeatCount := typedCount? digits }) := by
  intro keys e'
  have hclamped := he.clampCursor_eq
  have hk := continuation_of_not_waiting hw
  let e₁ : Editor := { e with repeatCount := typedCount? digits }
  have hcount (rest : List Key) : e.after settings (digits.map Key.char ++ rest) =
      e₁.after settings rest := after_count settings hclamped (.inl hm) hk hrec hn hd hz rest
  have he₁ : Reachable b e₁ := by
    have hdigits : e.after settings (digits.map Key.char) = e₁ := by
      have hnone := hcount []
      rw [List.append_nil] at hnone
      exact hnone
    exact hdigits ▸ he.next settings (digits.map Key.char)
  have hafter : e' = e₁.after settings c.keys := hcount c.keys
  constructor
  · intro hunmapped hnone hplayed
    have hplayed₁ : playedKeys (e₁.strokes settings c.keys) = [] := by
      obtain ⟨t, hstrokes⟩ := exists_strokes_count settings hclamped hm hk hrec hn hd hz c.keys
      rw [hstrokes, playedKeys_append, List.append_eq_nil_iff] at hplayed
      exact hplayed.2
    have hstart₁ : c = .attempt (.motion .rowStart) → e₁.repeatCount = none := by
      intro hc
      show typedCount? digits = none
      rw [hstart hc]
      rfl
    have hclear := clear_after_command he₁ hm hw hrec settings hstart₁ hplayed₁ hunmapped hnone
    rw [← hafter] at hclear
    exact hclear.toPending_eq (he.next settings keys).traceable.orderly
  · intro hunmapped
    exact hafter.trans (after_of_unmapped he₁ hm hw hrec settings hunmapped)

/-- A jump to a character that is not there forgets its count, and the deletion that follows is of
one character. A replacement that the enter key cancels does not, and the deletion is of three. -/
theorem pending_after_counted_cancelled :
    ∃ e : Editor, Reachable ⟨['a', 'b', 'c', 'd']⟩ e ∧ e.mode = .normal ∧ e.waiting = false ∧
      e.repeatCount = none ∧ e.recording = none ∧
      let jump : Attempt := .motion (.jump ⟨'z', .find, .forward⟩)
      (e.after {} (.char '3' :: jump.keys)).toPending = {} ∧
        (e.after {} (.char '3' :: (jump.keys ++ [.char 'x']))).buffer = ⟨['a', 'c', 'd']⟩ ∧
        e.after {} [.char '3', .char 'r', .enter] = { e with repeatCount := some 3 } ∧
        (e.after {} [.char '3', .char 'r', .enter, .char 'x']).buffer = ⟨['a']⟩ := by
  have he : Reachable ⟨['a', 'b', 'c', 'd']⟩ _ := .first {} [.char 'l']
  let jump : Attempt := .motion (.jump ⟨'z', .find, .forward⟩)
  obtain ⟨hm, hw, hn, hrec, hjump, hone, hthree⟩ :
      let e := ofResult (interpret {} ⟨['a', 'b', 'c', 'd']⟩ none [.char 'l'])
      e.mode = .normal ∧ e.waiting = false ∧ e.repeatCount = none ∧ e.recording = none ∧
        playedKeys (e.strokes {} (.char '3' :: jump.keys)) = [] ∧
        (e.after {} (.char '3' :: (jump.keys ++ [.char 'x']))).buffer = ⟨['a', 'c', 'd']⟩ ∧
        (e.after {} [.char '3', .char 'r', .enter, .char 'x']).buffer = ⟨['a']⟩ := by
    decide +kernel
  let cancelled : CountedCommand := .cancelled 'r' .enter (by decide) (by simp)
  have hforgets := (pending_after_counted he hm hw hn hrec {} ['3'] (by decide) (by decide)
    (.attempt jump) (by simp [jump])).1 id (by simp [jump, CountedCommand.PlaysNone]) hjump
  have hleaves := (pending_after_counted he hm hw hn hrec {} ['3'] (by decide) (by decide)
    cancelled (by simp [cancelled])).2 rfl
  exact ⟨_, he, hm, hw, hn, hrec, hforgets, hone, hleaves, hthree⟩

/-- A jump to a mark that is not set leaves its count, so that the next key deletes three
characters. -/
theorem count_outlives_jump :
    ∃ e : Editor, Reachable ⟨['a', 'b', 'c']⟩ e ∧ e.mode = .normal ∧ e.waiting = false ∧
      e.repeatCount = none ∧ e.recording = none ∧
      let c : CountedCommand := .attempt (.motion (.mark 'z'))
      playedKeys (e.strokes {} (.char '3' :: c.keys)) = [] ∧
        (e.after {} (.char '3' :: c.keys)).repeatCount = some 3 ∧
        (e.after {} (.char '3' :: (c.keys ++ [.char 'x']))).buffer = ⟨[]⟩ := by
  have he : Reachable ⟨['a', 'b', 'c']⟩ _ := .first {} []
  exact ⟨_, he, by decide +kernel⟩

end Editor

end ModalEditor
