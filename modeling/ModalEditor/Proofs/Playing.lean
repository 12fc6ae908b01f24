import ModalEditor.Proofs.Limits
import ModalEditor.Proofs.Undo

/-!
# Playing is typing

A macro that is played does what typing its keys would do (`play_eq_type`). The two calls are run
side by side (`Mirrors`): the macro at the bottom of the one stack holds the keys that are still to
be typed in the other call, and the macros above it are the same. A key then meets the same editor
in both. It is one deeper in the first call, and it costs there, but neither matters as long as no
limit cuts playback short, and that typed keys are recorded does not matter as long as nothing is.
-/

namespace ModalEditor

/-- The keys that are left of a macro under way. -/
def Frame.left (f : Frame) : List Key := f.rest ++ (List.replicate f.rounds f.keys).flatten

/-- The key starts a recording. -/
def Stroke.startsRecording (s : Stroke) (settings : Settings) : Bool :=
  s.before.recording.isNone && (s.after settings).recording.isSome

theorem Allowance.spend?_of_pos {a : Allowance} (h : 0 < a.remaining) :
    a.spend? = some { a with remaining := a.remaining - 1 } := by
  obtain ⟨maxDepth, remaining, truncated⟩ := a
  cases remaining with
  | zero => simp at h
  | succ n => rfl

/-! ### The macro at the bottom of the stack -/

theorem nextKey?_append_singleton (inner : List Frame) (base : Frame) :
    nextKey? (inner ++ [base]) =
      match nextKey? inner with
      | some (key, rest) => some (key, rest ++ [base])
      | none => nextKey? [base] := by
  fun_induction nextKey? inner with
  | case1 => rfl
  | case2 => rfl
  | case3 => rfl
  | case4 rounds frames ih => simpa [nextKey?] using ih
  | case5 keys frames hne ih => simpa [nextKey?] using ih

theorem left_of_nextKey?_eq_none {base : Frame} (h : nextKey? [base] = none) : base.left = [] := by
  obtain ⟨rest, keys, rounds⟩ := base
  cases rest with
  | cons key rest => simp [nextKey?] at h
  | nil =>
    cases keys with
    | nil => simp [Frame.left]
    | cons key keys =>
      cases rounds with
      | zero => simp [Frame.left]
      | succ rounds => simp [nextKey?] at h

/-- The next key of a macro is the first that is left of it. -/
theorem left_of_nextKey? {base : Frame} {key : Key} {rest : List Frame}
    (h : nextKey? [base] = some (key, rest)) :
    ∃ base' : Frame, rest = [base'] ∧ base.left = key :: base'.left := by
  obtain ⟨rest', keys, rounds⟩ := base
  cases rest' with
  | cons key' rest' =>
    obtain ⟨rfl, rfl⟩ : key' = key ∧ [⟨rest', keys, rounds⟩] = rest := by simpa [nextKey?] using h
    exact ⟨_, rfl, rfl⟩
  | nil =>
    cases keys with
    | nil => simp [nextKey?] at h
    | cons key' keys =>
      cases rounds with
      | zero => simp [nextKey?] at h
      | succ rounds =>
        obtain ⟨rfl, rfl⟩ : key' = key ∧ [⟨keys, key' :: keys, rounds⟩] = rest := by
          simpa [nextKey?] using h
        exact ⟨_, rfl, by simp [Frame.left, List.replicate_succ]⟩

/-- A key that starts no recording leaves none under way, if there was none. -/
theorem Stroke.recording_after {s : Stroke} {settings : Settings}
    (hbefore : s.before.recording = none) (hquiet : s.startsRecording settings = false) :
    (s.after settings).recording = none := by
  simpa [startsRecording, hbefore] using hquiet

/-! ### Side by side -/

namespace Call

variable {settings : Settings} {c c' d : Call} {t : List Stroke}

/-- **A call that plays a macro beside one that has its keys typed.** -/
inductive Mirrors : Call → Call → Prop where
  /-- What is left of the macro at the bottom is still to be typed. -/
  | playing {a a' : Allowance} (inner : List Frame) (base : Frame) {e : Editor}
    (clamped : e.clampCursor = e) (recording : e.recording = none)
    (depth : a.maxDepth ≤ a'.maxDepth) (budget : a.remaining ≤ a'.remaining)
    (uncut : a'.truncated = false) :
    Mirrors ⟨a, inner ++ [base], [], e⟩ ⟨a', inner, base.left, e⟩
  /-- Both are over. -/
  | ended {a a' : Allowance} (e : Editor) (uncut : a'.truncated = false) :
    Mirrors ⟨a, [], [], e⟩ ⟨a', [], [], e⟩

/-- Pressing the same key in both, less deep in the second, keeps them side by side. -/
theorem Mirrors.pressed {a a' : Allowance} (inner : List Frame) (base : Frame) {e : Editor}
    {s s' : Stroke} (hclamped : e.clampCursor = e)
    (houtcome : s.outcome settings = e.press settings s.key)
    (hsame : s'.outcome settings = s.outcome settings) (hdepth : s'.depth ≤ s.depth)
    (hrecording : (s.after settings).recording = none) (hmax : a.maxDepth ≤ a'.maxDepth)
    (hbudget : a.remaining ≤ a'.remaining) (huncut : a'.truncated = false)
    (hcut : (Call.pressed ⟨a, inner ++ [base], [], e⟩ settings s).allowance.truncated = false) :
    Mirrors (Call.pressed ⟨a, inner ++ [base], [], e⟩ settings s)
      (Call.pressed ⟨a', inner, base.left, e⟩ settings s') := by
  unfold Stroke.after at hrecording
  unfold Call.pressed at hcut ⊢
  rw [hsame]
  cases hpress : s.outcome settings with
  | done e' =>
    rw [hpress] at hrecording
    exact .playing inner base (Editor.clampCursor_clampCursor e') hrecording hmax hbudget huncut
  | play e' keys times =>
    have hclamped' := Editor.clampCursor_of_press_eq_play hclamped (houtcome.symm.trans hpress)
    simp only [hpress] at hrecording hcut ⊢
    by_cases hpermits : a.permits (s.depth + 1) = true
    · have hpermits' : a'.permits (s'.depth + 1) = true := by
        simp only [Allowance.permits, decide_eq_true_eq] at hpermits ⊢
        omega
      rw [if_pos hpermits, if_pos hpermits', ← List.cons_append]
      exact .playing (.fresh keys times :: inner) base hclamped' hrecording hmax hbudget huncut
    · rw [if_neg hpermits] at hcut
      simp [Allowance.markTruncated] at hcut

theorem truncated_pressed (c : Call) (settings : Settings) (s : Stroke)
    (hc : c.allowance.truncated = true) : (c.pressed settings s).allowance.truncated = true := by
  unfold Call.pressed
  split
  · exact hc
  · split
    · exact hc
    · rfl

/-- Playback that has been cut short stays so. -/
theorem Step.truncated (h : Step settings c t c') (hc : c.allowance.truncated = true) :
    c'.allowance.truncated = true := by
  cases h with
  | typed a key keys e => exact truncated_pressed _ settings _ hc
  | played typed e next spend =>
    refine truncated_pressed _ settings _ ?_
    rw [eq_of_spend spend]
    exact hc
  | through a typed e under next => exact hc
  | cut typed e next spend => rfl

theorem Run.truncated (h : Run settings c t c') (hc : c.allowance.truncated = true) :
    c'.allowance.truncated = true := by
  induction h with
  | refl c => exact hc
  | step head tail ih => exact ih (head.truncated hc)

/-- The macros that are through are left, which changes nothing if the cursor is in order. -/
theorem Run.leave {a : Allowance} {frames : List Frame} {e : Editor} (settings : Settings)
    (typed : List Key) (hclamped : e.clampCursor = e) (hnext : nextKey? frames = none) :
    Run settings ⟨a, frames, typed, e⟩ [] ⟨a, [], typed, e⟩ := by
  cases frames with
  | nil => exact .refl _
  | cons f frames =>
    have hthrough : Step settings ⟨a, f :: frames, typed, e⟩ [] _ :=
      .through a typed e (by simp) hnext
    rw [hclamped] at hthrough
    exact .single hthrough

/-- **A step of the one call is matched by the other**, unless it cuts playback short or begins a
recording. -/
theorem Mirrors.step (h : Mirrors c d) (hstep : Step settings c t c')
    (hcut : c'.allowance.truncated = false)
    (hquiet : ∀ s ∈ t, 0 < s.depth → s.startsRecording settings = false) :
    ∃ u d', Run settings d u d' ∧ Mirrors c' d' := by
  cases h with
  | ended e uncut => exact absurd hstep (IsOver.not_step ⟨rfl, rfl⟩)
  | @playing a a' inner base e clamped recording depth budget uncut =>
    generalize hframes : inner ++ [base] = frames at hstep
    cases hstep with
    | cut typed e next spend => simp [Allowance.markTruncated] at hcut
    | through a typed e under next =>
      rw [← hframes, nextKey?_append_singleton] at next
      cases hinner : nextKey? inner with
      | some step => simp [hinner] at next
      | none =>
        rw [hinner] at next
        -- The second call may still have macros to leave.
        refine ⟨[], _, .leave settings base.left clamped hinner, ?_⟩
        rw [left_of_nextKey?_eq_none next, clamped]
        exact .ended e uncut
    | @played a a₁ frames rest key typed e next spend =>
      have hrest := (length_of_nextKey? next).1
      have houtcome : (⟨rest.length, key, e⟩ : Stroke).outcome settings = e.press settings key :=
        Editor.outcome_played hrest
      have hrecording := Stroke.recording_after recording
        (hquiet _ (List.mem_singleton_self _) hrest)
      have hremaining := Allowance.remaining_of_spend spend
      rw [← maxDepth_of_spend spend] at depth
      rw [← hframes, nextKey?_append_singleton] at next
      cases hinner : nextKey? inner with
      | none =>
        -- The macro at the bottom has the next key: it is typed in the second call.
        rw [hinner] at next
        obtain ⟨base', rfl, hleft⟩ := left_of_nextKey? next
        have htyped : Step settings ⟨a', [], base.left, e⟩ _ _ :=
          hleft ▸ Step.typed a' key base'.left e
        have htypedOutcome : (⟨0, key, e⟩ : Stroke).outcome settings = e.press settings key := by
          show (e.capture key).press settings key = _
          rw [Editor.capture_of_none recording]
        refine ⟨_, _, (Run.leave settings base.left clamped hinner).append (.single htyped), ?_⟩
        exact .pressed [] base' clamped houtcome (htypedOutcome.trans houtcome.symm)
          (Nat.zero_le _) hrecording depth (by omega) uncut hcut
      | some step =>
        -- A macro above it has the next key: it is played in the second call too.
        obtain ⟨key', rest'⟩ := step
        rw [hinner] at next
        obtain ⟨rfl, rfl⟩ : key' = key ∧ rest' ++ [base] = rest := by simpa using next
        have hinnerRest := (length_of_nextKey? hinner).1
        have hinnerOutcome : (⟨rest'.length, key', e⟩ : Stroke).outcome settings =
            e.press settings key' := Editor.outcome_played hinnerRest
        have hspend := Allowance.spend?_of_pos (a := a') (by omega)
        have hplayed : Step settings ⟨a', inner, base.left, e⟩ _ _ :=
          .played base.left e hinner hspend
        refine ⟨_, _, .single hplayed, ?_⟩
        exact .pressed rest' base clamped houtcome (hinnerOutcome.trans houtcome.symm)
          (by simp) hrecording depth (by dsimp only; omega) uncut hcut

/-- **The call that plays comes to its end beside the one that types.** -/
theorem Mirrors.run (h : Mirrors c d) (hrun : Run settings c t c') (hover : c'.IsOver)
    (hcut : c'.allowance.truncated = false)
    (hquiet : ∀ s ∈ t, 0 < s.depth → s.startsRecording settings = false) :
    ∃ u d', Run settings d u d' ∧ d'.IsOver ∧ d'.editor = c'.editor ∧
      d'.allowance.truncated = false := by
  induction hrun generalizing d with
  | refl c =>
    cases h with
    | playing inner base clamped recording depth budget uncut => simp [IsOver] at hover
    | ended e uncut => exact ⟨[], _, .refl _, ⟨rfl, rfl⟩, rfl, uncut⟩
  | @step c c₁ c' t t' head tail ih =>
    have huncut : c₁.allowance.truncated = false := by
      rw [← Bool.not_eq_true]
      intro htruncated
      simp [tail.truncated htruncated] at hcut
    obtain ⟨u, d₁, hu, h₁⟩ := h.step head huncut fun s hs => hquiet s (by simp [hs])
    obtain ⟨u', d', hu', hd'⟩ := ih h₁ hover hcut fun s hs => hquiet s (by simp [hs])
    exact ⟨u ++ u', d', hu.append hu', hd'⟩

end Call

namespace Editor

open Call

section Play

variable {e : Editor} {name : Char}

/-- A typed key that plays nothing, where the cursor is in order after it and nothing recorded. -/
theorem step_of_done {e' : Editor} {settings : Settings} {key : Key} (a : Allowance)
    (keys : List Key) (hrec : e.recording = none) (hpress : e.press settings key = .done e')
    (hclamped : e'.clampCursor = e') :
    Step settings ⟨a, [], key :: keys, e⟩ [⟨0, key, e⟩] ⟨a, [], keys, e'⟩ := by
  have hstep : Step settings ⟨a, [], key :: keys, e⟩ _ _ := .typed a key keys e
  have houtcome : (⟨0, key, e⟩ : Stroke).outcome settings = .done e' := by
    show (e.capture key).press settings key = _
    rw [capture_of_none hrec, hpress]
  simp only [Call.pressed, houtcome, hclamped] at hstep
  exact hstep

theorem run_digits (settings : Settings) (a : Allowance) (keys : List Key) (digits : Text) :
    ∀ {e : Editor}, e.clampCursor = e → e.mode = .normal → e.continuation = none →
      e.recording = none → digits.all Char.isDigit = true →
      e.repeatCount.isSome = true ∨ digits.head? ≠ some '0' →
      ∃ t, Run settings ⟨a, [], digits.map Key.char ++ keys, e⟩ t
        ⟨a, [], keys,
          { e with
            repeatCount := if digits.isEmpty then e.repeatCount else
              some (digits.foldl (fun n c => pushDigit n (c.toNat - '0'.toNat))
                (e.repeatCount.getD 0)) }⟩ := by
  induction digits with
  | nil => exact fun _ _ _ _ _ _ => ⟨[], .refl _⟩
  | cons c digits ih =>
    intro e hclamped hm hk hrec hd hz
    have hdigits : c.isDigit = true ∧ digits.all Char.isDigit = true := by simpa using hd
    have hpress := press_digit (.inl hm) hk settings
      (countDigit?_of_isDigit hdigits.1 (hz.imp id (by simp)))
    have hclamped₁ : (e.typeDigit (c.toNat - '0'.toNat)).clampCursor = _ :=
      clampCursor_of_eq hclamped rfl rfl rfl
    obtain ⟨t, ht⟩ := ih hclamped₁ hm hk hrec hdigits.2 (.inl rfl)
    have hrun := Run.step (step_of_done a _ hrec hpress hclamped₁) ht
    cases digits with
    | nil => exact ⟨_, hrun⟩
    | cons c' digits => exact ⟨_, hrun⟩

/-- The count that digits make, if there are any. -/
def typedCount? (digits : Text) : Option Nat :=
  if digits.isEmpty then none
  else some (digits.foldl (fun n c => pushDigit n (c.toNat - '0'.toNat)) 0)

theorem getD_typedCount? (digits : Text) :
    (typedCount? digits).getD 1 =
      if digits.isEmpty then 1 else min (ofDigits digits) maxCount := by
  cases digits with
  | nil => rfl
  | cons c digits => simpa [typedCount?, ofDigits] using foldl_pushDigit (c :: digits) 0

theorem run_count {digits : Text} (settings : Settings) (a : Allowance) (keys : List Key)
    (he : e.clampCursor = e) (hm : e.mode = .normal) (hk : e.continuation = none)
    (hrec : e.recording = none) (hn : e.repeatCount = none) (hd : digits.all Char.isDigit = true)
    (hz : digits.head? ≠ some '0') :
    ∃ t, Run settings ⟨a, [], digits.map Key.char ++ keys, e⟩ t
      ⟨a, [], keys, { e with repeatCount := typedCount? digits }⟩ := by
  have h := run_digits settings a keys digits he hm hk hrec hd (.inr hz)
  rw [hn, Option.getD_none] at h
  exact h

theorem dropCounts_eq (hop : e.operatorCount = none) (hn : e.repeatCount = none) :
    e.dropCounts = e :=
  calc
    e.dropCounts = { e with repeatCount := none } :=
      congrArg (fun m => ({ e with operatorCount := m, repeatCount := none } : Editor)) hop.symm
    _ = e := congrArg (fun n => ({ e with repeatCount := n } : Editor)) hn.symm

/-- The name of a register is typed after `@`, where only a count has been typed before. -/
theorem press_play (hk : e.continuation = none) (hop : e.operatorCount = none)
    (hn : e.repeatCount = none) (hname : name ≠ '@') (settings : Settings) (count? : Option Nat) :
    let e₁ : Editor := { e with lastPlayed := some name }
    (({ e with repeatCount := count? } : Editor).awaitKey .startPlayback).press settings
      (.char name) =
        if (e.registers.keysOf name).isEmpty then .done e₁
        else .play e₁ (e.registers.keysOf name) (count?.getD 1) := by
  intro e₁
  rw [press_continueWith rfl (by decide)]
  show ({ e with repeatCount := count?, continuation := none } : Editor).startPlayback name = _
  rw [← hk]
  have hdropped : ({ e.dropCounts with lastPlayed := some name } : Editor) = e₁ := by
    rw [dropCounts_eq hop hn]
  have hcount : ({ e with repeatCount := count? } : Editor).count = count?.getD 1 :=
    count_of_operatorCount hop
  rw [← hdropped, ← hcount]
  simp only [startPlayback, hname]
  rfl

/-- A count, `@` and the name of a register are typed. -/
theorem run_play (he : e.clampCursor = e) (ho : e.control.Orderly) (hm : e.mode = .normal)
    (hw : e.waiting = false) (hn : e.repeatCount = none) (hrec : e.recording = none)
    (hname : name ≠ '@') (digits : Text) (hd : digits.all Char.isDigit = true)
    (hz : digits.head? ≠ some '0') (settings : Settings) (a : Allowance) :
    let times := if digits.isEmpty then 1 else min (ofDigits digits) maxCount
    let keys := e.registers.keysOf name
    let e₁ : Editor := { e with lastPlayed := some name }
    ∃ t, Run settings ⟨a, [], digits.map Key.char ++ [.char '@', .char name], e⟩ t
      (if keys.isEmpty then ⟨a, [], [], e₁⟩
        else if a.permits 1 then ⟨a, [.fresh keys times], [], e₁⟩
        else ⟨a.markTruncated, [], [], e₁⟩) := by
  intro times keys e₁
  have hk := continuation_of_not_waiting hw
  have hop := operator_of_not_waiting hw
  obtain ⟨t, hdigits⟩ := run_count settings a [.char '@', .char name] he hm hk hrec hn hd hz
  have htimes : _ = times := getD_typedCount? digits
  generalize typedCount? digits = count? at hdigits htimes
  let e₂ : Editor := { e with repeatCount := count? }
  have hat : e₂.press settings (.char '@') = .done (e₂.awaitKey .startPlayback) :=
    press_command (e := e₂) hm hk hop settings (by decide) rfl rfl (by decide)
  have hwait := step_of_done (e := e₂) a [.char name] hrec hat (clampCursor_of_eq he rfl rfl rfl)
  have hplay : (⟨0, .char name, e₂.awaitKey .startPlayback⟩ : Stroke).outcome settings =
      if keys.isEmpty then .done e₁ else .play e₁ keys times := by
    show ((e₂.awaitKey .startPlayback).capture (.char name)).press settings (.char name) = _
    rw [capture_of_none (e := e₂.awaitKey .startPlayback) hrec, ← htimes]
    exact press_play hk (ho.operatorCount_eq_none hop) hn hname settings count?
  have hlast : Step settings ⟨a, [], [.char name], e₂.awaitKey .startPlayback⟩ _ _ :=
    .typed a (.char name) [] _
  have hclamped₁ : e₁.clampCursor = e₁ := clampCursor_of_eq he rfl rfl rfl
  unfold Call.pressed at hlast
  rw [hplay] at hlast
  by_cases hkeys : keys.isEmpty
  · simp only [if_pos hkeys, hclamped₁] at hlast ⊢
    exact ⟨_, hdigits.append (.step hwait (.single hlast))⟩
  · simp only [if_neg hkeys, hclamped₁, Nat.zero_add] at hlast ⊢
    exact ⟨_, hdigits.append (.step hwait (.single hlast))⟩

/-- **Playing a macro is typing it.** In normal mode, with nothing half typed and nothing being
recorded, a register is played, after a count or none. If no limit cuts that short and no key that
is played starts a recording, then it leads where typing the keys of the register leads, as often as
the count says, from the editor that has noted the name. No limit cuts that short either. What the
macro does to its own register while it runs makes no difference. -/
theorem play_eq_type {b : Buffer} (he : Reachable b e) (hm : e.mode = .normal)
    (hw : e.waiting = false) (hn : e.repeatCount = none) (hrec : e.recording = none)
    (hname : name ≠ '@') (digits : Text) (hd : digits.all Char.isDigit = true)
    (hz : digits.head? ≠ some '0') (settings : Settings) :
    let played := digits.map Key.char ++ [.char '@', .char name]
    let times := if digits.isEmpty then 1 else min (ofDigits digits) maxCount
    let typed := (List.replicate times (e.registers.keysOf name)).flatten
    let e₁ : Editor := { e with lastPlayed := some name }
    e.cutShort settings played = false →
      (∀ s ∈ e.strokes settings played, 0 < s.depth → s.startsRecording settings = false) →
        e.after settings played = e₁.after settings typed ∧
          e₁.cutShort settings typed = false := by
  intro played times typed e₁ hcut hquiet
  have hclamped : e.clampCursor = e := he.clampCursor_eq
  have hclamped₁ : e₁.clampCursor = e₁ := clampCursor_of_eq hclamped rfl rfl rfl
  obtain ⟨t, hrun⟩ := run_play hclamped he.traceable.orderly hm hw hn hrec hname digits hd hz
    settings (.ofSettings settings)
  by_cases hkeys : (e.registers.keysOf name).isEmpty
  · -- The register is empty: there is nothing to type.
    rw [if_pos hkeys] at hrun
    obtain ⟨-, hafter, -⟩ := hrun.eq_of_isOver ⟨rfl, rfl⟩
    have htyped : typed = [] := by simp [typed, List.isEmpty_iff.1 hkeys]
    rw [hafter, htyped]
    exact ⟨rfl, rfl⟩
  · rw [if_neg hkeys] at hrun
    by_cases hpermits : (Allowance.ofSettings settings).permits 1 = true
    · rw [if_pos hpermits] at hrun
      have hreplay := run_replay settings (.ofSettings settings) [] e₁
        (List.cons_ne_nil (Frame.fresh (e.registers.keysOf name) times) [])
      obtain ⟨hstrokes, hafter, hcutShort⟩ := (hrun.append hreplay).eq_of_isOver ⟨rfl, rfl⟩
      have hmirrors : Mirrors
          ⟨.ofSettings settings, [.fresh (e.registers.keysOf name) times], [], e₁⟩
          (e₁.call settings typed) :=
        .playing [] (.fresh (e.registers.keysOf name) times) hclamped₁ hrec (Nat.le_refl _)
          (Nat.le_refl _) rfl
      obtain ⟨u, d, hu, hover, heditor, huncut⟩ := hmirrors.run hreplay ⟨rfl, rfl⟩
        (hcutShort.symm.trans hcut) fun s hs => hquiet s (hstrokes ▸ List.mem_append_right t hs)
      obtain ⟨-, hafter₁, hcutShort₁⟩ := hu.eq_of_isOver hover
      rw [hafter, hafter₁, heditor, hcutShort₁, huncut]
      exact ⟨rfl, rfl⟩
    · -- Not even one macro may be played, so that this one is cut short.
      rw [if_neg hpermits] at hrun
      obtain ⟨-, -, hcutShort⟩ := hrun.eq_of_isOver ⟨rfl, rfl⟩
      have htrue : e.cutShort settings played = true := hcutShort
      simp [htrue] at hcut

/-- A macro that is played twice plays another, and yanks into its own register. -/
theorem play_eq_type_rewriting :
    ∃ e : Editor, Reachable ⟨['"', 'a', 'y', 'l', '@', 'b']⟩ e ∧ e.mode = .normal ∧
      e.waiting = false ∧ e.repeatCount = none ∧ e.recording = none ∧
        e.registers.keysOf 'a' =
          [.char '"', .char 'a', .char 'y', .char 'l', .char '@', .char 'b'] ∧
        e.cutShort {} [.char '2', .char '@', .char 'a'] = false ∧
        (∀ s ∈ e.strokes {} [.char '2', .char '@', .char 'a'], 0 < s.depth →
          s.startsRecording {} = false) ∧
        (∃ s ∈ e.strokes {} [.char '2', .char '@', .char 'a'], s.depth = 2) ∧
          e.after {} [.char '2', .char '@', .char 'a'] =
            ({ e with lastPlayed := some 'a' } : Editor).after {}
              [.char '"', .char 'a', .char 'y', .char 'l', .char '@', .char 'b',
                .char '"', .char 'a', .char 'y', .char 'l', .char '@', .char 'b'] ∧
          (e.after {} [.char '2', .char '@', .char 'a']).registers.read 'a' = ['y'] := by
  obtain ⟨e, he, hm, hw, hn, hrec, hkeys, hcut, hquiet, hdeep, hread⟩ : ∃ e : Editor,
      Reachable ⟨['"', 'a', 'y', 'l', '@', 'b']⟩ e ∧ e.mode = .normal ∧
        e.waiting = false ∧ e.repeatCount = none ∧ e.recording = none ∧
          e.registers.keysOf 'a' =
            [.char '"', .char 'a', .char 'y', .char 'l', .char '@', .char 'b'] ∧
          e.cutShort {} [.char '2', .char '@', .char 'a'] = false ∧
          (∀ s ∈ e.strokes {} [.char '2', .char '@', .char 'a'], 0 < s.depth →
            s.startsRecording {} = false) ∧
          (∃ s ∈ e.strokes {} [.char '2', .char '@', .char 'a'], s.depth = 2) ∧
            (e.after {} [.char '2', .char '@', .char 'a']).registers.read 'a' = ['y'] :=
    ⟨_, .first {} [.char '"', .char 'a', .char 'y', .char '$', .char 'q', .char 'b', .char 'l',
      .char 'q'], by decide +kernel⟩
  obtain ⟨heq, -⟩ := play_eq_type he hm hw hn hrec (by decide) ['2'] (by decide) (by decide) {}
    hcut hquiet
  rw [hkeys] at heq
  exact ⟨e, he, hm, hw, hn, hrec, hkeys, hcut, hquiet, hdeep, heq, hread⟩

end Play

end Editor

end ModalEditor
