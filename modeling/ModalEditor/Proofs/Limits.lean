import ModalEditor.Proofs.Calls

/-!
# The limits of playback

Every played key costs one of the allowance, and no macro goes on a stack that is as high as the
settings allow. So a call comes to its end however macros play and rewrite each other
(`Call.wellFounded_step`), and what it plays is within both limits (`playback_bounded`). Typed keys
cost nothing: all of them are pressed, also those after a playback that was cut short.
-/

namespace ModalEditor

namespace Call

variable {settings : Settings} {c c' : Call} {t : List Stroke}

/-! ### What a step uses up -/

@[simp] theorem typedKeys_of_depth_pos {s : Stroke} (h : 0 < s.depth) : typedKeys [s] = [] := by
  simp [typedKeys, Nat.ne_of_gt h]

@[simp] theorem playedKeys_of_depth_pos {s : Stroke} (h : 0 < s.depth) :
    playedKeys [s] = [s.key] := by
  simp [playedKeys, h]

/-- Typed keys are pressed in order, one at a time. -/
theorem Step.typed_eq (h : Step settings c t c') : c.typed = typedKeys t ++ c'.typed := by
  cases h with
  | typed a key keys e => simp
  | played typed e next spend => simp [length_of_nextKey? next]
  | through a typed e under next => rfl
  | cut typed e next spend => rfl

/-- A played key costs one of the allowance. -/
theorem Step.remaining_eq (h : Step settings c t c') :
    c.allowance.remaining = (playedKeys t).length + c'.allowance.remaining := by
  cases h with
  | typed a key keys e => simp
  | played typed e next spend =>
    simp [length_of_nextKey? next, Allowance.remaining_of_spend spend, Nat.add_comm]
  | through a typed e under next => simp
  | cut typed e next spend => simp

theorem eq_of_spend {a a' : Allowance} (h : a.spend? = some a') :
    a' = { a with remaining := a'.remaining } := by
  unfold Allowance.spend? at h
  split at h
  · simp at h
  · obtain rfl := Option.some.inj h
    rfl

theorem maxDepth_of_spend {a a' : Allowance} (h : a.spend? = some a') :
    a'.maxDepth = a.maxDepth := by
  rw [eq_of_spend h]

theorem length_frames_pressed_le {s : Stroke} (hs : s.depth = c.frames.length)
    (hc : c.frames.length ≤ c.allowance.maxDepth) :
    (c.pressed settings s).frames.length ≤ c.allowance.maxDepth := by
  obtain hframes | ⟨hdepth, f, hframes⟩ := frames_pressed c settings s
  · rwa [hframes]
  · rw [hframes, List.length_cons]
    omega

/-- A key is as deep as the stack is high that it leaves, which is within the limit. -/
theorem Step.depth_le (h : Step settings c t c') (hc : c.frames.length ≤ c.allowance.maxDepth) :
    (∀ s ∈ t, s.depth ≤ c.allowance.maxDepth) ∧ c'.frames.length ≤ c.allowance.maxDepth ∧
      c'.allowance.maxDepth = c.allowance.maxDepth := by
  cases h with
  | typed a key keys e =>
    exact ⟨by simp, length_frames_pressed_le rfl (Nat.zero_le _), by simp⟩
  | @played a a' frames rest key typed e next spend =>
    have hrest : rest.length ≤ a'.maxDepth := by
      rw [maxDepth_of_spend spend]
      exact Nat.le_trans (length_of_nextKey? next).2 hc
    refine ⟨by simpa [← maxDepth_of_spend spend] using hrest, ?_, by simp [maxDepth_of_spend spend]⟩
    rw [← maxDepth_of_spend spend]
    exact length_frames_pressed_le rfl hrest
  | through a typed e under next => simp
  | cut typed e next spend => simp [Allowance.markTruncated]

/-- How many more steps a call can take at most: two for each key, since the macros that it plays
are left in a step of their own. -/
def stepsLeft (c : Call) : Nat :=
  2 * (c.typed.length + c.allowance.remaining) + if c.frames.isEmpty then 0 else 1

theorem stepsLeft_pressed_le (c : Call) (settings : Settings) (s : Stroke) :
    (c.pressed settings s).stepsLeft ≤ 2 * (c.typed.length + c.allowance.remaining) + 1 := by
  simp only [stepsLeft, typed_pressed, remaining_pressed]
  split <;> omega

/-- Every step uses up one. -/
theorem Step.stepsLeft_lt (h : Step settings c t c') : c'.stepsLeft < c.stepsLeft := by
  cases h with
  | typed a key keys e =>
    have hle := stepsLeft_pressed_le ⟨a, [], keys, e⟩ settings ⟨0, key, e⟩
    simp only [stepsLeft, List.length_cons] at hle ⊢
    omega
  | @played a a' frames rest key typed e next spend =>
    have hle := stepsLeft_pressed_le ⟨a', rest, typed, e⟩ settings ⟨rest.length, key, e⟩
    have hspend := Allowance.remaining_of_spend spend
    simp only [stepsLeft] at hle ⊢
    omega
  | through a typed e under next => simp [stepsLeft, under]
  | cut typed e next spend =>
    have hne := List.ne_nil_of_length_pos
      (Nat.lt_of_lt_of_le (length_of_nextKey? next).1 (length_of_nextKey? next).2)
    simp [stepsLeft, hne]

/-- **No call goes on for ever.** -/
theorem wellFounded_step (settings : Settings) :
    WellFounded fun c' c => ∃ t, Step settings c t c' :=
  Subrelation.wf (fun ⟨_, h⟩ => h.stepsLeft_lt) (measure stepsLeft).wf

/-! ### What a run uses up -/

theorem Run.typed_eq (h : Run settings c t c') : c.typed = typedKeys t ++ c'.typed := by
  induction h with
  | refl c => rfl
  | step head tail ih => rw [head.typed_eq, ih, typedKeys_append, List.append_assoc]

theorem Run.remaining_eq (h : Run settings c t c') :
    c.allowance.remaining = (playedKeys t).length + c'.allowance.remaining := by
  induction h with
  | refl c => simp
  | step head tail ih =>
    rw [head.remaining_eq, ih, playedKeys_append, List.length_append, Nat.add_assoc]

theorem Run.depth_le (h : Run settings c t c') (hc : c.frames.length ≤ c.allowance.maxDepth) :
    ∀ s ∈ t, s.depth ≤ c.allowance.maxDepth := by
  induction h with
  | refl c => simp
  | step head tail ih =>
    obtain ⟨hhead, hframes, hmax⟩ := head.depth_le hc
    rw [hmax] at ih
    intro s hs
    rcases List.mem_append.1 hs with hs | hs
    · exact hhead s hs
    · exact ih hframes s hs

end Call

/-- **Playback is bounded.** Whatever the settings, the text, the state and the typed keys, a call
comes to an end. On the way it plays at most as many keys as the settings allow, and none deeper
than they allow. When it is over, the typed keys have all been pressed, and that is where the
interpreter gets to. -/
theorem playback_bounded (settings : Settings) (b : Buffer) (state? : Option State)
    (keys : List Key) :
    let e : Editor := { toState := state?.getD (State.initial b), buffer := b }
    Acc (fun c' c => ∃ t, Call.Step settings c t c') (e.call settings keys) ∧
      (∃ t c, Call.Run settings (e.call settings keys) t c ∧ c.IsOver) ∧
      ∀ t c, Call.Run settings (e.call settings keys) t c →
        (playedKeys t).length ≤ settings.macroBudget ∧ (∀ s ∈ t, s.depth ≤ settings.macroDepth) ∧
          (c.IsOver → typedKeys t = keys ∧
            interpret settings b state? keys = (c.editor.buffer, c.editor.toState)) := by
  intro e
  refine ⟨(Call.wellFounded_step settings).apply _, ?_, fun t c hrun => ?_⟩
  · obtain ⟨c, hrun, hover, -⟩ := e.run_strokes settings keys
    exact ⟨_, c, hrun, hover⟩
  · have hbudget : settings.macroBudget = (playedKeys t).length + c.allowance.remaining :=
      hrun.remaining_eq
    have htyped : keys = typedKeys t ++ c.typed := hrun.typed_eq
    refine ⟨by omega, hrun.depth_le (Nat.zero_le _), fun hover => ⟨?_, ?_⟩⟩
    · rw [htyped, hover.2, List.append_nil]
    · rw [← (hrun.eq_of_isOver hover).2.1]
      rfl

-- A macro that plays itself gets two deep, and the key typed after it is pressed.
example :
    let e := (Editor.start ⟨['a', 'b', 'c', 'd', 'e']⟩).after {}
      [.char 'q', .char 'a', .char 'x', .char '@', .char 'a', .char 'q']
    (e.strokes { macroDepth := 2 } [.char '@', .char 'a', .char 'l']).map
      (fun s => (s.depth, s.key)) =
        [(0, .char '@'), (0, .char 'a'), (1, .char 'x'), (1, .char '@'), (1, .char 'a'),
          (2, .char 'x'), (2, .char '@'), (2, .char 'a'), (0, .char 'l')] := by
  decide +kernel

end ModalEditor
