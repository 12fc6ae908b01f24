import ModalEditor.Proofs.Runs

/-!
# A call, key by key

A call presses the typed keys and, between them, the keys of the macros that these have played.
`Call.Step` takes a call one key further; macros under way are left in a step of their own, when
they are through or when the allowance is spent. A run collects the keys that are pressed on the way
(`Call.Run`). Every call has one run to its end, and that is where the interpreter gets to
(`run_typeKeys`, `Call.Run.eq_of_isOver`). `Editor.strokes` lists the keys of that run.
-/

namespace ModalEditor

/-- The editor when the key has done its own part, before what it has played. -/
def Outcome.editor : Outcome → Editor
  | .done e => e
  | .play e _ _ => e

/-- A key pressed in a call. -/
structure Stroke where
  /-- How many macros the key is nested in: none if it is typed. -/
  depth : Nat
  /-- The key. -/
  key : Key
  /-- The editor before the key. -/
  before : Editor
  deriving DecidableEq

namespace Stroke

/-- The editor that the key is pressed in. A typed key has been recorded. -/
def met (s : Stroke) : Editor := if s.depth = 0 then s.before.capture s.key else s.before

/-- What the key leads to. -/
def outcome (s : Stroke) (settings : Settings) : Outcome := s.met.press settings s.key

/-- The editor after the key, before what the key has played. -/
def after (s : Stroke) (settings : Settings) : Editor := (s.outcome settings).editor

end Stroke

/-- The keys that were typed. -/
def typedKeys (t : List Stroke) : List Key := (t.filter (·.depth = 0)).map (·.key)

/-- The keys that macros played. -/
def playedKeys (t : List Stroke) : List Key := (t.filter (0 < ·.depth)).map (·.key)

@[simp] theorem typedKeys_nil : typedKeys [] = [] := rfl

@[simp] theorem playedKeys_nil : playedKeys [] = [] := rfl

@[simp] theorem typedKeys_append (t u : List Stroke) :
    typedKeys (t ++ u) = typedKeys t ++ typedKeys u := by
  simp [typedKeys]

@[simp] theorem playedKeys_append (t u : List Stroke) :
    playedKeys (t ++ u) = playedKeys t ++ playedKeys u := by
  simp [playedKeys]

@[simp] theorem typedKeys_typed (key : Key) (e : Editor) : typedKeys [⟨0, key, e⟩] = [key] := rfl

@[simp] theorem playedKeys_typed (key : Key) (e : Editor) : playedKeys [⟨0, key, e⟩] = [] := rfl

/-- The stack left by its next key has the frame that the key came from on top. -/
theorem length_of_nextKey? {frames rest : List Frame} {key : Key}
    (h : nextKey? frames = some (key, rest)) : 0 < rest.length ∧ rest.length ≤ frames.length := by
  fun_induction nextKey? frames with
  | case1 => simp at h
  | case2 =>
    simp only [Option.some.injEq, Prod.mk.injEq] at h
    simp [← h.2]
  | case3 =>
    simp only [Option.some.injEq, Prod.mk.injEq] at h
    simp [← h.2]
  | case4 _ frames ih =>
    have hrest := ih h
    simp only [List.length_cons]
    omega
  | case5 _ frames _ ih =>
    have hrest := ih h
    simp only [List.length_cons]
    omega

/-! ### Steps -/

/-- A call under way. -/
structure Call where
  /-- How much may still be played. -/
  allowance : Allowance
  /-- The macros under way, the innermost first. -/
  frames : List Frame
  /-- The typed keys that follow. -/
  typed : List Key
  /-- The editor. -/
  editor : Editor

namespace Call

/-- The call after a key. A macro that the key has played goes on top of those under way, unless
that is too deep. -/
def pressed (c : Call) (settings : Settings) (s : Stroke) : Call :=
  match s.outcome settings with
  | .done e => { c with editor := e.clampCursor }
  | .play e keys times =>
    if c.allowance.permits (s.depth + 1) then
      { c with frames := .fresh keys times :: c.frames, editor := e }
    else { c with allowance := c.allowance.markTruncated, editor := e.clampCursor }

/-- **One step of a call**, with the key that it presses, if it does. -/
inductive Step (settings : Settings) : Call → List Stroke → Call → Prop where
  /-- With no macro under way the next typed key is pressed. -/
  | typed (a : Allowance) (key : Key) (keys : List Key) (e : Editor) :
    Step settings ⟨a, [], key :: keys, e⟩ [⟨0, key, e⟩]
      (pressed ⟨a, [], keys, e⟩ settings ⟨0, key, e⟩)
  /-- The next key of the innermost macro is pressed, and costs one of the allowance. -/
  | played {a a' : Allowance} {frames rest : List Frame} {key : Key} (typed : List Key) (e : Editor)
    (next : nextKey? frames = some (key, rest)) (spend : a.spend? = some a') :
    Step settings ⟨a, frames, typed, e⟩ [⟨rest.length, key, e⟩]
      (pressed ⟨a', rest, typed, e⟩ settings ⟨rest.length, key, e⟩)
  /-- The macros under way are through. -/
  | through (a : Allowance) {frames : List Frame} (typed : List Key) (e : Editor)
    (under : frames ≠ []) (next : nextKey? frames = none) :
    Step settings ⟨a, frames, typed, e⟩ [] ⟨a, [], typed, e.clampCursor⟩
  /-- They are cut short, because the allowance is spent. -/
  | cut {a : Allowance} {frames rest : List Frame} {key : Key} (typed : List Key) (e : Editor)
    (next : nextKey? frames = some (key, rest)) (spend : a.spend? = none) :
    Step settings ⟨a, frames, typed, e⟩ [] ⟨a.markTruncated, [], typed, e.clampCursor⟩

/-- Some steps, with the keys that they press. -/
inductive Run (settings : Settings) : Call → List Stroke → Call → Prop where
  /-- No step. -/
  | refl (c : Call) : Run settings c [] c
  /-- A step and those that follow. -/
  | step {c c' c'' : Call} {t t' : List Stroke} (head : Step settings c t c')
    (tail : Run settings c' t' c'') : Run settings c (t ++ t') c''

/-- Nothing is left to be pressed. -/
def IsOver (c : Call) : Prop := c.frames = [] ∧ c.typed = []

variable {settings : Settings} {c c₁ c₂ : Call} {t t₁ t₂ : List Stroke}

theorem Run.single (h : Step settings c t c₁) : Run settings c t c₁ := by
  simpa using Run.step h (.refl c₁)

theorem Run.append (h : Run settings c t c₁) (h₁ : Run settings c₁ t₁ c₂) :
    Run settings c (t ++ t₁) c₂ := by
  induction h with
  | refl c => exact h₁
  | step head tail ih =>
    rw [List.append_assoc]
    exact .step head (ih h₁)

/-! ### There is one way on -/

theorem IsOver.not_step (h : c.IsOver) : ¬ Step settings c t c₁ := by
  obtain ⟨hframes, htyped⟩ := h
  intro hstep
  cases hstep with
  | typed a key keys e => simp at htyped
  | played typed e next spend =>
    obtain rfl := hframes
    simp [nextKey?] at next
  | through a typed e under next => exact under hframes
  | cut typed e next spend =>
    obtain rfl := hframes
    simp [nextKey?] at next

/-- A step is settled by the call. -/
theorem Step.unique (h₁ : Step settings c t₁ c₁) (h₂ : Step settings c t₂ c₂) :
    t₁ = t₂ ∧ c₁ = c₂ := by
  cases h₁ with
  | typed a key keys e =>
    cases h₂ with
    | typed => exact ⟨rfl, rfl⟩
    | played typed e next spend => simp [nextKey?] at next
    | through a typed e under next => exact absurd rfl under
    | cut typed e next spend => simp [nextKey?] at next
  | played typed e next spend =>
    cases h₂ with
    | typed => simp [nextKey?] at next
    | played typed e next' spend' =>
      simp_all
    | through a typed e under next' => simp_all
    | cut typed e next' spend' => simp_all
  | through a typed e under next =>
    cases h₂ with
    | typed => exact absurd rfl under
    | played typed e next' spend' => simp_all
    | through a typed e under next' => exact ⟨rfl, rfl⟩
    | cut typed e next' spend' => simp_all
  | cut typed e next spend =>
    cases h₂ with
    | typed => simp [nextKey?] at next
    | played typed e next' spend' => simp_all
    | through a typed e under next' => simp_all
    | cut typed e next' spend' => exact ⟨rfl, rfl⟩

/-- **Two runs to the end are the same.** -/
theorem Run.unique (h₁ : Run settings c t₁ c₁) (h₂ : Run settings c t₂ c₂) (ho₁ : c₁.IsOver)
    (ho₂ : c₂.IsOver) : t₁ = t₂ ∧ c₁ = c₂ := by
  induction h₁ generalizing t₂ with
  | refl c =>
    cases h₂ with
    | refl => exact ⟨rfl, rfl⟩
    | step head tail => exact absurd head ho₁.not_step
  | step head tail ih =>
    cases h₂ with
    | refl => exact absurd head ho₂.not_step
    | step head' tail' =>
      obtain ⟨rfl, rfl⟩ := head.unique head'
      obtain ⟨rfl, rfl⟩ := ih tail' ho₁
      exact ⟨rfl, rfl⟩

end Call

/-! ### The run of a call -/

namespace Editor

/-- The keys that playback presses, in order. -/
def replayed (settings : Settings) (a : Allowance) (frames : List Frame) (e : Editor) :
    List Stroke :=
  match nextKey? frames with
  | none => []
  | some (key, frames) =>
    match _hspend : a.spend? with
    | none => []
    | some a' =>
      ⟨frames.length, key, e⟩ ::
        match e.press settings key with
        | .done e' => replayed settings a' frames e'.clampCursor
        | .play e' keys times =>
          if a'.permits (frames.length + 1) then
            replayed settings a' (.fresh keys times :: frames) e'
          else replayed settings a'.markTruncated frames e'.clampCursor
termination_by a.remaining
decreasing_by all_goals simp [Allowance.remaining_of_spend _hspend]

/-- The keys that a typed key plays. -/
def playedBy (settings : Settings) (a : Allowance) (e : Editor) (key : Key) : List Stroke :=
  match (e.capture key).press settings key with
  | .done _ => []
  | .play e' keys times =>
    if a.permits 1 then replayed settings a [.fresh keys times] e' else []

/-- The keys that typed keys press, with those that they play. -/
def pressedBy (settings : Settings) (a : Allowance) (e : Editor) : List Key → List Stroke
  | [] => []
  | key :: keys =>
    ⟨0, key, e⟩ :: playedBy settings a e key ++
      pressedBy settings (e.typeKey settings a key).2 (e.typeKey settings a key).1 keys

open Call

section Replay

variable {settings : Settings} {a a' : Allowance} {frames rest : List Frame} {key : Key}
  {e e' : Editor}

theorem replayed_of_done (hnext : nextKey? frames = some (key, rest))
    (hspend : a.spend? = some a') (hpress : e.press settings key = .done e') :
    replayed settings a frames e =
      ⟨rest.length, key, e⟩ :: replayed settings a' rest e'.clampCursor := by
  rw [replayed]
  simp only [hnext]
  split
  · simp_all
  · simp_all

theorem replayed_of_play {keys : List Key} {times : Nat}
    (hnext : nextKey? frames = some (key, rest)) (hspend : a.spend? = some a')
    (hpress : e.press settings key = .play e' keys times) :
    replayed settings a frames e = ⟨rest.length, key, e⟩ ::
      if a'.permits (rest.length + 1) then replayed settings a' (.fresh keys times :: rest) e'
      else replayed settings a'.markTruncated rest e'.clampCursor := by
  rw [replayed]
  simp only [hnext]
  split
  · simp_all
  · simp_all

/-- What a macro key leads to: it has not been typed, so it is not recorded. -/
theorem outcome_played (hrest : 0 < rest.length) :
    (⟨rest.length, key, e⟩ : Stroke).outcome settings = e.press settings key := by
  simp [Stroke.outcome, Stroke.met, Nat.ne_of_gt hrest]

theorem run_replay (settings : Settings) (a : Allowance) {frames : List Frame} (typed : List Key)
    (e : Editor) (hframes : frames ≠ []) :
    Run settings ⟨a, frames, typed, e⟩ (replayed settings a frames e)
      ⟨(e.replay settings a frames).2, [], typed, (e.replay settings a frames).1⟩ := by
  fun_induction replay settings a frames e with
  | case1 a frames e hnext =>
    rw [replayed]
    simp only [hnext]
    exact .single (.through a typed e hframes hnext)
  | case2 a frames e key rest hnext hspend =>
    rw [replayed]
    simp only [hnext]
    split
    · exact .single (.cut typed e hnext hspend)
    · simp_all
  | case3 a frames e key rest hnext a' hspend e' hpress ih =>
    have hrest := (length_of_nextKey? hnext).1
    have hhead : Step settings ⟨a, frames, typed, e⟩ _ _ := .played typed e hnext hspend
    rw [replayed_of_done hnext hspend hpress]
    simp only [pressed, outcome_played hrest, hpress] at hhead
    exact .step hhead (ih (List.ne_nil_of_length_pos hrest))
  | case4 a frames e key rest hnext a' hspend e' keys times hpress hdepth ih =>
    have hrest := (length_of_nextKey? hnext).1
    have hhead : Step settings ⟨a, frames, typed, e⟩ _ _ := .played typed e hnext hspend
    rw [replayed_of_play hnext hspend hpress, if_pos hdepth]
    simp only [pressed, outcome_played hrest, hpress, if_pos hdepth] at hhead
    exact .step hhead (ih (by simp))
  | case5 a frames e key rest hnext a' hspend e' keys times hpress hdepth ih =>
    have hrest := (length_of_nextKey? hnext).1
    have hhead : Step settings ⟨a, frames, typed, e⟩ _ _ := .played typed e hnext hspend
    rw [replayed_of_play hnext hspend hpress, if_neg hdepth]
    simp only [pressed, outcome_played hrest, hpress, if_neg hdepth] at hhead
    exact .step hhead (ih (List.ne_nil_of_length_pos hrest))

/-- A typed key, and what it plays. -/
theorem run_typeKey (settings : Settings) (a : Allowance) (e : Editor) (key : Key)
    (keys : List Key) :
    Run settings ⟨a, [], key :: keys, e⟩ (⟨0, key, e⟩ :: playedBy settings a e key)
      ⟨(e.typeKey settings a key).2, [], keys, (e.typeKey settings a key).1⟩ := by
  have hhead : Step settings ⟨a, [], key :: keys, e⟩ _ _ := .typed a key keys e
  have hmet : (⟨0, key, e⟩ : Stroke).outcome settings = (e.capture key).press settings key := rfl
  unfold typeKey playedBy
  cases hpress : (e.capture key).press settings key with
  | done e' =>
    simp only [pressed, hmet, hpress] at hhead
    exact .single hhead
  | play e' ks times =>
    by_cases hdepth : a.permits 1 = true
    · simp only [pressed, hmet, hpress, Nat.zero_add, if_pos hdepth] at hhead ⊢
      exact .step hhead (run_replay settings a keys e' (by simp))
    · simp only [pressed, hmet, hpress, Nat.zero_add, if_neg hdepth] at hhead ⊢
      exact .single hhead

/-- **The run of a call** leads where the interpreter gets to. -/
theorem run_typeKeys (settings : Settings) (a : Allowance) (e : Editor) (keys : List Key) :
    Run settings ⟨a, [], keys, e⟩ (pressedBy settings a e keys)
      ⟨(e.typeKeys settings a keys).2, [], [], (e.typeKeys settings a keys).1⟩ := by
  induction keys generalizing a e with
  | nil => exact .refl _
  | cons key keys ih => exact (run_typeKey settings a e key keys).append (ih _ _)

end Replay

/-! ### Calls of the interpreter -/

section Calls

variable {settings : Settings} {e e' : Editor} {key : Key} {keys : List Key}

/-- A call that begins with an editor and typed keys. -/
def call (e : Editor) (settings : Settings) (keys : List Key) : Call :=
  ⟨.ofSettings settings, [], keys, e⟩

/-- The keys that a call presses, in order. -/
def strokes (e : Editor) (settings : Settings) (keys : List Key) : List Stroke :=
  e.pressedBy settings (.ofSettings settings) keys

/-- Whether a limit cuts playback short in a call. -/
def cutShort (e : Editor) (settings : Settings) (keys : List Key) : Bool :=
  (e.typeKeys settings (.ofSettings settings) keys).2.truncated

theorem run_strokes (e : Editor) (settings : Settings) (keys : List Key) :
    ∃ c, Run settings (e.call settings keys) (e.strokes settings keys) c ∧ c.IsOver ∧
      c.editor = e.after settings keys ∧ c.allowance.truncated = e.cutShort settings keys :=
  ⟨_, run_typeKeys settings _ e keys, ⟨rfl, rfl⟩, rfl, rfl⟩

end Calls

end Editor

/-- **What a run to the end says of the call.** -/
theorem Call.Run.eq_of_isOver {settings : Settings} {e : Editor} {keys : List Key}
    {t : List Stroke} {c : Call} (h : Run settings (e.call settings keys) t c) (ho : c.IsOver) :
    e.strokes settings keys = t ∧ e.after settings keys = c.editor ∧
      e.cutShort settings keys = c.allowance.truncated := by
  obtain ⟨c', hrun, hover, heditor, hcut⟩ := e.run_strokes settings keys
  obtain ⟨ht, rfl⟩ := hrun.unique h hover ho
  exact ⟨ht, heditor.symm, hcut.symm⟩

/-! ### A key that plays -/

namespace Editor

/-- A key that has a macro played has only dropped the counts and noted the name. -/
theorem press_eq_play {e e' : Editor} {settings : Settings} {key : Key} {keys : List Key}
    {times : Nat} (h : e.press settings key = .play e' keys times) :
    ∃ played, e' = { e.dropCounts with continuation := none, lastPlayed := some played } := by
  unfold press at h
  split at h
  · simp at h
  · split at h
    · simp at h
    · rename_i k hk
      dsimp only at h
      split at h
      · simp at h
      · cases key with
        | char c =>
          cases k with
          | startPlayback =>
            dsimp only [continueWith] at h
            unfold startPlayback at h
            dsimp only at h
            split at h
            · simp at h
            · rename_i name _
              split at h
              · simp at h
              · obtain ⟨rfl, -, -⟩ := Outcome.play.inj h
                exact ⟨name, rfl⟩
          | _ => simp [continueWith] at h
        | _ => simp at h

/-- So it leaves the cursor in order. -/
theorem clampCursor_of_press_eq_play {e e' : Editor} {settings : Settings} {key : Key}
    {keys : List Key} {times : Nat} (he : e.clampCursor = e)
    (h : e.press settings key = .play e' keys times) : e'.clampCursor = e' := by
  obtain ⟨played, rfl⟩ := press_eq_play h
  exact clampCursor_of_eq he rfl rfl rfl

end Editor

theorem Editor.Invariant.stroke {P : Editor → Prop} (hP : Invariant P) {s : Stroke}
    (hs : P s.before) (settings : Settings) : P (s.after settings) := by
  have hmet : P s.met := by
    unfold Stroke.met
    split
    · exact hP.capture s.key hs
    · exact hs
  cases hpress : s.outcome settings with
  | done e' =>
    have hdone := hP.done hmet hpress
    rwa [Stroke.after, hpress]
  | play e' keys times =>
    have hplay := hP.play hmet hpress
    rwa [Stroke.after, hpress]

/-! ### What a step does -/

namespace Call

variable {settings : Settings} {c c' : Call} {s : Stroke} {t : List Stroke}

theorem editor_pressed (c : Call) (settings : Settings) (s : Stroke) :
    (c.pressed settings s).editor = s.after settings ∨
      (c.pressed settings s).editor = (s.after settings).clampCursor := by
  unfold pressed Stroke.after
  split
  · exact .inr (by simp [*, Outcome.editor])
  · split
    · exact .inl (by simp [*, Outcome.editor])
    · exact .inr (by simp [*, Outcome.editor])

@[simp] theorem typed_pressed (c : Call) (settings : Settings) (s : Stroke) :
    (c.pressed settings s).typed = c.typed := by
  unfold pressed
  split
  · rfl
  · split <;> rfl

@[simp] theorem remaining_pressed (c : Call) (settings : Settings) (s : Stroke) :
    (c.pressed settings s).allowance.remaining = c.allowance.remaining := by
  unfold pressed
  split
  · rfl
  · split <;> rfl

@[simp] theorem maxDepth_pressed (c : Call) (settings : Settings) (s : Stroke) :
    (c.pressed settings s).allowance.maxDepth = c.allowance.maxDepth := by
  unfold pressed
  split
  · rfl
  · split <;> rfl

/-- Only a macro that is not too deep goes on the stack. -/
theorem frames_pressed (c : Call) (settings : Settings) (s : Stroke) :
    (c.pressed settings s).frames = c.frames ∨
      s.depth + 1 ≤ c.allowance.maxDepth ∧ ∃ f, (c.pressed settings s).frames = f :: c.frames := by
  unfold pressed
  split
  · exact .inl rfl
  · split
    · rename_i keys times _ hdepth
      exact .inr ⟨by simpa [Allowance.permits] using hdepth, .fresh keys times, rfl⟩
    · exact .inl rfl

/-- **What a step does to the editor**: it presses a key there, or puts the cursor in order. -/
theorem Step.editor_eq (h : Step settings c t c') :
    t = [] ∧ c'.editor = c.editor.clampCursor ∨
      ∃ s, t = [s] ∧ s.before = c.editor ∧
        (c'.editor = s.after settings ∨ c'.editor = (s.after settings).clampCursor) := by
  cases h with
  | typed a key keys e => exact .inr ⟨_, rfl, rfl, editor_pressed _ settings _⟩
  | played typed e next spend => exact .inr ⟨_, rfl, rfl, editor_pressed _ settings _⟩
  | through a typed e under next => exact .inl ⟨rfl, rfl⟩
  | cut typed e next spend => exact .inl ⟨rfl, rfl⟩

/-- **What the keys of a run keep, the run keeps**: it holds before every key, after it, and at the
end. -/
theorem Run.keeps {P : Editor → Prop} (hclamp : ∀ e, P e → P e.clampCursor)
    (h : Run settings c t c') (hkeys : ∀ s ∈ t, P s.before → P (s.after settings))
    (hc : P c.editor) : P c'.editor ∧ ∀ s ∈ t, P s.before ∧ P (s.after settings) := by
  induction h with
  | refl c => exact ⟨hc, by simp⟩
  | @step c c₁ c₂ t t' head tail ih =>
    obtain ⟨rfl, heditor⟩ | ⟨s, rfl, hbefore, heditor⟩ := head.editor_eq
    · exact ih (by simpa using hkeys) (heditor ▸ hclamp _ hc)
    · obtain ⟨hkey, hrest⟩ := List.forall_mem_cons.1 hkeys
      have hs : P s.before := hbefore ▸ hc
      have hafter : P (s.after settings) := hkey hs
      have hnext : P c₁.editor := by
        rcases heditor with heditor | heditor
        · exact heditor ▸ hafter
        · exact heditor ▸ hclamp _ hafter
      obtain ⟨hend, htail⟩ := ih hrest hnext
      exact ⟨hend, List.forall_mem_cons.2 ⟨⟨hs, hafter⟩, htail⟩⟩

/-- An invariant holds all the way. -/
theorem Run.invariant {P : Editor → Prop} (hP : Editor.Invariant P) (h : Run settings c t c')
    (hc : P c.editor) : ∀ s ∈ t, P s.before := by
  have hclamp : ∀ e, P e → P e.clampCursor := fun _ => hP.clampCursor
  have hkeys : ∀ s ∈ t, P s.before → P (s.after settings) := fun s _ hs => hP.stroke hs settings
  intro s hs
  exact ((h.keeps hclamp hkeys hc).2 s hs).1

/-- **The cursor stays in order** from key to key. -/
theorem clampCursor_pressed {s : Stroke} (hs : s.before.clampCursor = s.before) :
    (c.pressed settings s).editor.clampCursor = (c.pressed settings s).editor := by
  have hmet : s.met.clampCursor = s.met := by
    unfold Stroke.met Editor.capture
    split
    · split
      · exact Editor.clampCursor_of_eq hs rfl rfl rfl
      · exact hs
    · exact hs
  unfold pressed
  cases hpress : s.outcome settings with
  | done e => exact Editor.clampCursor_clampCursor e
  | play e keys times =>
    dsimp only
    split
    · exact Editor.clampCursor_of_press_eq_play hmet hpress
    · exact Editor.clampCursor_clampCursor e

theorem Step.clampCursor_eq (h : Step settings c t c')
    (hc : c.editor.clampCursor = c.editor) : c'.editor.clampCursor = c'.editor := by
  cases h with
  | typed a key keys e => exact clampCursor_pressed hc
  | played typed e next spend => exact clampCursor_pressed hc
  | through a typed e under next => exact Editor.clampCursor_clampCursor e
  | cut typed e next spend => exact Editor.clampCursor_clampCursor e

theorem Run.clampCursor_eq (h : Run settings c t c') (hc : c.editor.clampCursor = c.editor) :
    c'.editor.clampCursor = c'.editor := by
  induction h with
  | refl c => exact hc
  | step head tail ih => exact ih (head.clampCursor_eq hc)

end Call

end ModalEditor
