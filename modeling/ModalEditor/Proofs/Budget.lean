import ModalEditor.Proofs.Playing

/-!
# The budget of playback

How much may be played decides where playback stops, and nothing else. Two calls that are equally
far, of which the first may play less, go on alike (`Lags.step`), until the first has a key to play
and nothing left to spend for it (`Starved`). Two results follow. A smaller budget cuts the keys
that are played to their first ones and leaves the editor where these have led
(`truncation_is_prefix`). And since all that a call hands on to the next is the editor, while the
budget starts afresh, keys may be spread over calls in any way, as long as the budget would have
done for one call (`interpret_append`).
-/

namespace ModalEditor

/-- The same settings with another budget. -/
def Settings.withBudget (s : Settings) (n : Nat) : Settings := { s with macroBudget := n }

/-- The key has a macro played. -/
def Stroke.startsPlayback (s : Stroke) (settings : Settings) : Bool :=
  match s.outcome settings with
  | .done _ => false
  | .play _ _ _ => true

theorem Stroke.outcome_withBudget (s : Stroke) (settings : Settings) (n : Nat) :
    s.outcome (settings.withBudget n) = s.outcome settings := rfl

theorem Stroke.outcome_eq_done {s : Stroke} {settings : Settings}
    (h : s.startsPlayback settings = false) : ∃ e, s.outcome settings = .done e := by
  unfold startsPlayback at h
  split at h
  · exact ⟨_, by assumption⟩
  · simp at h

theorem spend?_eq_none {a : Allowance} : a.spend? = none ↔ a.remaining = 0 := by
  unfold Allowance.spend?
  split <;> simp_all

theorem frames_ne_nil {frames rest : List Frame} {key : Key}
    (h : nextKey? frames = some (key, rest)) : frames ≠ [] := by
  rintro rfl
  simp [nextKey?] at h

namespace Call

variable {settings : Settings} {n : Nat} {c c' d d' : Call} {t t' : List Stroke}

/-! ### Calls that lag behind -/

/-- A macro has a key to be played, but nothing is left to spend for it. -/
def Starved (c : Call) : Prop := nextKey? c.frames ≠ none ∧ c.allowance.remaining = 0

/-- A macro has a key to be played, and it will be. -/
def Plays (c : Call) : Prop := nextKey? c.frames ≠ none ∧ 0 < c.allowance.remaining

/-- **Two calls that are equally far**, of which the first may play less. -/
inductive Lags : Call → Call → Prop where
  /-- They differ in how much may still be played. -/
  | behind {a b : Allowance} (frames : List Frame) (typed : List Key) (e : Editor)
    (depth : a.maxDepth = b.maxDepth) (budget : a.remaining ≤ b.remaining) :
    Lags ⟨a, frames, typed, e⟩ ⟨b, frames, typed, e⟩

/-- The same key leads on in the same way. -/
theorem Lags.pressed (h : Lags c d) (settings : Settings) (n : Nat) (s : Stroke) :
    Lags (c.pressed (settings.withBudget n) s) (d.pressed settings s) := by
  cases h with
  | @behind a b frames typed e depth budget =>
    have hpermits : a.permits (s.depth + 1) = b.permits (s.depth + 1) := by
      simp only [Allowance.permits, depth]
    unfold Call.pressed
    rw [s.outcome_withBudget settings n]
    cases s.outcome settings with
    | done e' => exact .behind frames typed _ depth budget
    | play e' keys times =>
      simp only [hpermits]
      split
      · exact .behind _ typed e' depth budget
      · exact .behind frames typed _ depth budget

/-- **A step of the first call is one of the second**, unless it cuts short what the second plays
on. -/
theorem Lags.step (h : Lags c d) (hstep : Step (settings.withBudget n) c t c') :
    (∃ d', Step settings d t d' ∧ Lags c' d') ∨
      c.Starved ∧ d.Plays ∧ t = [] ∧ c'.frames = [] ∧ c'.typed = c.typed ∧
        c'.editor = c.editor.clampCursor ∧ c'.allowance.remaining = 0 := by
  cases h with
  | @behind a b frames typed e depth budget =>
    cases hstep with
    | typed a key keys e =>
      have hlags : Lags ⟨a, [], keys, e⟩ ⟨b, [], keys, e⟩ := .behind [] keys e depth budget
      exact .inl ⟨_, .typed b key keys e, hlags.pressed settings n _⟩
    | @played a a' _ rest key _ _ next spend =>
      have hleft := Allowance.remaining_of_spend spend
      have hspend := Allowance.spend?_of_pos (a := b) (by omega)
      have hlags : Lags ⟨a', rest, typed, e⟩
          ⟨{ b with remaining := b.remaining - 1 }, rest, typed, e⟩ :=
        .behind rest typed e ((maxDepth_of_spend spend).trans depth) (by dsimp only; omega)
      exact .inl ⟨_, .played typed e next hspend, hlags.pressed settings n _⟩
    | through _ _ _ under next =>
      exact .inl ⟨_, .through b typed e under next, .behind [] typed _ depth budget⟩
    | @cut _ _ rest key _ _ next spend =>
      have hspent : a.remaining = 0 := spend?_eq_none.1 spend
      have hwaits : nextKey? frames ≠ none := by simp [next]
      by_cases hb : b.remaining = 0
      · have hcut : Step settings ⟨b, frames, typed, e⟩ [] _ :=
          .cut typed e next (spend?_eq_none.2 hb)
        exact .inl ⟨_, hcut, .behind [] typed _ depth budget⟩
      · exact .inr ⟨⟨hwaits, hspent⟩, ⟨hwaits, Nat.pos_of_ne_zero hb⟩, rfl, rfl, rfl, rfl, hspent⟩

/-- A run of the first call that is never starved is one of the second. -/
theorem Lags.run (h : Lags c d) (hrun : Run (settings.withBudget n) c t c')
    (hfed : ∀ t₁ c₁, Run (settings.withBudget n) c t₁ c₁ → ¬ c₁.Starved) :
    ∃ d', Run settings d t d' ∧ Lags c' d' := by
  induction hrun generalizing d with
  | refl c => exact ⟨d, .refl d, h⟩
  | step head tail ih =>
    obtain ⟨d₁, hhead, h₁⟩ | ⟨hstarved, -⟩ := h.step head
    · obtain ⟨d', htail, h'⟩ := ih h₁ fun t₁ c₁ hrun => hfed _ c₁ (.step head hrun)
      exact ⟨d', .step hhead htail, h'⟩
    · exact absurd hstarved (hfed [] _ (.refl _))

/-! ### Any call comes to its end -/

theorem exists_run (settings : Settings) (c : Call) : ∃ t c', Run settings c t c' ∧ c'.IsOver := by
  obtain ⟨a, frames, typed, e⟩ := c
  have htyped (a : Allowance) (e : Editor) :
      ∃ t c', Run settings ⟨a, [], typed, e⟩ t c' ∧ c'.IsOver :=
    ⟨_, _, Editor.run_typeKeys settings a e typed, rfl, rfl⟩
  by_cases hframes : frames = []
  · rw [hframes]
    exact htyped a e
  · obtain ⟨t, c', hrun, hover⟩ :=
      htyped (e.replay settings a frames).2 (e.replay settings a frames).1
    exact ⟨_, c', (Editor.run_replay settings a typed e hframes).append hrun, hover⟩

theorem Plays.length_pos (h : c.Plays) (hrun : Run settings c t c') (hover : c'.IsOver) :
    0 < (playedKeys t).length := by
  obtain ⟨hnext, hpos⟩ := h
  cases hrun with
  | refl => simp [hover.1, nextKey?] at hnext
  | step head tail =>
    cases head with
    | typed a key keys e => simp [nextKey?] at hnext
    | played typed e next spend =>
      rw [playedKeys_append]
      simp [length_of_nextKey? next]
    | through a typed e under next => exact absurd next hnext
    | cut typed e next spend => simp [spend?_eq_none.1 spend] at hpos

/-! ### Playback that comes last -/

/-- No key is left to be typed while a macro is under way. -/
def AtLastKey (c : Call) : Prop := c.typed = [] ∨ c.frames = [] ∧ c.typed.length = 1

theorem Step.atLastKey (h : Step settings c t c') (hc : c.AtLastKey) : c'.AtLastKey := by
  have hleft (hne : c.frames ≠ []) : c.typed = [] := hc.resolve_right fun hlast => hne hlast.1
  cases h with
  | typed a key keys e => exact .inl (by simpa [AtLastKey] using hc)
  | played typed e next spend => exact .inl ((typed_pressed ..).trans (hleft (frames_ne_nil next)))
  | through a typed e under next => exact .inl (hleft under)
  | cut typed e next spend => exact .inl (hleft (frames_ne_nil next))

/-- The editor if nothing more is played: macros under way are left, which puts the cursor in
order. -/
def cutOff (c : Call) : Editor := if c.frames.isEmpty then c.editor else c.editor.clampCursor

theorem cutOff_of_isOver (h : c.IsOver) : c.cutOff = c.editor := by simp [cutOff, h.1]

theorem cutOff_of_clamped (h : c.editor.clampCursor = c.editor) : c.cutOff = c.editor := by
  unfold cutOff
  split
  · rfl
  · exact h

/-- **A call that may play less ends where the other is cut off.** Either that one is over as well,
or nothing is left to be spent, and the other plays on. -/
theorem Lags.run_of_atLastKey (h : Lags c d) (hc : c.AtLastKey)
    (hrun : Run (settings.withBudget n) c t c') (hover : c'.IsOver) :
    ∃ d', Run settings d t d' ∧ c'.editor = d'.cutOff ∧
      (d'.IsOver ∨ d'.Plays ∧ c'.allowance.remaining = 0) := by
  induction hrun generalizing d with
  | refl c =>
    cases h with
    | behind frames typed e depth budget =>
      obtain ⟨rfl, rfl⟩ : frames = [] ∧ typed = [] := hover
      exact ⟨_, .refl _, rfl, .inl ⟨rfl, rfl⟩⟩
  | @step c c₁ c' t t' head tail ih =>
    obtain ⟨d₁, hhead, h₁⟩ | ⟨hstarved, hplays, rfl, hframes, htyped, heditor, hspent⟩ :=
      h.step head
    · obtain ⟨d', htail, hend⟩ := ih h₁ (head.atLastKey hc) hover
      exact ⟨d', .step hhead htail, hend⟩
    · -- With no key left to be typed the first call is over.
      have hlast : c.typed = [] :=
        hc.resolve_right fun hlast => hstarved.1 (by simp [hlast.1, nextKey?])
      have hover₁ : c₁.IsOver := ⟨hframes, htyped.trans hlast⟩
      obtain ⟨rfl, rfl⟩ : t' = [] ∧ c' = c₁ := tail.unique (.refl c₁) hover hover₁
      refine ⟨d, .refl d, ?_, .inr ⟨hplays, hspent⟩⟩
      cases h with
      | behind frames typed e depth budget =>
        have hne : frames ≠ [] := by
          rintro rfl
          exact hplays.1 rfl
        simp [cutOff, hne, heditor]

end Call

namespace Editor

open Call

variable {e : Editor} {settings : Settings} {n : Nat}

/-! ### Truncation -/

/-- Keys that have nothing played lead on alike, however much may be played. -/
theorem run_of_no_playback (keys rest : List Key) (a b : Allowance)
    (h : ∀ s ∈ e.pressedBy settings a keys, s.startsPlayback settings = false) :
    Run (settings.withBudget n) ⟨b, [], keys ++ rest, e⟩ (e.pressedBy settings a keys)
      ⟨b, [], rest, (e.typeKeys settings a keys).1⟩ := by
  induction keys generalizing e with
  | nil => exact .refl _
  | cons key keys ih =>
    obtain ⟨e', hdone⟩ := Stroke.outcome_eq_done (h ⟨0, key, e⟩ (by simp [pressedBy]))
    have hpress : (e.capture key).press settings key = .done e' := hdone
    have hhead : Step (settings.withBudget n) ⟨b, [], key :: (keys ++ rest), e⟩ _ _ :=
      .typed b key (keys ++ rest) e
    simp only [Call.pressed, Stroke.outcome_withBudget, hdone] at hhead
    have htype : e.typeKey settings a key = (e'.clampCursor, a) := by simp [typeKey, hpress]
    have hpressed : e.pressedBy settings a (key :: keys) =
        ⟨0, key, e⟩ :: e'.clampCursor.pressedBy settings a keys := by
      simp [pressedBy, playedBy, hpress, htype]
    rw [hpressed] at h ⊢
    have htail := ih (e := e'.clampCursor) fun s hs => h s (List.mem_cons_of_mem _ hs)
    have hrun := Run.step hhead htail
    simpa [typeKeys, htype] using hrun

/-- **A smaller budget cuts playback to its first keys.** Whatever the settings, the text and the
state, let no typed key but the last have a macro played. Then a call with a smaller budget plays
the first keys of those that a larger one plays, as many as it may. It ends where the larger call
has got to by then, with the cursor in order, as it is if it was at the start. If the smaller budget
is enough, both calls end alike. -/
theorem truncation_is_prefix (settings : Settings) (e : Editor) (keys : List Key) {n : Nat}
    (hn : n ≤ settings.macroBudget)
    (hquiet : ∀ s ∈ e.strokes settings keys.dropLast, s.startsPlayback settings = false) :
    let short := settings.withBudget n
    let played := playedKeys (e.strokes settings keys)
    playedKeys (e.strokes short keys) = played.take (min n played.length) ∧
      (∃ c, Run settings (e.call settings keys) (e.strokes short keys) c ∧
        e.after short keys = c.cutOff ∧ (e.clampCursor = e → c.cutOff = c.editor)) ∧
      (played.length ≤ n → e.after short keys = e.after settings keys) := by
  intro short played
  obtain ⟨t₀, rest, e₁, hrest, hshort₀, hlong₀⟩ : ∃ t₀ rest e₁, List.length rest ≤ 1 ∧
      Run short (e.call short keys) t₀ ⟨.ofSettings short, [], rest, e₁⟩ ∧
      Run settings (e.call settings keys) t₀ ⟨.ofSettings settings, [], rest, e₁⟩ := by
    rcases List.eq_nil_or_concat keys with rfl | ⟨init, key, rfl⟩
    · exact ⟨[], [], e, by simp, .refl _, .refl _⟩
    · rw [List.concat_eq_append] at hquiet ⊢
      rw [List.dropLast_concat] at hquiet
      exact ⟨_, [key], _, by simp, run_of_no_playback init [key] _ _ hquiet,
        run_of_no_playback (n := settings.macroBudget) init [key] _ _ hquiet⟩
  have hlags : Lags ⟨.ofSettings short, [], rest, e₁⟩ ⟨.ofSettings settings, [], rest, e₁⟩ :=
    .behind [] rest e₁ rfl hn
  have hlast : AtLastKey ⟨.ofSettings short, [], rest, e₁⟩ := by
    rcases Nat.le_one_iff_eq_zero_or_eq_one.1 hrest with hzero | hone
    · exact .inl (List.eq_nil_of_length_eq_zero hzero)
    · exact .inr ⟨rfl, hone⟩
  -- The smaller budget takes its call to the end, and the larger one goes along.
  obtain ⟨t₁, c, hshort₁, hover⟩ := exists_run short ⟨.ofSettings short, [], rest, e₁⟩
  obtain ⟨d, hlong₁, heditor, hend⟩ := hlags.run_of_atLastKey hlast hshort₁ hover
  have hshort := hshort₀.append hshort₁
  have hlong := hlong₀.append hlong₁
  obtain ⟨hstrokes, hafter, -⟩ := hshort.eq_of_isOver hover
  -- Then the larger one plays on, if it can.
  obtain ⟨t₂, d', hlong₂, hover'⟩ := exists_run settings d
  obtain ⟨hstrokes', hafter', -⟩ := (hlong.append hlong₂).eq_of_isOver hover'
  have hplayed : played = playedKeys (t₀ ++ t₁) ++ playedKeys t₂ := by
    simp only [played, hstrokes', playedKeys_append]
  have hspent : n = (playedKeys (t₀ ++ t₁)).length + c.allowance.remaining := hshort.remaining_eq
  have hfinal : e.after short keys = d.cutOff := hafter.trans heditor
  have hlength : min n played.length = (playedKeys (t₀ ++ t₁)).length ∧
      (played.length ≤ n → d.IsOver) := by
    rw [hplayed, List.length_append]
    rcases hend with hdone | ⟨hplays, hnone⟩
    · obtain ⟨rfl, -⟩ := hlong₂.unique (.refl d) hover' hdone
      refine ⟨?_, fun _ => hdone⟩
      rw [playedKeys_nil, List.length_nil]
      omega
    · have hmore := hplays.length_pos hlong₂ hover'
      exact ⟨by omega, fun hle => by omega⟩
  refine ⟨?_, ⟨d, hstrokes ▸ hlong, hfinal, ?_⟩, fun hle => ?_⟩
  · rw [hlength.1, hstrokes, hplayed, List.take_left]
  · exact fun he => cutOff_of_clamped (hlong.clampCursor_eq he)
  · have hdone := hlength.2 hle
    obtain ⟨-, rfl⟩ := hlong₂.unique (.refl d) hover' hdone
    rw [hfinal, cutOff_of_isOver hdone, hafter']

/-- A macro that plays another is cut in the middle of that one. -/
theorem truncation_is_prefix_nested :
    let keys : List Key := [.char '@', .char 'b']
    let short := Settings.withBudget {} 4
    ∃ e : Editor, e.clampCursor = e ∧ 4 ≤ ({} : Settings).macroBudget ∧
      (∀ s ∈ e.strokes {} keys.dropLast, s.startsPlayback {} = false) ∧
      playedKeys (e.strokes {} keys) =
        [.char 'l', .char '@', .char 'a', .char 'x', .char 'x', .char 'x'] ∧
      playedKeys (e.strokes short keys) = [.char 'l', .char '@', .char 'a', .char 'x'] ∧
      ∃ c, Run {} (e.call {} keys) (e.strokes short keys) c ∧ e.after short keys = c.editor := by
  intro keys short
  obtain ⟨e, hclamped, hquiet, hplayed⟩ : ∃ e : Editor, e.clampCursor = e ∧
      (∀ s ∈ e.strokes {} keys.dropLast, s.startsPlayback {} = false) ∧
      playedKeys (e.strokes {} keys) =
        [.char 'l', .char '@', .char 'a', .char 'x', .char 'x', .char 'x'] :=
    ⟨(start ⟨['a', 'b', 'c', 'd', 'e', 'f', 'g', 'h', 'i']⟩).after {}
      [.char 'q', .char 'a', .char 'x', .char 'x', .char 'q',
        .char 'q', .char 'b', .char 'l', .char '@', .char 'a', .char 'x', .char 'q'],
      by decide +kernel⟩
  obtain ⟨hshort, ⟨c, hrun, hend, hcut⟩, -⟩ :=
    truncation_is_prefix {} e keys (n := 4) (by decide) hquiet
  rw [hplayed] at hshort
  exact ⟨e, hclamped, by decide, hquiet, hplayed, hshort, c, hrun, hend.trans (hcut hclamped)⟩

end Editor

/-! ### Batching -/

namespace Editor

open Call

variable {settings : Settings}

/-- A call with all keys gets to where its first keys lead. -/
theorem run_first_keys (settings : Settings) (a : Allowance) (e : Editor) (keys rest : List Key) :
    Run settings ⟨a, [], keys ++ rest, e⟩ (e.pressedBy settings a keys)
      ⟨(e.typeKeys settings a keys).2, [], rest, (e.typeKeys settings a keys).1⟩ := by
  induction keys generalizing a e with
  | nil => exact .refl _
  | cons key keys ih => exact (run_typeKey settings a e key (keys ++ rest)).append (ih _ _)

end Editor

theorem Call.Run.maxDepth_eq {settings : Settings} {c c' : Call} {t : List Stroke}
    (h : Call.Run settings c t c') : c'.allowance.maxDepth = c.allowance.maxDepth := by
  induction h with
  | refl c => rfl
  | step head tail ih =>
    rw [ih]
    cases head with
    | typed a key keys e => simp
    | played typed e next spend => simp [Call.maxDepth_of_spend spend]
    | through a typed e under next => rfl
    | cut typed e next spend => rfl

namespace Call

/-- Whatever is left to be done, a call spends less than it may if it plays fewer keys. -/
theorem Run.not_starved {settings : Settings} {e : Editor} {keys : List Key} {t : List Stroke}
    {c : Call} (h : Run settings (e.call settings keys) t c)
    (hlt : (playedKeys (e.strokes settings keys)).length < settings.macroBudget) :
    ¬ c.Starved := by
  obtain ⟨t', c', hrun, hover⟩ := exists_run settings c
  obtain ⟨hstrokes, -⟩ := (h.append hrun).eq_of_isOver hover
  have hspent : settings.macroBudget = (playedKeys t).length + c.allowance.remaining :=
    h.remaining_eq
  rw [hstrokes, playedKeys_append, List.length_append] at hlt
  exact fun hstarved => by
    have hnone := hstarved.2
    omega

end Call

open Call in
/-- **Keys may be spread over calls.** Whatever the settings, the text and the state: if the budget
never leaves a macro starved in the one call, then a call with the first keys and one with the
others, on what the first has answered, answer the same. The cut may fall anywhere. -/
theorem interpret_append (settings : Settings) (b : Buffer) (state? : Option State)
    (first rest : List Key) :
    let e : Editor := { toState := state?.getD (State.initial b), buffer := b }
    (∀ t c, Run settings (e.call settings (first ++ rest)) t c → ¬ c.Starved) →
      interpret settings b state? (first ++ rest) =
        let (b', s') := interpret settings b state? first
        interpret settings b' (some s') rest := by
  intro e hfed
  let a₁ := (e.typeKeys settings (.ofSettings settings) first).2
  let e₁ := (e.typeKeys settings (.ofSettings settings) first).1
  have hfirst : Run settings (e.call settings (first ++ rest)) _ ⟨a₁, [], rest, e₁⟩ :=
    Editor.run_first_keys settings _ e first rest
  have hdepth : a₁.maxDepth = settings.macroDepth := hfirst.maxDepth_eq
  have hbudget : settings.macroBudget = _ + a₁.remaining := hfirst.remaining_eq
  have hlags : Lags ⟨a₁, [], rest, e₁⟩ (e₁.call settings rest) :=
    .behind [] rest e₁ hdepth (by simp only [Allowance.ofSettings]; omega)
  obtain ⟨d, hrun, hend⟩ := hlags.run (n := settings.macroBudget)
    (Editor.run_typeKeys settings a₁ e₁ rest) fun t c h => hfed _ c (hfirst.append h)
  have hover : d.IsOver ∧ d.editor = (e₁.typeKeys settings a₁ rest).1 := by
    cases hend
    exact ⟨⟨rfl, rfl⟩, rfl⟩
  have hrest : e₁.after settings rest = (e₁.typeKeys settings a₁ rest).1 :=
    (hrun.eq_of_isOver hover.1).2.1.trans hover.2
  have hall : (e.typeKeys settings (.ofSettings settings) (first ++ rest)).1 =
      e₁.after settings rest := by
    rw [Editor.typeKeys_append, hrest]
  exact congrArg (fun e : Editor => (e.buffer, e.toState)) hall

/-- A call that ends between `@` and the name of the register, after a count, while keys are being
recorded. -/
theorem interpret_append_in_command :
    let b : Buffer := ⟨['a', 'b', 'c', 'd', 'e', 'f']⟩
    let first : List Key := [.char 'q', .char 'a', .char 'x', .char 'q', .char 'q', .char 'b',
      .char '2', .char '@']
    let rest : List Key := [.char 'a', .char 'd', .char 'l', .char 'q']
    (∀ t c, Call.Run {} ((Editor.start b).call {} (first ++ rest)) t c → ¬ c.Starved) ∧
      interpret {} b none (first ++ rest) =
        (let (b', s') := interpret {} b none first
        interpret {} b' (some s') rest) ∧
      (interpret {} b none (first ++ rest)).1.text = ['e', 'f'] := by
  intro b first rest
  have hlt : (playedKeys ((Editor.start b).strokes {} (first ++ rest))).length <
      ({} : Settings).macroBudget := by decide +kernel
  have hfed := fun t c (h : Call.Run {} ((Editor.start b).call {} (first ++ rest)) t c) =>
    h.not_starved hlt
  exact ⟨hfed, interpret_append {} b none first rest hfed, by decide +kernel⟩

end ModalEditor
