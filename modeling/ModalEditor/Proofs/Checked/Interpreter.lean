import ModalEditor.Proofs.Checked.Keys
import ModalEditor.Proofs.Commands

/-!
# The interpreter on the machine

Whole calls on the machine, macros that play macros included. **The machine never stops**
(`Checked.interpret_ok`): in every state that calls lead to, it answers what the interpreter does,
as long as the buffers on the way are shorter than `2 ^ 63` characters. A key finds the editor as
the key before has left it: what is half typed is orderly, and the cursor has been put in order
(`Checked.Ready`).
-/

namespace ModalEditor

/-- Whether the buffers before and after a key are as short as buffers are assumed to be. -/
def Stroke.Fits (settings : Settings) (s : Stroke) : Prop :=
  s.before.buffer.Fits ∧ (s.after settings).buffer.Fits

instance (settings : Settings) (s : Stroke) : Decidable (s.Fits settings) :=
  inferInstanceAs (Decidable (_ ∧ _))

namespace Checked

/-- Plays the keys of a stack of frames. -/
def replay (settings : Settings) (a : Allowance) (frames : List Frame) (e : Editor) :
    Checked (Editor × Allowance) :=
  match nextKey? frames with
  | none => (·, a) <$> clampCursor e
  | some (key, frames) =>
    match _hspend : a.spend? with
    | none => (·, a.markTruncated) <$> clampCursor e
    | some a' => do
      match ← press e settings key with
      | .done e' =>
        let clamped ← clampCursor e'
        replay settings a' frames clamped
      | .play e' keys times =>
        if a'.permits (frames.length + 1) then
          replay settings a' (.fresh keys times :: frames) e'
        else
          let clamped ← clampCursor e'
          replay settings a'.markTruncated frames clamped
termination_by a.remaining
decreasing_by all_goals simp [Allowance.remaining_of_spend _hspend]

/-- A typed key, and the macros it plays. -/
def typeKey (settings : Settings) (a : Allowance) (e : Editor) (key : Key) :
    Checked (Editor × Allowance) := do
  match ← press (e.capture key) settings key with
  | .done e' => (·, a) <$> clampCursor e'
  | .play e' keys times =>
    if a.permits 1 then replay settings a [.fresh keys times] e'
    else (·, a.markTruncated) <$> clampCursor e'

/-- Typed keys, one after the other. -/
def typeKeys (settings : Settings) (a : Allowance) (e : Editor) :
    List Key → Checked (Editor × Allowance)
  | [] => .ok (e, a)
  | key :: keys => do
    let (e, a) ← typeKey settings a e key
    typeKeys settings a e keys

/-- Runs keys on a buffer and a state. -/
def interpret (settings : Settings) (b : Buffer) (state? : Option State) (keys : List Key) :
    Checked (Buffer × State) := do
  let e : Editor := { toState := state?.getD (State.initial b), buffer := b }
  let (e, _) ← typeKeys settings (.ofSettings settings) e keys
  return (e.buffer, e.toState)

/-- The editor as every key finds it. -/
structure Ready (b : Buffer) (e : Editor) : Prop where
  /-- What is half typed is orderly. -/
  traceable : Editor.Traceable b e
  /-- The cursor is in order. -/
  clamped : e.clampCursor = e

namespace Ready

variable {b : Buffer} {e e' : Editor} {settings : Settings} {key : Key}

theorem capture (h : Ready b e) (key : Key) : Ready b (e.capture key) := by
  refine ⟨(Editor.Traceable.invariant b).capture key h.traceable, ?_⟩
  unfold Editor.capture
  split
  · exact Editor.clampCursor_of_eq h.clamped rfl rfl rfl
  · exact h.clamped

theorem done (h : Ready b e) (hpress : e.press settings key = .done e') : Ready b e'.clampCursor :=
  have hinv := Editor.Traceable.invariant b
  ⟨hinv.clampCursor (hinv.done h.traceable hpress), Editor.clampCursor_clampCursor e'⟩

/-- A macro is played from where its key has found the cursor. -/
theorem play {keys : List Key} {times : Nat} (h : Ready b e)
    (hpress : e.press settings key = .play e' keys times) : Ready b e' :=
  ⟨(Editor.Traceable.invariant b).play h.traceable hpress,
    Editor.clampCursor_of_press_eq_play h.clamped hpress⟩

theorem clampCursor (h : Ready b e) : Ready b e.clampCursor := by
  rw [h.clamped]
  exact h

theorem press_ok (h : Ready b e) (hbefore : e.buffer.Fits)
    (hafter : (e.press settings key).editor.buffer.Fits) :
    press e settings key = .ok (e.press settings key) :=
  Checked.press_ok (.of_clampCursor_eq hbefore h.clamped) h.traceable.orderly settings key hafter

end Ready

variable {b : Buffer} {e e' : Editor} {settings : Settings}

section Replay

variable {a a' : Allowance} {frames rest : List Frame} {key : Key}

theorem replay_of_done (hnext : nextKey? frames = some (key, rest)) (hspend : a.spend? = some a')
    (hpress : press e settings key = .ok (.done e')) :
    replay settings a frames e = replay settings a' rest e'.clampCursor := by
  rw [replay.eq_def]
  simp only [hnext]
  split
  · simp_all
  · rename_i hspend'
    obtain rfl := Option.some.inj (hspend'.symm.trans hspend)
    rw [hpress, ok_bind]
    dsimp only
    rw [clampCursor_ok, ok_bind]

theorem replay_of_play {keys : List Key} {times : Nat} (hnext : nextKey? frames = some (key, rest))
    (hspend : a.spend? = some a') (hpress : press e settings key = .ok (.play e' keys times)) :
    replay settings a frames e =
      if a'.permits (rest.length + 1) then replay settings a' (.fresh keys times :: rest) e'
      else replay settings a'.markTruncated rest e'.clampCursor := by
  rw [replay.eq_def]
  simp only [hnext]
  split
  · simp_all
  · rename_i hspend'
    obtain rfl := Option.some.inj (hspend'.symm.trans hspend)
    rw [hpress, ok_bind]
    dsimp only
    rw [clampCursor_ok, ok_bind]

theorem press_played_ok (h : Ready b e) (hnext : nextKey? frames = some (key, rest))
    (hfit : Stroke.Fits settings ⟨rest.length, key, e⟩) :
    press e settings key = .ok (e.press settings key) := by
  refine h.press_ok hfit.1 ?_
  rw [← Editor.outcome_played (length_of_nextKey? hnext).1]
  exact hfit.2

/-- Playback does not stop the machine. -/
theorem replay_ok (h : Ready b e) (hfit : ∀ s ∈ e.replayed settings a frames, s.Fits settings) :
    replay settings a frames e = .ok (e.replay settings a frames) := by
  fun_induction Editor.replay settings a frames e with
  | case1 a frames e hnext =>
    rw [replay.eq_def]
    simp only [hnext, clampCursor_ok, map_ok]
  | case2 a frames e key rest hnext hspend =>
    rw [replay.eq_def]
    simp only [hnext]
    split
    · rw [clampCursor_ok, map_ok]
    · simp_all
  | case3 a frames e key rest hnext a' hspend e' hpress ih =>
    rw [Editor.replayed_of_done hnext hspend hpress] at hfit
    have hok := press_played_ok h hnext (hfit _ List.mem_cons_self)
    rw [replay_of_done hnext hspend (hok.trans (congrArg Except.ok hpress))]
    exact ih (h.done hpress) fun s hs => hfit s (List.mem_cons_of_mem _ hs)
  | case4 a frames e key rest hnext a' hspend e' keys times hpress hdepth ih =>
    rw [Editor.replayed_of_play hnext hspend hpress, if_pos hdepth] at hfit
    have hok := press_played_ok h hnext (hfit _ List.mem_cons_self)
    rw [replay_of_play hnext hspend (hok.trans (congrArg Except.ok hpress)), if_pos hdepth]
    exact ih (h.play hpress) fun s hs => hfit s (List.mem_cons_of_mem _ hs)
  | case5 a frames e key rest hnext a' hspend e' keys times hpress hdepth ih =>
    rw [Editor.replayed_of_play hnext hspend hpress, if_neg hdepth] at hfit
    have hok := press_played_ok h hnext (hfit _ List.mem_cons_self)
    rw [replay_of_play hnext hspend (hok.trans (congrArg Except.ok hpress)), if_neg hdepth]
    exact ih (h.play hpress).clampCursor fun s hs => hfit s (List.mem_cons_of_mem _ hs)

end Replay

/-- A typed key does not stop the machine, and neither does what it plays. -/
theorem typeKey_ok {a : Allowance} {key : Key} (h : Ready b e)
    (hkey : Stroke.Fits settings ⟨0, key, e⟩)
    (hplayed : ∀ s ∈ e.playedBy settings a key, s.Fits settings) :
    typeKey settings a e key = .ok (e.typeKey settings a key) := by
  have hready := h.capture key
  have hbefore : (e.capture key).buffer.Fits := by
    rw [Editor.buffer_capture]
    exact hkey.1
  have hok := hready.press_ok hbefore hkey.2
  unfold typeKey Editor.typeKey
  unfold Editor.playedBy at hplayed
  rw [hok, ok_bind]
  cases hpress : (e.capture key).press settings key with
  | done e' =>
    dsimp only
    rw [clampCursor_ok, map_ok]
  | play e' keys times =>
    rw [hpress] at hplayed
    dsimp only at hplayed ⊢
    split
    · rename_i hdepth
      rw [if_pos hdepth] at hplayed
      exact replay_ok (hready.play hpress) hplayed
    · rw [clampCursor_ok, map_ok]

theorem Ready.typeKey (h : Ready b e) (settings : Settings) (a : Allowance) (key : Key) :
    Ready b (e.typeKey settings a key).1 :=
  ⟨(Editor.Traceable.invariant b).typeKey settings a h.traceable key,
    Editor.clampCursor_typeKey settings a e key⟩

theorem typeKeys_ok {a : Allowance} {keys : List Key} (h : Ready b e)
    (hfit : ∀ s ∈ e.pressedBy settings a keys, s.Fits settings) :
    typeKeys settings a e keys = .ok (e.typeKeys settings a keys) := by
  induction keys generalizing a e with
  | nil => rfl
  | cons key keys ih =>
    unfold Editor.pressedBy at hfit
    have hok := typeKey_ok h (hfit _ List.mem_cons_self) fun s hs =>
      hfit s (List.mem_cons_of_mem _ (List.mem_append_left _ hs))
    rw [typeKeys, hok, ok_bind]
    exact ih (h.typeKey settings a key) fun s hs =>
      hfit s (List.mem_cons_of_mem _ (List.mem_append_right _ hs))

theorem interpret_ok_of_ready (h : Ready b e) {keys : List Key}
    (hfit : ∀ s ∈ e.strokes settings keys, s.Fits settings) :
    interpret settings e.buffer (some e.toState) keys =
      .ok (ModalEditor.interpret settings e.buffer (some e.toState) keys) := by
  have hok : typeKeys settings (.ofSettings settings) e keys = _ := typeKeys_ok h hfit
  unfold interpret
  exact congrArg (fun r => r >>= fun r => .ok (r.1.buffer, r.1.toState)) hok

theorem Ready.of_reachable (he : Editor.Reachable b e) : Ready b e :=
  ⟨he.traceable, he.clampCursor_eq⟩

/-- **The machine never stops**: not in a first call without a state, and not in any call on the
buffer and the state that the calls before have returned. It answers what the interpreter does. -/
theorem interpret_ok (b : Buffer) (settings : Settings) (keys : List Key) :
    ((∀ s ∈ (Editor.start b).strokes settings keys, s.Fits settings) →
      interpret settings b none keys = .ok (ModalEditor.interpret settings b none keys)) ∧
    ∀ e, Editor.Reachable b e → (∀ s ∈ e.strokes settings keys, s.Fits settings) →
      interpret settings e.buffer (some e.toState) keys =
        .ok (ModalEditor.interpret settings e.buffer (some e.toState) keys) := by
  have hstart : Editor.Reachable b (Editor.start b) := .first settings []
  constructor
  · exact fun hfit => interpret_ok_of_ready (.of_reachable hstart) hfit
  · exact fun e he hfit => interpret_ok_of_ready (.of_reachable he) hfit

/-- A macro jumps back in its row and puts three characters there. It is recorded in a first call
and played twice in a second, which goes on with a count that saturates, a deletion backward and a
search that starts over. -/
theorem interpret_ok_saturated :
    let b : Buffer := ⟨['a', 'b', ' ', 'c', 'a', 'b', '\n', ' ', ' ', 'd']⟩
    let first : List Key := [.char 'y', .char 'l', .char 'q', .char 'a', .char '$', .char 'F',
      .char 'a', .char '3', .char 'p', .char 'q']
    let rest : List Key := [.char '2', .char '@', .char 'a'] ++ List.replicate 20 (.char '9') ++
      [.char 'j', .char 'X', .char '/', .char 'b', .enter]
    (∀ s ∈ (Editor.start b).strokes {} first, s.Fits {}) ∧
      interpret {} b none first = .ok (ModalEditor.interpret {} b none first) ∧
      ∃ e, Editor.Reachable b e ∧ (∀ s ∈ e.strokes {} rest, s.Fits {}) ∧
        interpret {} e.buffer (some e.toState) rest =
          .ok (ModalEditor.interpret {} e.buffer (some e.toState) rest) ∧
        (e.after {} rest).buffer.text = "ab caaaaaaaaaab\n d".toList ∧
        (e.after {} rest).matchWrapped = true := by
  intro b first rest
  have hfirst : ∀ s ∈ (Editor.start b).strokes {} first, s.Fits {} := by decide +kernel
  have he : Editor.Reachable b _ := .first {} first
  have hrest : ∀ s ∈ (Editor.ofResult (ModalEditor.interpret {} b none first)).strokes {} rest,
      s.Fits {} := by decide +kernel
  exact ⟨hfirst, (interpret_ok b {} first).1 hfirst, _, he, hrest,
    (interpret_ok b {} rest).2 _ he hrest, by decide +kernel, by decide +kernel⟩

end Checked

end ModalEditor
