import ModalEditor.Proofs.Commands
import ModalEditor.Proofs.Limits
import ModalEditor.Proofs.Notation

/-!
# Recording

Which keys concern the macro being recorded (`recorded_press`), and what its register holds. While
nothing else touches the register, each typed key adds its notation and a played key adds nothing
(`Call.Run.read_recorded`), so that a recording holds just the keys that were typed (`record_keys`).
The key that ends it is taken out again by what it looks like: a `q` at the end of the register. For
a typed key that is right, for one that a macro played it may be another `q` (`read_stop_iff`).
-/

namespace ModalEditor

namespace Editor

/-! ### Keys that leave a recording alone -/

@[simp] theorem recording_applyRange (e : Editor) (source target : Nat) :
    (e.applyRange source target).recording = e.recording := by
  unfold applyRange
  cases e.operator with
  | none => rfl
  | some op =>
    cases op with
    | delete => rfl
    | change => rfl
    | yank =>
      dsimp only
      split <;> rfl

@[simp] theorem recording_applyRows (e : Editor) (first last : Nat) :
    (e.applyRows first last).recording = e.recording := by
  unfold applyRows
  cases e.operator with
  | none => rfl
  | some op => cases op <;> rfl

@[simp] theorem recording_applyBlock (e : Editor) (top bottom left right : Nat) :
    (e.applyBlock top bottom left right).recording = e.recording := by
  unfold applyBlock
  cases e.operator with
  | none => rfl
  | some op => cases op <;> rfl

@[simp] theorem recording_reach (e : Editor) (target : Target) :
    (e.reach target).recording = e.recording := by
  cases target with
  | char offset inclusive => exact recording_applyRange e.dropCounts _ _
  | line row offset =>
    unfold reach
    dsimp only
    split
    · exact recording_applyRows e.dropCounts _ _
    · rfl

theorem Settled.recording {e e' : Editor} (h : Settled e e') : e'.recording = e.recording := by
  cases h with
  | reach akin target => exact (recording_reach _ target).trans akin.recording
  | giveUp akin => exact akin.recording

theorem Moved.recording {e e' : Editor} (h : Moved e e') : e'.recording = e.recording := by
  cases h with
  | settled h => exact h.recording
  | awaits hk hm => rfl
  | query d => rfl

theorem recording_insertKey (e : Editor) (key : Key) :
    (e.insertKey key).recording = e.recording := by
  cases key with
  | backspace =>
    unfold insertKey eraseBack unrecordTyped
    dsimp only
    split
    · rfl
    · split <;> rfl
  | _ => rfl

theorem recording_commandLineKey (e : Editor) (key : Key) :
    (e.commandLineKey key).recording = e.recording := by
  cases key <;> rfl

theorem recording_searchKey (e : Editor) (settings : Settings) (key : Key) :
    (e.searchKey settings key).recording = e.recording := by
  cases key with
  | enter => exact (settles_commitSearch e settings).settled.recording
  | _ => rfl

theorem recording_toggleVisual (e : Editor) (kind : VisualKind) :
    (e.toggleVisual kind).recording = e.recording := by
  unfold toggleVisual
  dsimp only
  split <;> rfl

theorem recording_operateOnSelection (e : Editor) (kind : VisualKind) (op : Operator) :
    (e.operateOnSelection kind op).recording = e.recording := by
  unfold operateOnSelection
  cases kind with
  | char => exact recording_applyRange _ _ _
  | line => exact recording_applyRows _ _ _
  | block => exact recording_applyBlock _ _ _ _ _

theorem recording_visualKey (e : Editor) (kind : VisualKind) (key : Key) :
    (e.visualKey kind key).recording = e.recording := by
  cases key with
  | ctrlV => exact recording_toggleVisual e .block
  | char c =>
    unfold visualKey
    dsimp only
    split
    · exact recording_toggleVisual e .char
    · exact recording_toggleVisual e .line
    · exact recording_operateOnSelection e kind .delete
    · exact recording_operateOnSelection e kind .delete
    · exact recording_operateOnSelection e kind .yank
    · exact recording_operateOnSelection e kind .change
    · rfl
    · cases hmotion : e.motionKey? c with
      | none => rfl
      | some e' => exact (moved_motionKey? hmotion).recording
  | _ => rfl

theorem recording_operatorKey (e : Editor) (op : Operator) :
    (e.operatorKey op).recording = e.recording := by
  unfold operatorKey
  split
  · exact recording_applyRows _ _ _
  · rfl

theorem recording_openRow (e : Editor) (below : Bool) :
    (e.openRow below).recording = e.recording := by
  cases below <;> rfl

theorem recording_removeChars (e : Editor) (s : Span) :
    (e.removeChars s).recording = e.recording := by
  unfold removeChars
  split <;> rfl

theorem recording_replaceChars (e : Editor) (c : Char) :
    (e.replaceChars c).recording = e.recording := by
  unfold replaceChars
  dsimp only
  split <;> rfl

theorem recording_put (e : Editor) (after : Bool) : (e.put after).recording = e.recording := by
  unfold put
  dsimp only
  split
  · rfl
  · split
    · unfold putRows
      dsimp only
      split
      · rfl
      · split <;> rfl
    · rfl

theorem recording_goTo (e : Editor) (h : History Snapshot) (c? : Option (Checkpoint Snapshot)) :
    (e.goTo h c?).recording = e.recording := by
  cases c? <;> rfl

/-- Among the commands of one key, `q` alone concerns a recording. -/
theorem recording_commandKey (e : Editor) {c : Char} (hc : c ≠ 'q') :
    (e.commandKey c).recording = e.recording := by
  unfold commandKey
  split
  case h_2 =>
    dsimp only
    split <;> rfl
  case h_3 | h_4 | h_5 | h_6 => exact recording_reach _ _
  case h_7 | h_8 => exact recording_openRow e _
  case h_9 | h_10 => exact recording_removeChars _ _
  case h_11 | h_12 => exact recording_put e _
  case h_15 => exact absurd rfl hc
  case h_17 => exact recording_goTo _ _ _
  case h_18 | h_19 => exact recording_toggleVisual e _
  all_goals rfl

theorem recording_normalChar (e : Editor) (c : Char) :
    (e.normalChar c).recording = e.recording ∨ c = 'q' ∧ e.normalChar c = e.toggleRecording := by
  unfold normalChar
  split
  · rename_i e' hmotion
    exact .inl (moved_motionKey? hmotion).recording
  · split
    · rename_i op _
      exact .inl (recording_operatorKey e op)
    · split
      · exact .inl rfl
      · split
        · exact .inl rfl
        · split
          · exact .inl rfl
          · split
            · exact .inl rfl
            · by_cases hc : c = 'q'
              · subst hc
                exact .inr ⟨rfl, rfl⟩
              · exact .inl (recording_commandKey e hc)

theorem recording_modeKey (e : Editor) (settings : Settings) (key : Key) :
    (e.modeKey settings key).recording = e.recording ∨
      key = .char 'q' ∧ e.modeKey settings key = e.toggleRecording := by
  unfold modeKey
  split
  · exact .inl (recording_insertKey e key)
  · exact .inl (recording_commandLineKey e key)
  · exact .inl (recording_searchKey e settings key)
  · split
    · exact .inl rfl
    · cases key with
      | char c =>
        obtain hkept | ⟨rfl, htoggled⟩ := recording_normalChar e c
        · exact .inl hkept
        · exact .inr ⟨rfl, htoggled⟩
      | ctrlR => exact .inl (recording_goTo _ _ _)
      | ctrlV => exact .inl (recording_toggleVisual e .block)
      | _ => exact .inl rfl
  · rename_i kind _
    split
    · exact .inl rfl
    · exact .inl (recording_visualKey e kind key)

theorem recording_continueWith (e : Editor) {k : Continuation} (hk : k ≠ .startRecording)
    (c : Char) : (e.continueWith k c).editor.recording = e.recording := by
  cases k with
  | setRegister => rfl
  | setMark => rfl
  | deleteMark => rfl
  | findChar d => exact (settles_startJump e _).settled.recording
  | toChar d => exact (settles_startJump e _).settled.recording
  | replaceChar => exact recording_replaceChars e c
  | jumpToMark =>
    rcases settled_jumpToMark e c with h | h
    · exact h.recording
    · exact congrArg (·.recording) h
  | startRecording => exact absurd rfl hk
  | startPlayback =>
    unfold continueWith startPlayback
    dsimp only
    split
    · rfl
    · split <;> rfl
  | gotoPrefix => exact recording_reach e e.topTarget

/-- **What a key does about a recording.** -/
inductive Recorded (e : Editor) (key : Key) : Outcome → Prop where
  /-- Nothing. -/
  | kept {o : Outcome} (h : o.editor.recording = e.recording) : Recorded e key o
  /-- It ends the recording, or waits for the name of another. -/
  | toggled (hkey : key = .char 'q') :
    Recorded e key (.done ({ e with continuation := none } : Editor).toggleRecording)
  /-- It begins one. -/
  | begun (name : Char) (hkey : key = .char name) :
    Recorded e key (.done (({ e with continuation := none } : Editor).startRecording name))

theorem recorded_modeKey (e : Editor) (settings : Settings) (key : Key) :
    Recorded e key (.done (({ e with continuation := none } : Editor).modeKey settings key)) := by
  obtain hkept | ⟨rfl, htoggled⟩ := recording_modeKey { e with continuation := none } settings key
  · exact .kept hkept
  · exact htoggled ▸ .toggled rfl

theorem recorded_press (e : Editor) (settings : Settings) (key : Key) :
    Recorded e key (e.press settings key) := by
  unfold press
  split
  · exact .kept rfl
  · split
    · rename_i hk
      have h := recorded_modeKey e settings key
      rwa [continued_of_none hk] at h
    · rename_i k hk
      dsimp only
      split
      · exact recorded_modeKey e settings key
      · cases key with
        | char c =>
          by_cases hs : k = .startRecording
          · subst hs
            exact .begun c rfl
          · exact .kept (recording_continueWith _ hs c)
        | _ => exact .kept rfl

end Editor

namespace RegisterFile

theorem read_capture (r : RegisterFile) (name : Char) (key : Key) :
    (r.capture name key).read name = r.read name ++ key.write := by
  simp [capture]

/-- The end of a recording drops one `q` from the register, if that is its last character. -/
theorem read_finish (r : RegisterFile) (name : Char) :
    (r.finish name).read name =
      if (r.read name).getLast? = some 'q' then (r.read name).dropLast else r.read name := by
  unfold finish
  split <;> simp

theorem keysOf_eq {r : RegisterFile} {name : Char} {keys : List Key}
    (h : r.read name = Key.writeAll keys) : r.keysOf name = keys := by
  have hread := Key.readAll_writeAll_append keys []
  rwa [List.append_nil, ← h, Key.readAll, List.append_nil] at hread

end RegisterFile

namespace Editor

@[simp] theorem recording_capture (e : Editor) (key : Key) :
    (e.capture key).recording = e.recording := by
  unfold capture
  split <;> rfl

/-- The content of the register when a typed key has been recorded. -/
theorem read_registers_capture {e : Editor} {name : Char} (hrec : e.recording = some name)
    (key : Key) :
    (e.capture key).registers.read name = e.registers.read name ++ key.write := by
  simp [capture, hrec, RegisterFile.read_capture]

theorem toggleRecording_of_some {e : Editor} {name : Char} (hrec : e.recording = some name) :
    e.toggleRecording =
      { e with repeatCount := none, recording := none, registers := e.registers.finish name } := by
  simp [toggleRecording, hrec]

/-! ### The end of a recording -/

/-- The key that ends a recording is a `q`. -/
theorem after_of_stop {s : Stroke} {settings : Settings} {name : Char}
    (hrec : s.before.recording = some name) (hstop : (s.after settings).recording = none) :
    s.key = .char 'q' ∧ (s.after settings).registers = s.met.registers.finish name := by
  have hmet : s.met.recording = some name := by
    unfold Stroke.met
    split <;> simp [hrec]
  have hpress := recorded_press s.met settings s.key
  unfold Stroke.after Stroke.outcome at hstop ⊢
  generalize s.met.press settings s.key = o at hpress hstop ⊢
  cases hpress with
  | kept h => simp [h, hmet] at hstop
  | toggled hkey =>
    have hmet' : ({ s.met with continuation := none } : Editor).recording = some name := hmet
    rw [toggleRecording_of_some hmet']
    exact ⟨hkey, rfl⟩
  | begun other hkey => simp [Outcome.editor, startRecording] at hstop

/-- **When the end of a recording takes out just the key that brought it about**: when that key was
typed, so that it had been recorded, or when the register does not end in a `q`. -/
theorem read_stop_iff (e : Editor) (settings : Settings) (keys : List Key) :
    ∀ s ∈ e.strokes settings keys, ∀ name, s.before.recording = some name →
      (s.after settings).recording = none →
        ((s.after settings).registers.read name = s.before.registers.read name ↔
          s.depth = 0 ∨ (s.before.registers.read name).getLast? ≠ some 'q') := by
  intro s _ name hrec hstop
  obtain ⟨hkey, hregisters⟩ := after_of_stop hrec hstop
  rw [hregisters, RegisterFile.read_finish]
  by_cases hdepth : s.depth = 0
  · -- The `q` has been recorded, so it is the last character.
    have hmet : s.met.registers.read name = s.before.registers.read name ++ ['q'] := by
      simp [Stroke.met, hdepth, hkey, read_registers_capture hrec, Key.write]
    simp [hmet, hdepth]
  · have hmet : s.met = s.before := by simp [Stroke.met, hdepth]
    rw [hmet]
    by_cases hlast : (s.before.registers.read name).getLast? = some 'q'
    · have hne : (s.before.registers.read name).dropLast ≠ s.before.registers.read name := by
        intro heq
        have hlen := congrArg List.length heq
        cases hcontent : s.before.registers.read name with
        | nil => simp [hcontent] at hlast
        | cons c t => simp [hcontent] at hlen
      simp [hlast, hdepth, hne]
    · simp [hlast]

/-- A macro ends the recording of another, two macros deep. The recording ends in the name of the
macro that was typed, and keeps it. -/
theorem read_stop_nested :
    ∃ e : Editor, Reachable ⟨['q', '\n', '@', 'b']⟩ e ∧
      ∃ s ∈ e.strokes {} [.char 'l', .char '@', .char 'c'], s.depth = 2 ∧
        s.before.recording = some 'a' ∧ (s.after {}).recording = none ∧
          s.before.registers.read 'a' = ['l', '@', 'c'] ∧
            (s.after {}).registers.read 'a' = s.before.registers.read 'a' := by
  obtain ⟨e, he, s, hs, hdepth, hrec, hnone, hread⟩ : ∃ e : Editor,
      Reachable ⟨['q', '\n', '@', 'b']⟩ e ∧
        ∃ s ∈ e.strokes {} [.char 'l', .char '@', .char 'c'], s.depth = 2 ∧
          s.before.recording = some 'a' ∧ (s.after {}).recording = none ∧
            s.before.registers.read 'a' = ['l', '@', 'c'] :=
    ⟨_, .first {} [.char '"', .char 'b', .char 'y', .char 'l', .char 'j', .char '"', .char 'c',
      .char 'y', .char '$', .char 'q', .char 'a'], by decide +kernel⟩
  have hiff := read_stop_iff e {} _ s hs 'a' hrec hnone
  exact ⟨e, he, s, hs, hdepth, hrec, hnone, hread, hiff.2 (.inr (by simp [hread]))⟩

/-- A macro that is named `q` ends the recording of another, which loses that name. -/
theorem stop_drops_macro_name :
    ∃ e : Editor, Reachable ⟨['q']⟩ e ∧ e.recording = some 'a' ∧
      ∃ s ∈ e.strokes {} [.char '@', .char 'q'], s.depth = 1 ∧ s.before.recording = some 'a' ∧
        (s.after {}).recording = none ∧ s.before.registers.read 'a' = ['@', 'q'] ∧
          (s.after {}).registers.read 'a' = ['@'] := by
  have he : Reachable ⟨['q']⟩ _ :=
    .first {} [.char '"', .char 'q', .char 'y', .char 'l', .char 'q', .char 'a']
  exact ⟨_, he, by decide +kernel⟩

end Editor

/-! ### What a recording holds -/

/-- The key leaves alone what a register holds and whether a macro is recorded; that it may itself
have been recorded there does not count. -/
def Stroke.Spares (s : Stroke) (settings : Settings) (name : Char) : Prop :=
  (s.after settings).recording = s.before.recording ∧
    (s.after settings).registers.read name = s.met.registers.read name

instance (s : Stroke) (settings : Settings) (name : Char) : Decidable (s.Spares settings name) :=
  inferInstanceAs (Decidable (_ ∧ _))

namespace Call

variable {settings : Settings} {c c' : Call} {t : List Stroke} {name : Char}

/-- A typed key adds its notation to the recording, and nothing else does. -/
theorem Step.read_recorded (h : Step settings c t c') (hrec : c.editor.recording = some name)
    (hspares : ∀ s ∈ t, s.Spares settings name) :
    c'.editor.recording = some name ∧
      c'.editor.registers.read name =
        c.editor.registers.read name ++ Key.writeAll (typedKeys t) := by
  obtain ⟨rfl, heditor⟩ | ⟨s, rfl, hbefore, heditor⟩ := h.editor_eq
  · rw [heditor]
    exact ⟨hrec, by simp [Editor.clampCursor]⟩
  · obtain ⟨hkept, hread⟩ := hspares s (by simp)
    obtain ⟨hrecording, hregisters⟩ : c'.editor.recording = (s.after settings).recording ∧
        c'.editor.registers = (s.after settings).registers := by
      rcases heditor with heditor | heditor
      · rw [heditor]
        exact ⟨rfl, rfl⟩
      · rw [heditor]
        exact ⟨rfl, rfl⟩
    rw [← hbefore] at hrec ⊢
    refine ⟨by rw [hrecording, hkept, hrec], ?_⟩
    rw [hregisters, hread]
    by_cases hdepth : s.depth = 0
    · simp [Stroke.met, typedKeys, hdepth, Editor.read_registers_capture hrec]
    · simp [Stroke.met, typedKeys, hdepth]

/-- **While a macro is recorded** its register holds the keys typed since, in notation. -/
theorem Run.read_recorded (h : Run settings c t c') (hrec : c.editor.recording = some name)
    (hspares : ∀ s ∈ t, s.Spares settings name) :
    c'.editor.recording = some name ∧
      c'.editor.registers.read name =
        c.editor.registers.read name ++ Key.writeAll (typedKeys t) := by
  induction h with
  | refl c => exact ⟨hrec, by simp⟩
  | step head tail ih =>
    obtain ⟨hrec₁, hread₁⟩ := head.read_recorded hrec fun s hs => hspares s (by simp [hs])
    obtain ⟨hrec₂, hread₂⟩ := ih hrec₁ fun s hs => hspares s (by simp [hs])
    refine ⟨hrec₂, ?_⟩
    rw [hread₂, hread₁, typedKeys_append, Key.writeAll_append, List.append_assoc]

end Call

namespace Editor

section Record

variable {e : Editor} {settings : Settings} {name : Char}

theorem press_toggleRecording (hm : e.mode = .normal) (hk : e.continuation = none)
    (hop : e.operator = none) (settings : Settings) :
    e.press settings (.char 'q') = .done e.toggleRecording :=
  press_command hm hk hop settings (by decide) rfl rfl (by decide)

/-- A recording begins with an empty register, unless it is one to add to. -/
theorem after_record (hm : e.mode = .normal) (hw : e.waiting = false) (hrec : e.recording = none)
    (hname : name.isUpper = false) (settings : Settings) :
    (∀ keys, e.after settings (.char 'q' :: .char name :: keys) =
      (e.after settings [.char 'q', .char name]).after settings keys) ∧
      (e.after settings [.char 'q', .char name]).recording = some name ∧
        (e.after settings [.char 'q', .char name]).registers.read name = [] := by
  have hfirst : (e.capture (.char 'q')).press settings (.char 'q') = .done e.toggleRecording := by
    rw [capture_of_none hrec]
    exact press_toggleRecording hm (continuation_of_not_waiting hw) (operator_of_not_waiting hw)
      settings
  have hwait : e.toggleRecording.clampCursor.continuation = some .startRecording := by
    simp [toggleRecording, hrec, clampCursor, awaitKey]
  have hsecond : (e.toggleRecording.clampCursor.capture (.char name)).press settings (.char name) =
      .done (({ e.toggleRecording.clampCursor with continuation := none } :
        Editor).startRecording name) := by
    rw [capture_of_none (by simp [toggleRecording, hrec, clampCursor, awaitKey])]
    exact press_continueWith hwait (by decide) settings name
  have hcons (keys : List Key) : e.after settings (.char 'q' :: .char name :: keys) =
      (({ e.toggleRecording.clampCursor with continuation := none } :
        Editor).startRecording name).clampCursor.after settings keys := by
    rw [after_cons_of_done hfirst, after_singleton_of_done hfirst, after_cons_of_done hsecond,
      after_singleton_of_done hsecond]
  have hbegun := hcons []
  refine ⟨fun keys => ?_, ?_, ?_⟩
  · rw [hcons, hbegun]
    rfl
  · rw [hbegun]
    rfl
  · rw [hbegun]
    simp [after_eq_typeKeys, typeKeys, startRecording, hname, clampCursor]

/-- The last key of a call, if it plays nothing. -/
theorem after_concat_of_done {e e' : Editor} {settings : Settings} {keys : List Key} {key : Key}
    (h : ((e.after settings keys).capture key).press settings key = .done e') :
    e.after settings (keys ++ [key]) = e'.clampCursor := by
  rw [after_eq_typeKeys] at h ⊢
  rw [typeKeys_append]
  simp only [typeKeys, typeKey, h]

/-- **A recording holds the keys that were typed.** From normal mode, with nothing half typed and no
macro being recorded, a macro is recorded under a name that is no capital letter. If no key of the
recording, typed or played, touches that register or the recording, and the keys end where a command
may start, then the register holds the typed keys in notation, and they are read back from it. -/
theorem record_keys (hm : e.mode = .normal) (hw : e.waiting = false) (hrec : e.recording = none)
    (hname : name.isUpper = false) (settings : Settings) (keys : List Key)
    (hspares : ∀ s ∈ (e.after settings [.char 'q', .char name]).strokes settings keys,
      s.Spares settings name)
    (hend : let e₁ := e.after settings (.char 'q' :: .char name :: keys)
      e₁.mode = .normal ∧ e₁.operator = none ∧ e₁.continuation = none) :
    let e₂ := e.after settings (.char 'q' :: .char name :: keys ++ [.char 'q'])
    e₂.registers.read name = Key.writeAll keys ∧ e₂.registers.keysOf name = keys ∧
      e₂.recording = none := by
  obtain ⟨hcons, hbegun, hempty⟩ := after_record hm hw hrec hname settings
  generalize e.after settings [.char 'q', .char name] = e₀ at hspares hcons hbegun hempty
  -- The keys of the recording.
  obtain ⟨c, hrun, hover, heditor, -⟩ := e₀.run_strokes settings keys
  have htyped : keys = typedKeys (e₀.strokes settings keys) ++ c.typed := hrun.typed_eq
  rw [hover.2, List.append_nil] at htyped
  obtain ⟨hrec₁, hread₁⟩ := hrun.read_recorded hbegun hspares
  rw [heditor, ← hcons] at hrec₁ hread₁
  have hheld : (e.after settings (.char 'q' :: .char name :: keys)).registers.read name =
      Key.writeAll keys := by
    rw [hread₁, ← htyped]
    simp [call, hempty]
  -- The `q` that ends it.
  obtain ⟨hmode, hop, hk⟩ := hend
  generalize he₁ : e.after settings (.char 'q' :: .char name :: keys) = e₁
    at hrec₁ hheld hmode hop hk
  have hpress : ((e.after settings (.char 'q' :: .char name :: keys)).capture (.char 'q')).press
      settings (.char 'q') = .done (e₁.capture (.char 'q')).toggleRecording := by
    rw [he₁]
    exact press_toggleRecording (by simpa using hmode) (by simpa using hk) (by simpa using hop)
      settings
  intro e₂
  have hlast : e₂ = (e₁.capture (.char 'q')).toggleRecording.clampCursor :=
    after_concat_of_done hpress
  rw [toggleRecording_of_some (by simpa using hrec₁)] at hlast
  have hread : e₂.registers.read name = Key.writeAll keys := by
    rw [hlast]
    show ((e₁.capture (.char 'q')).registers.finish name).read name = _
    rw [RegisterFile.read_finish, read_registers_capture hrec₁, hheld]
    simp [Key.write]
  refine ⟨hread, ?_, by rw [hlast]; rfl⟩
  exact RegisterFile.keysOf_eq hread

/-- A recording with an insertion and a macro. The `q` that is inserted does not end it, and the `x`
that is played is not in it. -/
theorem record_keys_inserted :
    ∃ e : Editor, Reachable ⟨['a', 'b']⟩ e ∧ e.mode = .normal ∧ e.waiting = false ∧
      e.recording = none ∧
        (∀ s ∈ (e.after {} [.char 'q', .char 'a']).strokes {}
          [.char 'i', .char 'q', .char '<', .escape, .char '@', .char 'b'], s.Spares {} 'a') ∧
        (∃ s ∈ (e.after {} [.char 'q', .char 'a']).strokes {}
          [.char 'i', .char 'q', .char '<', .escape, .char '@', .char 'b'],
            s.depth = 1 ∧ s.key = .char 'x') ∧
        let e₂ := e.after {} [.char 'q', .char 'a', .char 'i', .char 'q', .char '<', .escape,
          .char '@', .char 'b', .char 'q']
        e₂.registers.read 'a' = ['i', 'q', '<', 'l', 't', '>', '<', 'e', 's', 'c', '>', '@', 'b'] ∧
          e₂.registers.keysOf 'a' =
            [.char 'i', .char 'q', .char '<', .escape, .char '@', .char 'b'] ∧
          e₂.recording = none := by
  obtain ⟨e, he, hm, hw, hrec, hspares, hplayed, hend⟩ : ∃ e : Editor, Reachable ⟨['a', 'b']⟩ e ∧
      e.mode = .normal ∧ e.waiting = false ∧ e.recording = none ∧
        (∀ s ∈ (e.after {} [.char 'q', .char 'a']).strokes {}
          [.char 'i', .char 'q', .char '<', .escape, .char '@', .char 'b'], s.Spares {} 'a') ∧
        (∃ s ∈ (e.after {} [.char 'q', .char 'a']).strokes {}
          [.char 'i', .char 'q', .char '<', .escape, .char '@', .char 'b'],
            s.depth = 1 ∧ s.key = .char 'x') ∧
        let e₁ := e.after {} [.char 'q', .char 'a', .char 'i', .char 'q', .char '<', .escape,
          .char '@', .char 'b']
        e₁.mode = .normal ∧ e₁.operator = none ∧ e₁.continuation = none :=
    ⟨_, .first {} [.char 'q', .char 'b', .char 'x', .char 'q'], by decide +kernel⟩
  obtain ⟨hread, hkeys, hoff⟩ := record_keys hm hw hrec (by decide) {} _ hspares hend
  exact ⟨e, he, hm, hw, hrec, hspares, hplayed, hread.trans (by decide +kernel), hkeys, hoff⟩

end Record

end Editor

end ModalEditor
