import ModalEditor.Proofs.TypedMotions

/-!
# Browsing

Motion keys and the keys of visual mode never edit. With no operator pending, whatever they come to
be, a motion, a count, the character of a jump, the name of a mark or a query, they leave the text,
the history, the marks, the last command line and the registers alone, but for the search register
(`browsing_never_edits`). What carries the induction is `Browsing`: no operator is ever pending, and
only motions wait for a second key.
-/

namespace ModalEditor

/-- The characters that are a motion or begin one, zero apart. -/
def motionChars : List Char :=
  ['h', 'j', 'k', 'l', 'w', 'W', 'b', 'B', 'e', 'E', '^', '$', 'G', 'g', 'f', 'F', 't', 'T', ';',
    ',', '\'', 'n', 'N', '/', '?']

/-- Whether a key only browses: those of motions, counts and visual mode, and those that commit,
correct or cancel what is half typed. -/
def Key.browses : Key → Bool
  | .char c => c.isDigit || motionChars.contains c || c == 'v' || c == 'V'
  | .escape | .ctrlC | .backspace | .enter | .ctrlV => true
  | .ctrlR => false

namespace Editor

/-! ### What is left alone -/

/-- **Nothing is edited**: the text, the history, the marks, the last command line and all registers
but the search register are the same. -/
structure Unedited (e e' : Editor) : Prop where
  /-- The text. -/
  buffer : e'.buffer = e.buffer
  /-- The checkpoints, and which of them is current. -/
  history : e'.history = e.history
  /-- The marks. -/
  marks : e'.marks = e.marks
  /-- The command line committed last. -/
  lastCommand : e'.lastCommand = e.lastCommand
  /-- The registers. -/
  register : ∀ name, name ≠ searchRegister →
    e'.registers.slots.get? name = e.registers.slots.get? name

theorem Unedited.refl (e : Editor) : Unedited e e := ⟨rfl, rfl, rfl, rfl, fun _ _ => rfl⟩

theorem Unedited.trans {e e₁ e₂ : Editor} (h : Unedited e e₁) (h₁ : Unedited e₁ e₂) :
    Unedited e e₂ :=
  ⟨h₁.buffer.trans h.buffer, h₁.history.trans h.history, h₁.marks.trans h.marks,
    h₁.lastCommand.trans h.lastCommand,
    fun name hname => (h₁.register name hname).trans (h.register name hname)⟩

theorem Unedited.congr {e e₁ e₂ : Editor} (h : Unedited e e₁) (hbuffer : e₂.buffer = e₁.buffer)
    (hhistory : e₂.history = e₁.history) (hmarks : e₂.marks = e₁.marks)
    (hcommand : e₂.lastCommand = e₁.lastCommand) (hregisters : e₂.registers = e₁.registers) :
    Unedited e e₂ :=
  h.trans ⟨hbuffer, hhistory, hmarks, hcommand, fun _ _ => by rw [hregisters]⟩

theorem Unedited.note {e e₁ : Editor} (h : Unedited e e₁) (query : Text) :
    Unedited e { e₁ with registers := e₁.registers.note query } :=
  h.trans ⟨rfl, rfl, rfl, rfl, fun _ hname => RegisterFile.get?_note hname _ query⟩

theorem Reminded.unedited {e e₁ : Editor} (h : Reminded e e₁) : Unedited e e₁ :=
  ⟨h.buffer, h.history, h.marks, h.lastCommand, fun _ _ => by rw [h.registers]⟩

theorem reach_char_of_no_operator {e : Editor} (hop : e.operator = none) (offset : Nat)
    (inclusive : Bool) :
    e.reach (.char offset inclusive) =
      { e.dropCounts with
        cursor := e.buffer.positionAt offset
        modifier := none
        selected := none } := by
  have hop₁ : e.dropCounts.operator = none := hop
  simp only [reach, applyRange, hop₁, Option.isSome_none, Bool.false_and]
  rw [← hop₁]
  rfl

theorem reach_line_of_no_operator {e : Editor} (hop : e.operator = none) (row offset : Nat) :
    e.reach (.line row offset) = e.dropCounts.moveTo offset := by
  have hop₁ : e.dropCounts.operator = none := hop
  unfold reach
  exact if_neg (by simp [hop₁])

/-- Without an operator only the cursor moves. -/
theorem reach_of_no_operator {e : Editor} (hop : e.operator = none) (target : Target) :
    ∃ cursor modifier selected, e.reach target =
      { e.dropCounts with cursor := cursor, modifier := modifier, selected := selected } := by
  cases target with
  | char offset inclusive =>
    exact ⟨e.buffer.positionAt offset, none, none, reach_char_of_no_operator hop offset inclusive⟩
  | line row offset =>
    exact ⟨e.buffer.positionAt offset, e.modifier, e.selected,
      reach_line_of_no_operator hop row offset⟩

/-! ### One key -/

/-- **What browsing keeps**, begun in `e₀`: nothing has been edited, no operator is pending, and only
motions wait for a second key. -/
structure Browsing (e₀ e : Editor) : Prop where
  /-- Nothing has been edited. -/
  unedited : Unedited e₀ e
  /-- No operator is pending. -/
  operator : e.operator = none
  /-- Only motions wait for a second key. -/
  continuation : ∀ k, e.continuation = some k → k.opensMotion = true
  /-- No macro is being recorded. -/
  recording : e.recording = none
  /-- Commands are typed, or a query. -/
  mode : e.mode = .search ∨ e.Commanding

namespace Browsing

variable {e₀ e e' : Editor}

theorem continued (h : Browsing e₀ e) : Browsing e₀ { e with continuation := none } :=
  { h with
    unedited := h.unedited.congr rfl rfl rfl rfl rfl
    continuation := by simp }

theorem reminded (h : Browsing e₀ e) (hr : Reminded e e') : Browsing e₀ e' where
  unedited := h.unedited.trans hr.unedited
  operator := (congrArg (·.operator) hr.control).trans h.operator
  continuation k hk := h.continuation k ((congrArg Control.continuation hr.control).symm.trans hk)
  recording := hr.recording.trans h.recording
  mode := by
    have hmode : e'.mode = e.mode := congrArg Control.mode hr.control
    rw [Commanding, hmode]
    exact h.mode

theorem clearPending (h : Browsing e₀ e) : Browsing e₀ e.clearPending :=
  { h with
    unedited := h.unedited.congr rfl rfl rfl rfl rfl
    operator := rfl }

theorem reach (h : Browsing e₀ e) (target : Target) : Browsing e₀ (e.reach target) := by
  obtain ⟨cursor, modifier, selected, hreach⟩ := reach_of_no_operator h.operator target
  rw [hreach]
  exact { h with unedited := h.unedited.congr rfl rfl rfl rfl rfl }

theorem settles (h : Browsing e₀ e) {target? : Option Target} (hs : Settles e target? e') :
    Browsing e₀ e' := by
  obtain ⟨hr⟩ := hs
  cases target? with
  | none => exact (h.reminded hr).clearPending
  | some target => exact (h.reminded hr).reach target

/-- A motion that is typed to its end moves the cursor at most. -/
theorem finish (h : Browsing e₀ e) {m : Motion} (hne : ∀ d q, m ≠ .search d q)
    (settings : Settings) : Browsing e₀ (m.finish settings e) := by
  rcases settles_finish_of_ne_search hne settings e with hs | ⟨-, -, -, hsame⟩
  · exact h.settles hs
  · rw [hsame]
    exact h

theorem commitSearch (h : Browsing e₀ e) (settings : Settings) :
    Browsing e₀ (e.commitSearch settings) := by
  have hnormal : Browsing e₀
      { e with
        mode := .normal
        searchQuery := {}
        registers := e.registers.note e.searchQuery.text } :=
    { h with
      unedited := (h.unedited.note e.searchQuery.text).congr rfl rfl rfl rfl rfl
      mode := .inr (.inl rfl) }
  exact hnormal.settles (settles_commitSearch e settings)

theorem motionKey (h : Browsing e₀ e) {settings : Settings} {c : Char}
    (hkey : MotionKey settings e c e') : Browsing e₀ e' := by
  cases hkey with
  | whole m hlast hopening =>
    refine h.finish (fun d q hm => ?_) settings
    simp [hm, Motion.opening] at hopening
  | awaits k hk modifier =>
    exact { h with
      unedited := h.unedited.congr rfl rfl rfl rfl rfl
      continuation := fun k' hk' => Option.some.inj hk' ▸ hk }
  | query d =>
    exact { h with
      unedited := h.unedited.congr rfl rfl rfl rfl rfl
      mode := .inl rfl }

theorem toggleVisual (h : Browsing e₀ e) (kind : VisualKind) :
    Browsing e₀ (e.toggleVisual kind) := by
  unfold Editor.toggleVisual
  dsimp only
  split
  · exact { h with
      unedited := h.unedited.congr rfl rfl rfl rfl rfl
      operator := rfl
      mode := .inr (.inl rfl) }
  · exact { h with
      unedited := h.unedited.congr rfl rfl rfl rfl rfl
      operator := rfl
      mode := .inr (.inr rfl) }

theorem motionKey?_of_mem {c : Char} (hc : c ∈ motionChars) (e : Editor) :
    ∃ e', e.motionKey? c = some e' := by
  unfold motionKey?
  split
  case h_27 => simp_all [motionChars]
  all_goals exact ⟨_, rfl⟩

/-- A browsing character that is no digit of a count is a motion key, or toggles a visual mode. -/
theorem motionKey?_of_browses {c : Char} (hc : (Key.char c).browses = true)
    (hcount : e.countDigit? (.char c) = none) :
    (∃ e', e.motionKey? c = some e') ∨ c = 'v' ∨ c = 'V' := by
  have hcases : ((c.isDigit = true ∨ c ∈ motionChars) ∨ c = 'v') ∨ c = 'V' := by
    simpa [Key.browses] using hc
  rcases hcases with ((hdigit | hmem) | hv) | hV
  · have hzero : c = '0' := by
      refine Decidable.byContradiction fun hne => ?_
      simp [countDigit?, hne, hdigit] at hcount
    subst hzero
    exact .inl ⟨_, rfl⟩
  · exact .inl (motionKey?_of_mem hmem e)
  · exact .inr (.inl hv)
  · exact .inr (.inr hV)

/-- A key that means the same in normal and in visual mode. -/
theorem modeKey_of_both (hm : e.Commanding) (settings : Settings) {key : Key}
    (hd : e.countDigit? key = none) (hnormal : e.normalKey key = e')
    (hvisual : ∀ kind, e.visualKey kind key = e') : e.modeKey settings key = e' := by
  rcases modeKey_of_commanding hm settings hd with ⟨-, h⟩ | ⟨kind, -, h⟩
  · exact h.trans hnormal
  · exact h.trans (hvisual kind)

/-- Where commands are typed and no operator is pending, three keys toggle a visual mode. -/
theorem modeKey_toggles (hm : e.Commanding) (hop : e.operator = none) (settings : Settings) :
    e.modeKey settings (.char 'v') = e.toggleVisual .char ∧
      e.modeKey settings (.char 'V') = e.toggleVisual .line ∧
      e.modeKey settings .ctrlV = e.toggleVisual .block := by
  have command (c : Char) (hmotion : e.motionKey? c = none)
      (hoperator : Operator.ofKey? c = none) (hmark : c ≠ 'm') :
      e.normalChar c = e.commandKey c := by
    simp [normalChar, hmotion, hoperator, hop, hmark]
  refine ⟨?_, ?_, ?_⟩
  · exact modeKey_of_both hm settings rfl (command 'v' rfl rfl (by decide)) fun _ => rfl
  · exact modeKey_of_both hm settings rfl (command 'V' rfl rfl (by decide)) fun _ => rfl
  · exact modeKey_of_both hm settings rfl rfl fun _ => rfl

theorem modeKey (h : Browsing e₀ e) (settings : Settings) {key : Key} (hkey : key.browses = true)
    (hesc : key.isEscape = false) : Browsing e₀ (e.modeKey settings key) := by
  rcases h.mode with hm | hm
  · rw [modeKey_of_search hm]
    have query (l : LineInput) : Browsing e₀ { e with searchQuery := l } :=
      { h with unedited := h.unedited.congr rfl rfl rfl rfl rfl }
    cases key with
    | char c => exact query _
    | backspace => exact query _
    | enter => exact h.commitSearch settings
    | ctrlV => exact h
    | _ => simp [Key.browses, Key.isEscape] at hkey hesc
  · obtain ⟨hchar, hline, hblock⟩ := modeKey_toggles hm h.operator settings
    cases key with
    | char c =>
      cases hcount : e.countDigit? (.char c) with
      | some d =>
        rw [modeKey_of_digit hm settings hcount]
        exact { h with unedited := h.unedited.congr rfl rfl rfl rfl rfl }
      | none =>
        rcases motionKey?_of_browses hkey hcount with ⟨e', hmotion⟩ | rfl | rfl
        · rw [modeKey_of_motionKey? hm settings hcount hmotion]
          exact h.motionKey (motionKey_of_motionKey? settings hmotion)
        · rw [hchar]
          exact h.toggleVisual .char
        · rw [hline]
          exact h.toggleVisual .line
    | ctrlV =>
      rw [hblock]
      exact h.toggleVisual .block
    | enter =>
      have hsame : e.modeKey settings .enter = e :=
        modeKey_of_both hm settings rfl rfl fun _ => rfl
      rw [hsame]
      exact h
    | backspace =>
      have hsame : e.modeKey settings .backspace = e :=
        modeKey_of_both hm settings rfl rfl fun _ => rfl
      rw [hsame]
      exact h
    | _ => simp [Key.browses, Key.isEscape] at hkey hesc

theorem escape (h : Browsing e₀ e) : Browsing e₀ e.escape where
  unedited := h.unedited.congr rfl rfl rfl rfl rfl
  operator := rfl
  continuation := by simp [Editor.escape]
  recording := h.recording
  mode := .inr (.inl rfl)

/-- **Every browsing key keeps on browsing.** -/
theorem press (h : Browsing e₀ e) (settings : Settings) {key : Key} (hkey : key.browses = true) :
    ∃ e', e.press settings key = .done e' ∧ Browsing e₀ e' := by
  cases hesc : key.isEscape with
  | true => exact ⟨e.escape, by simp [Editor.press, hesc], h.escape⟩
  | false =>
    by_cases hmode : e.continuation = none ∨ e.continuation = some .gotoPrefix ∧ key ≠ .char 'g'
    · exact ⟨_, press_of_modeKey settings hesc hmode, h.continued.modeKey settings hkey hesc⟩
    · cases hk : e.continuation with
      | none => exact absurd (.inl hk) hmode
      | some k =>
        have hg : k = .gotoPrefix → key = .char 'g' := by
          rintro rfl
          simpa [hk] using hmode
        rcases press_second settings hesc hk hg with ⟨c, rfl, hpress⟩ | ⟨-, hpress⟩
        · obtain ⟨m, hlast, -, hdone⟩ := continueWith_opensMotion (h.continuation k hk) settings
            (e := { e with continuation := none }) (c := c) (by simpa using hg)
          refine ⟨_, hpress.trans hdone, h.continued.finish (fun d q hm => ?_) settings⟩
          simp [hm, Motion.last] at hlast
        · exact ⟨_, hpress, h.continued⟩

/-! ### Any number of keys -/

theorem clampCursor (h : Browsing e₀ e) : Browsing e₀ e.clampCursor :=
  { h with unedited := h.unedited.congr rfl rfl rfl rfl rfl }

/-- A call with browsing keys keeps on browsing. The induction is on the keys: none of them plays a
macro, so each may have a call of its own. -/
theorem after (h : Browsing e₀ e) (settings : Settings) {keys : List Key}
    (hkeys : ∀ key ∈ keys, key.browses = true) : Browsing e₀ (e.after settings keys) := by
  induction keys generalizing e with
  | nil => exact h
  | cons key keys ih =>
    obtain ⟨hkey, hrest⟩ := List.forall_mem_cons.1 hkeys
    obtain ⟨e', hpress, h'⟩ := h.press settings hkey
    rw [← capture_of_none h.recording key] at hpress
    rw [after_cons_of_done hpress, after_singleton_of_done hpress]
    exact ih h'.clampCursor hrest

end Browsing

/-- **Motions never edit.** From normal mode, with no operator or second key waited for and no macro
being recorded, any keys of motions and of visual mode leave the text, the history, the marks, the
last command line and the registers alone, but for the search register. No operator is pending after
them, and no text or command line is being typed. -/
theorem browsing_never_edits {e : Editor} (hm : e.mode = .normal) (hop : e.operator = none)
    (hk : e.continuation = none) (hrec : e.recording = none) (settings : Settings)
    {keys : List Key} (hkeys : ∀ key ∈ keys, key.browses = true) :
    let e' := e.after settings keys
    Unedited e e' ∧ e'.operator = none ∧ e'.mode ≠ .insert ∧ e'.mode ≠ .commandLine := by
  intro e'
  have hstart : Browsing e e := ⟨.refl e, hop, by simp [hk], hrec, .inr (.inl hm)⟩
  have h : Browsing e e' := hstart.after settings hkeys
  refine ⟨h.unedited, h.operator, ?_, ?_⟩
  · rcases h.mode with hmode | hmode
    · simp [hmode]
    · exact hmode.ne_insert
  · rcases h.mode with hmode | hmode
    · simp [hmode]
    · exact hmode.ne_commandLine

/-- A counted jump, a search, a selection that is cancelled and a jump to a mark, after an edit. -/
theorem browsing_never_edits_mixed :
    ∃ e : Editor, Reachable ⟨['x', 'h', 'b', 'h', 'b', '\n', 'h']⟩ e ∧
      let e' := e.after {} [.char '2', .char 'f', .char 'b', .char '/', .char 'h', .enter, .char 'v',
        .char 'k', .ctrlC, .char '\'', .char 'b']
      e'.cursor ≠ e.cursor ∧ e'.matchFound = true ∧ Unedited e e' ∧ e'.operator = none ∧
        e'.mode ≠ .insert ∧ e'.mode ≠ .commandLine := by
  have he : Reachable ⟨['x', 'h', 'b', 'h', 'b', '\n', 'h']⟩ _ :=
    .first {} [.char 'x', .char 'l', .char 'm', .char 'b', .char 'h']
  refine ⟨_, he, by decide +kernel, by decide +kernel, ?_⟩
  exact browsing_never_edits (by decide +kernel) (by decide +kernel) (by decide +kernel)
    (by decide +kernel) {} (by decide +kernel)

end Editor

end ModalEditor
