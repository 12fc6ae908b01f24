import ModalEditor.Proofs.Reachable

/-!
# One command

A command is the keys up to the first moment when nothing is half typed any more: a count, a
register, an operator and its motion, a query, a whole insert session with the escape that closes it
(`isCommand`). Undo, redo and playback are no commands here.

While a command is typed the text stays, until an insert session starts from a checkpoint of it
(`Underway`). So the text that a command changes is kept (`Finished`), whatever the command.
-/

namespace ModalEditor

namespace Editor

/-! ### Which keys make a command -/

/-- Whether the key only prepares for what follows: a digit of a count or the name of a register. -/
def opens (e : Editor) : Key → Bool
  | .char c =>
    e.continuation == some .setRegister ||
      (e.continuation == none || e.continuation == some .gotoPrefix) &&
        (e.mode == .normal || e.mode.isVisual) && (e.countDigit? (.char c)).isSome
  | _ => false

/-- Whether the key undoes, redoes or names the macro to play. -/
def recalls (e : Editor) (key : Key) : Bool :=
  e.travels key || e.continuation == some .startPlayback

/-- **Whether the keys are one command**: a command goes on as long as a key opens it or leaves it
half typed. -/
def isCommand (e : Editor) (settings : Settings) : List Key → Bool
  | [] => false
  | key :: keys =>
    !e.recalls key &&
      if e.opens key || (e.after settings [key]).waiting then
        (e.after settings [key]).isCommand settings keys
      else keys.isEmpty

/-! ### Single keys -/

theorem capture_of_none {e : Editor} (hrec : e.recording = none) (key : Key) :
    e.capture key = e := by
  simp [capture, hrec]

@[simp] theorem control_capture (e : Editor) (key : Key) : (e.capture key).control = e.control := by
  unfold capture
  split <;> rfl

@[simp] theorem buffer_capture (e : Editor) (key : Key) : (e.capture key).buffer = e.buffer := by
  unfold capture
  split <;> rfl

@[simp] theorem history_capture (e : Editor) (key : Key) : (e.capture key).history = e.history := by
  unfold capture
  split <;> rfl

@[simp] theorem snapshot_capture (e : Editor) (key : Key) :
    (e.capture key).toSnapshot = e.toSnapshot := by
  unfold capture
  split <;> rfl

@[simp] theorem mode_capture (e : Editor) (key : Key) : (e.capture key).mode = e.mode :=
  congrArg Control.mode (control_capture e key)

@[simp] theorem continuation_capture (e : Editor) (key : Key) :
    (e.capture key).continuation = e.continuation :=
  congrArg Control.continuation (control_capture e key)

@[simp] theorem toPending_capture (e : Editor) (key : Key) :
    (e.capture key).toPending = e.toPending :=
  congrArg Control.toPending (control_capture e key)

@[simp] theorem recalls_capture (e : Editor) (key key' : Key) :
    (e.capture key).recalls key' = e.recalls key' := by
  simp [recalls, travels]

@[simp] theorem countDigit?_capture (e : Editor) (key key' : Key) :
    (e.capture key).countDigit? key' = e.countDigit? key' := by
  simp [countDigit?]

@[simp] theorem opens_capture (e : Editor) (key key' : Key) :
    (e.capture key).opens key' = e.opens key' := by
  cases key' <;> simp [opens]

@[simp] theorem waiting_capture (e : Editor) (key : Key) :
    (e.capture key).waiting = e.waiting := by
  simp [waiting]

@[simp] theorem control_clampCursor (e : Editor) : e.clampCursor.control = e.control := rfl

@[simp] theorem buffer_clampCursor (e : Editor) : e.clampCursor.buffer = e.buffer := rfl

@[simp] theorem history_clampCursor (e : Editor) : e.clampCursor.history = e.history := rfl

@[simp] theorem toPending_clampCursor (e : Editor) : e.clampCursor.toPending = e.toPending := rfl

@[simp] theorem mode_clampCursor (e : Editor) : e.clampCursor.mode = e.mode := rfl

@[simp] theorem waiting_clampCursor (e : Editor) : e.clampCursor.waiting = e.waiting := rfl

/-- Where the cursor is put depends on where it was, the text and whether it may stand past the
end. -/
theorem cursor_clampCursor_congr {e e' : Editor} (hc : e'.cursor = e.cursor)
    (hb : e'.buffer = e.buffer) (hm : e'.mode.cursorPastEnd = e.mode.cursorPastEnd) :
    e'.clampCursor.cursor = e.clampCursor.cursor := by
  simp only [clampCursor, lastColumn, hc, hb, hm]

theorem cursorPastEnd_of_ne_insert {m : Mode} (hm : m ≠ .insert) : m.cursorPastEnd = false := by
  cases m <;> simp_all [Mode.cursorPastEnd]

theorem taken_of_not_recalls {e : Editor} (ho : e.control.Orderly) (settings : Settings) {key : Key}
    (hr : e.recalls key = false) : ∃ e', e.press settings key = .done e' ∧ Taken e e' := by
  have hnot : e.travels key = false ∧ e.continuation ≠ some .startPlayback := by
    simpa [recalls] using hr
  have hkey := pressed ho settings key
  cases hkey' : e.press settings key with
  | done e' =>
    rw [hkey'] at hkey
    cases hkey with
    | taken h => exact ⟨e', rfl, h⟩
    | undone ht _ => simp [hnot.1] at ht
    | redone ht _ => simp [hnot.1] at ht
  | play e' keys times =>
    rw [hkey'] at hkey
    cases hkey with
    | played hk h control => exact absurd hk hnot.2

theorem after_of_not_recalls {e : Editor} (ho : e.control.Orderly) (settings : Settings) {key : Key}
    (hr : e.recalls key = false) :
    ∃ e', (e.capture key).press settings key = .done e' ∧ e.after settings [key] = e'.clampCursor ∧
      Taken e e' := by
  obtain ⟨e', hpress, ht⟩ := taken_of_not_recalls (e := e.capture key) (by simpa using ho) settings
    (by simpa using hr)
  exact ⟨e', hpress, after_singleton_of_done hpress,
    ht.congr e (by simp) (by simp) (congrArg Snapshot.cursor (by simp)) (by simp)⟩

@[simp] theorem mode_typeDigit (e : Editor) (d : Nat) : (e.typeDigit d).mode = e.mode := rfl

@[simp] theorem history_typeDigit (e : Editor) (d : Nat) :
    (e.typeDigit d).history = e.history := rfl

@[simp] theorem waiting_typeDigit (e : Editor) (d : Nat) :
    (e.typeDigit d).waiting = e.waiting := rfl

@[simp] theorem repeatCount_typeDigit (e : Editor) (d : Nat) :
    (e.typeDigit d).repeatCount = some (pushDigit (e.repeatCount.getD 0) d) := rfl

/-- Where commands are typed a digit belongs to a count. -/
theorem modeKey_of_digit {e : Editor} (hm : e.Commanding) (settings : Settings) {key : Key}
    {d : Nat} (hd : e.countDigit? key = some d) : e.modeKey settings key = e.typeDigit d := by
  unfold modeKey
  rcases hm with hm | hm
  · simp [hm, hd]
  · cases hmode : e.mode <;> simp_all [Mode.isVisual]

theorem press_digit {e : Editor} (hm : e.Commanding) (hk : e.continuation = none)
    (settings : Settings) {c : Char} {d : Nat} (hd : e.countDigit? (.char c) = some d) :
    e.press settings (.char c) = .done (e.typeDigit d) := by
  simp [press, Key.isEscape, hk, modeKey_of_digit hm settings hd]

/-- A digit, or the name of a register, leaves the text, the mode and the cursor alone. -/
theorem press_of_opens {e : Editor} (settings : Settings) {key : Key} (h : e.opens key = true) :
    ∃ e', e.press settings key = .done e' ∧ e'.buffer = e.buffer ∧ e'.history = e.history ∧
      e'.mode = e.mode ∧ e'.cursor = e.cursor := by
  cases key with
  | char c =>
    have hopens : e.continuation = some .setRegister ∨
        ((e.continuation = none ∨ e.continuation = some .gotoPrefix) ∧ e.Commanding) ∧
          ∃ d, e.countDigit? (.char c) = some d := by
      simpa [opens, Commanding, Option.isSome_iff_exists] using h
    rcases hopens with hk | ⟨⟨hk | hk, hm⟩, d, hd⟩
    · refine ⟨{ e with continuation := none, selected := some c }, ?_, rfl, rfl, rfl, rfl⟩
      simp [press, Key.isEscape, hk, continueWith]
    · exact ⟨e.typeDigit d, press_digit hm hk settings hd, rfl, rfl, rfl, rfl⟩
    · have hne : c ≠ 'g' := by
        rintro rfl
        simp [countDigit?] at hd
      have hm₁ : ({ e with continuation := none } : Editor).Commanding := hm
      refine ⟨({ e with continuation := none } : Editor).typeDigit d, ?_, rfl, rfl, rfl, rfl⟩
      have hd₁ : ({ e with continuation := none } : Editor).countDigit? (.char c) = some d := hd
      simp [press, Key.isEscape, hk, hne, modeKey_of_digit hm₁ settings hd₁]
  | _ => simp [opens] at h

theorem after_of_opens {e : Editor} (settings : Settings) {key : Key} (h : e.opens key = true) :
    ∃ e', (e.capture key).press settings key = .done e' ∧ e'.buffer = e.buffer ∧
      e'.history = e.history ∧ e'.mode = e.mode ∧ e'.cursor = e.cursor := by
  have hopens : (e.capture key).opens key = true := by simpa using h
  obtain ⟨e', hpress, hb, hh, hm, hc⟩ := press_of_opens settings hopens
  exact ⟨e', hpress, by simpa using hb, by simpa using hh, by simpa using hm,
    hc.trans (congrArg Snapshot.cursor (snapshot_capture e key))⟩

theorem continuation_of_insert {e : Editor} (ho : e.control.Orderly) (hm : e.mode = .insert) :
    e.continuation = none :=
  ho.continuation_eq_none (by simp [control, hm]) (by simp [control, hm, Mode.isVisual])

theorem waiting_of_insert {e : Editor} (hm : e.mode = .insert) : e.waiting = true := by
  simp [waiting, Control.waiting, control, hm]

/-- In insert mode no key opens a command. -/
theorem opens_of_insert {e : Editor} (ho : e.control.Orderly) (hm : e.mode = .insert) (key : Key) :
    e.opens key = false := by
  cases key <;> simp [opens, continuation_of_insert ho hm, hm, Mode.isVisual]

/-- In insert mode no key recalls anything. -/
theorem recalls_of_insert {e : Editor} (ho : e.control.Orderly) (hm : e.mode = .insert)
    (key : Key) : e.recalls key = false := by
  simp [recalls, travels, continuation_of_insert ho hm, hm]

/-- **In insert mode** a key is typed, or it ends the session. -/
theorem after_of_insert {e : Editor} (ho : e.control.Orderly) (hm : e.mode = .insert)
    (settings : Settings) (key : Key) :
    key.isEscape = true ∧ e.after settings [key] = (e.capture key).escape.clampCursor ∨
      key.isEscape = false ∧ (e.after settings [key]).mode = .insert ∧
        (e.after settings [key]).history = e.history := by
  have hk := continuation_of_insert ho hm
  cases hesc : key.isEscape with
  | true =>
    have hpress : (e.capture key).press settings key = .done (e.capture key).escape := by
      simp [press, hesc]
    exact .inl ⟨rfl, after_singleton_of_done hpress⟩
  | false =>
    have hpress : (e.capture key).press settings key = .done ((e.capture key).insertKey key) := by
      simp [press, hesc, hk, modeKey, hm]
    have hcontrol := (control_insertKey (e.capture key) key).trans (control_capture e key)
    have hhistory := (history_insertKey (e.capture key) key).trans (history_capture e key)
    rw [after_singleton_of_done hpress]
    exact .inr ⟨rfl, (congrArg Control.mode hcontrol).trans hm, hhistory⟩

/-! ### What a command leaves behind -/

/-- **What has happened since a command began** in `e₀`. -/
inductive Underway (e₀ e : Editor) : Prop where
  /-- Nothing has been changed yet. -/
  | before (buffer : e.buffer = e₀.buffer) (history : e.history = e₀.history)
    (mode : e.mode ≠ .insert)
    (cursor : e₀.mode.isVisual = false → e.cursor = e₀.cursor ∧ e.mode.isVisual = false)
  /-- Text is typed in an insert session, which took a checkpoint first. -/
  | typing (mode : e.mode = .insert) (snapshot : Snapshot)
    (cursor : e₀.mode.isVisual = false → snapshot.cursor = e₀.cursor)
    (history : e.history = e₀.history.checkpoint ⟨e₀.buffer, snapshot⟩)

/-- **What a command leaves behind** that began in `e₀`. -/
inductive Finished (e₀ e : Editor) : Prop where
  /-- The text is the same. -/
  | unchanged (buffer : e.buffer = e₀.buffer)
  /-- A checkpoint was taken of the text from before the command, which ends in normal mode. Unless
  a selection was operated on, the cursor in it is the one from before the command. -/
  | edited (snapshot : Snapshot) (cursor : e₀.mode.isVisual = false → snapshot.cursor = e₀.cursor)
    (history : e.history = e₀.history.checkpoint ⟨e₀.buffer, snapshot⟩) (mode : e.mode = .normal)
    (waiting : e.waiting = false) (repeatCount : e.repeatCount = none)

theorem Underway.start {e : Editor} (hm : e.mode ≠ .insert) : Underway e e :=
  .before rfl rfl hm (fun hv => ⟨rfl, hv⟩)

/-- The cursor stays in order where neither it nor the text changes, insert mode apart. -/
theorem cursor_clampCursor_of_eq {e e' : Editor} (he : e.clampCursor = e)
    (hc : e'.cursor = e.cursor) (hb : e'.buffer = e.buffer) (hm : e.mode ≠ .insert)
    (hm' : e'.mode ≠ .insert) :
    e'.clampCursor.cursor = e.cursor := by
  have hpast : e'.mode.cursorPastEnd = e.mode.cursorPastEnd := by
    rw [cursorPastEnd_of_ne_insert hm, cursorPastEnd_of_ne_insert hm']
  rw [cursor_clampCursor_congr hc hb hpast, he]

namespace Underway

variable {e₀ e : Editor} {settings : Settings} {key : Key}

/-- A key that leaves the command half typed, or opens it, keeps it under way. -/
theorem next (h : Underway e₀ e) (ho : e.control.Orderly) (hclamp : e.clampCursor = e)
    (hr : e.recalls key = false)
    (hmore : (e.opens key || (e.after settings [key]).waiting) = true) :
    Underway e₀ (e.after settings [key]) := by
  cases h with
  | typing mode snapshot cursor history =>
    obtain ⟨-, hafter⟩ | ⟨-, hmode, hhistory⟩ := after_of_insert ho mode settings key
    · -- Escape would have ended the command.
      have hwait : (e.after settings [key]).waiting = false := by
        rw [hafter]
        rfl
      simp [opens_of_insert ho mode, hwait] at hmore
    · exact .typing hmode snapshot cursor (hhistory.trans history)
  | before buffer history mode cursor =>
    by_cases hopens : e.opens key = true
    · obtain ⟨e', hpress, hb, hh, hm, hc⟩ := after_of_opens settings hopens
      rw [after_singleton_of_done hpress]
      have hmode : e'.mode ≠ .insert := hm ▸ mode
      refine .before (hb.trans buffer) (hh.trans history) hmode (fun hv => ?_)
      have hcur := cursor_clampCursor_of_eq hclamp hc hb mode hmode
      exact ⟨hcur.trans (cursor hv).1, (congrArg Mode.isVisual hm).trans (cursor hv).2⟩
    · obtain ⟨e', -, hafter, ht⟩ := after_of_not_recalls ho settings hr
      have hwait : e'.waiting = true := by simpa [hopens, hafter] using hmore
      rw [hafter]
      cases ht.effect with
      | still hb hh hm hc =>
        have hmode : e'.mode ≠ .insert := fun hi => mode (hm hi)
        obtain ⟨hc, hv'⟩ := hc.resolve_left (by simp [hwait])
        refine .before (hb.trans buffer) (hh.trans history) hmode (fun hv => ?_)
        have hcur := cursor_clampCursor_of_eq hclamp hc hb mode hmode
        refine ⟨hcur.trans (cursor hv).1, ?_⟩
        cases hv₁ : e'.mode.isVisual with
        | false => exact hv₁
        | true => exact absurd (hv' hv₁) (by simp [(cursor hv).2])
      | typed hm => exact absurd hm mode
      | copied snapshot hm hb hh hw => simp [hw] at hwait
      | edited snapshot hm hc hh hended =>
        have hmode : e'.mode = .insert := hended.resolve_right (by simp [hwait])
        refine .typing hmode snapshot (fun hv => ?_) ?_
        · exact (hc (cursor hv).2).trans (cursor hv).1
        · rw [history_clampCursor, hh, history, buffer]

theorem last (h : Underway e₀ e) (ho : e.control.Orderly) (hr : e.recalls key = false)
    (hend : (e.after settings [key]).waiting = false) :
    Finished e₀ (e.after settings [key]) := by
  cases h with
  | typing mode snapshot cursor history =>
    obtain ⟨-, hafter⟩ | ⟨-, hmode, -⟩ := after_of_insert ho mode settings key
    · rw [hafter]
      exact .edited snapshot cursor ((history_capture e key).trans history) rfl rfl rfl
    · -- Anything else would have been typed.
      simp [waiting_of_insert hmode] at hend
  | before buffer history mode cursor =>
    obtain ⟨e', -, hafter, ht⟩ := after_of_not_recalls ho settings hr
    rw [hafter] at hend ⊢
    cases ht.effect with
    | still hb hh hm hc => exact .unchanged (hb.trans buffer)
    | typed hm => exact absurd hm mode
    | copied snapshot hm hb hh hw => exact .unchanged (hb.trans buffer)
    | edited snapshot hm hc hh hended =>
      have hmode : e'.mode ≠ .insert := fun hi => by simp [waiting_of_insert hi] at hend
      obtain ⟨hm', hw, hn⟩ := hended.resolve_left hmode
      refine .edited snapshot (fun hv => ?_) ?_ hm' hw hn
      · exact (hc (cursor hv).2).trans (cursor hv).1
      · rw [history_clampCursor, hh, history, buffer]

end Underway

/-- The keys of a command may as well have a call each. -/
theorem after_cons_of_not_recalls {e : Editor} (ho : e.control.Orderly) (settings : Settings)
    {key : Key} (hr : e.recalls key = false) (keys : List Key) :
    e.after settings (key :: keys) = (e.after settings [key]).after settings keys := by
  obtain ⟨e', hpress, -, -⟩ := after_of_not_recalls ho settings hr
  exact after_cons_of_done hpress keys

/-- The first key of a command, and the rest. -/
theorem isCommand_cons {e : Editor} {settings : Settings} {key : Key} {keys : List Key} :
    e.isCommand settings (key :: keys) = true ↔ e.recalls key = false ∧
      ((e.opens key || (e.after settings [key]).waiting) = true ∧
          (e.after settings [key]).isCommand settings keys = true ∨
        (e.opens key || (e.after settings [key]).waiting) = false ∧ keys = []) := by
  cases hmore : e.opens key || (e.after settings [key]).waiting <;> simp [isCommand, hmore]

/-- No command is the beginning of another. -/
theorem eq_nil_of_isCommand_append {e : Editor} {settings : Settings} {keys rest : List Key}
    (hc : e.isCommand settings keys = true) (hc' : e.isCommand settings (keys ++ rest) = true) :
    rest = [] := by
  induction keys generalizing e with
  | nil => simp [isCommand] at hc
  | cons key keys ih =>
    obtain ⟨-, ⟨hmore, hkeys⟩ | ⟨hend, rfl⟩⟩ := isCommand_cons.1 hc
    · obtain ⟨-, ⟨-, hkeys'⟩ | ⟨hend', -⟩⟩ := isCommand_cons.1 hc'
      · exact ih hkeys hkeys'
      · simp [hmore] at hend'
    · obtain ⟨-, ⟨hmore', -⟩ | ⟨-, hnil⟩⟩ := isCommand_cons.1 hc'
      · simp [hend] at hmore'
      · exact hnil

example :
    (start ⟨['a', 'b', 'c']⟩).isCommand {}
      [.char '2', .char '"', .char 'q', .char 'd', .char '3', .char 'l'] = true := by
  decide +kernel

/-- Whatever is typed in an insert session, the escape that closes it ends the command. -/
theorem isCommand_session {b : Buffer} {e : Editor} (he : Reachable b e) (hm : e.mode = .insert)
    (settings : Settings) {typed : List Key} (ht : ∀ key ∈ typed, key.isEscape = false)
    {close : Key} (hclose : close.isEscape = true) :
    e.isCommand settings (typed ++ [close]) = true := by
  have ho := he.traceable.orderly
  induction typed generalizing e with
  | nil =>
    refine isCommand_cons.2 ⟨recalls_of_insert ho hm close, .inr ⟨?_, rfl⟩⟩
    obtain ⟨-, hafter⟩ | ⟨hopen, -⟩ := after_of_insert ho hm settings close
    · rw [opens_of_insert ho hm, hafter]
      rfl
    · simp [hclose] at hopen
  | cons key typed ih =>
    refine isCommand_cons.2 ⟨recalls_of_insert ho hm key, .inl ?_⟩
    have hnext := he.next settings [key]
    obtain ⟨hesc, -⟩ | ⟨-, hmode, -⟩ := after_of_insert ho hm settings key
    · simp [ht key (by simp)] at hesc
    · have hrest := ih hnext hmode (fun k hk => ht k (by simp [hk])) hnext.traceable.orderly
      exact ⟨by simp [waiting_of_insert hmode], hrest⟩

/-- The rest of a command that is under way finishes it. -/
theorem Underway.finished {b : Buffer} {e₀ e : Editor} {settings : Settings} {keys : List Key}
    (he : Reachable b e) (h : Underway e₀ e) (hc : e.isCommand settings keys = true) :
    Finished e₀ (e.after settings keys) := by
  induction keys generalizing e with
  | nil => simp [isCommand] at hc
  | cons key keys ih =>
    have ho := he.traceable.orderly
    obtain ⟨hr, ⟨hmore, hrest⟩ | ⟨hend, rfl⟩⟩ := isCommand_cons.1 hc
    · rw [after_cons_of_not_recalls ho settings hr]
      exact ih (he.next settings [key]) (h.next ho he.clampCursor_eq hr hmore) hrest
    · exact h.last ho hr (Bool.or_eq_false_iff.1 hend).2

/-- **Every command finishes**: it leaves the text as it was, or a checkpoint of it. -/
theorem Reachable.finished {b : Buffer} {e : Editor} (he : Reachable b e) (hm : e.mode ≠ .insert)
    {settings : Settings} {keys : List Key} (hc : e.isCommand settings keys = true) :
    Finished e (e.after settings keys) :=
  (Underway.start hm).finished he hc

end Editor

end ModalEditor
