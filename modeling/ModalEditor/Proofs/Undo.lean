import ModalEditor.Proofs.Commands

/-!
# Undo and redo

What undo and redo bring back after any command of any run. Undo brings the text back and redo
returns from it (`undo_redo_command`). The checkpoint before an edit is dropped when it equals the
newest one, and then what redo could reach stays within reach, and undo brings back the cursor of
an older checkpoint with the same text; `redo_command_iff` and `cursor_undo_command_iff` say exactly
when. The text of the start is always within reach (`buffer_undo_all`).
-/

namespace ModalEditor

namespace Editor

/-! ### The keys -/

theorem press_undo {e : Editor} (hm : e.mode = .normal) (hw : e.waiting = false)
    (settings : Settings) : e.press settings (.char 'u') = .done e.undo := by
  have hop := operator_of_not_waiting hw
  have hk := continuation_of_not_waiting hw
  have ht : e.travels (.char 'u') = true := by simp [travels, hm, hop, hk]
  obtain ⟨-, h⟩ := (modeKey_of_travels settings hk ht).resolve_right (by simp)
  simp [press, Key.isEscape, hk, h]

theorem press_redo {e : Editor} (hm : e.mode = .normal) (hw : e.waiting = false)
    (settings : Settings) : e.press settings .ctrlR = .done e.redo := by
  have hk := continuation_of_not_waiting hw
  have ht : e.travels .ctrlR = true := by simp [travels, hm, hk]
  obtain ⟨-, h⟩ := (modeKey_of_travels settings hk ht).resolve_left (by simp)
  simp [press, Key.isEscape, hk, h]

/-- **Where a move along the line leads**: to normal mode with nothing half typed, and to the text
and the cursor of a checkpoint, or to where it started from. -/
structure Arrived (e : Editor) (h : History Snapshot) (c? : Option (Checkpoint Snapshot))
    (e' : Editor) : Prop where
  /-- The mode. -/
  mode : e'.mode = .normal
  /-- Nothing is half typed. -/
  waiting : e'.waiting = false
  /-- Nor is a count. -/
  repeatCount : e'.repeatCount = none
  /-- The line and its index. -/
  history : e'.history = h
  /-- The text. -/
  buffer : e'.buffer = (c?.map (·.buffer)).getD e.buffer
  /-- The cursor, put in order. -/
  cursor : e'.cursor =
    ({ e' with cursor := (c?.map (·.snapshot.cursor)).getD e.cursor } : Editor).clampCursor.cursor

theorem arrived_goTo {e : Editor} (hm : e.mode = .normal) (hw : e.waiting = false)
    (h : History Snapshot) (c? : Option (Checkpoint Snapshot)) :
    Arrived e h c? (e.dropCounts.goTo h c?).clampCursor := by
  cases c? <;> exact ⟨hm, hw, rfl, rfl, rfl, rfl⟩

theorem Arrived.of_capture {e e' : Editor} (key : Key) {h : History Snapshot}
    {c? : Option (Checkpoint Snapshot)} (ha : Arrived (e.capture key) h c? e') :
    Arrived e h c? e' := by
  obtain ⟨hm, hw, hn, hh, hb, hc⟩ := ha
  rw [buffer_capture] at hb
  rw [snapshot_capture] at hc
  exact ⟨hm, hw, hn, hh, hb, hc⟩

theorem count_of_operatorCount {e : Editor} (h : e.operatorCount = none) :
    e.count = e.repeatCount.getD 1 := by
  cases hn : e.repeatCount <;> simp [Pending.count, h, hn]

/-- Where no count stands after the operator, that before it counts. -/
theorem count_of_repeatCount {e : Editor} (h : e.repeatCount = none) :
    e.count = e.operatorCount.getD 1 := by
  cases hn : e.operatorCount <;> simp [Pending.count, h, hn]

/-- With no operator pending only one count can have been typed. -/
theorem count_eq {e : Editor} (ho : e.control.Orderly) (hw : e.waiting = false) :
    e.count = e.repeatCount.getD 1 :=
  count_of_operatorCount (ho.operatorCount_eq_none (operator_of_not_waiting hw))

theorem count_eq_one {e : Editor} (ho : e.control.Orderly) (hw : e.waiting = false)
    (hn : e.repeatCount = none) : e.count = 1 := by
  rw [count_eq ho hw, hn]
  rfl

theorem arrived_undo {e : Editor} (hm : e.mode = .normal) (hw : e.waiting = false)
    (settings : Settings) :
    Arrived e (e.history.undo ⟨e.buffer, e.snapshot⟩ e.count).1
      (e.history.undo ⟨e.buffer, e.snapshot⟩ e.count).2 (e.after settings [.char 'u']) := by
  have hpress := press_undo (e := e.capture (.char 'u')) (by simpa using hm) (by simpa using hw)
    settings
  rw [after_singleton_of_done hpress]
  unfold undo
  dsimp only
  refine Arrived.of_capture (.char 'u') ?_
  simpa using arrived_goTo (e := e.capture (.char 'u')) (by simpa using hm) (by simpa using hw) _ _

theorem arrived_redo {e : Editor} (hm : e.mode = .normal) (hw : e.waiting = false)
    (settings : Settings) :
    Arrived e (e.history.redo e.count).1 (e.history.redo e.count).2
      (e.after settings [.ctrlR]) := by
  have hpress := press_redo (e := e.capture .ctrlR) (by simpa using hm) (by simpa using hw) settings
  rw [after_singleton_of_done hpress]
  unfold redo
  dsimp only
  refine Arrived.of_capture .ctrlR ?_
  simpa using arrived_goTo (e := e.capture .ctrlR) (by simpa using hm) (by simpa using hw) _ _

/-! ### After a command -/

section AfterCommand

variable {b : Buffer} {e : Editor} {settings : Settings} {keys : List Key}

/-- Undo of an edit goes to the checkpoint that is current after it, which has the text from before
the edit. -/
theorem arrived_undo_edited {e₁ : Editor} (ha : e.history.Anchors e.buffer)
    (ho : e₁.control.Orderly) (hm : e₁.mode = .normal) (hw : e₁.waiting = false)
    (hn : e₁.repeatCount = none) {snapshot : Snapshot}
    (hh : e₁.history = e.history.checkpoint ⟨e.buffer, snapshot⟩) (hne : e₁.buffer ≠ e.buffer)
    (settings : Settings) :
    ∃ c, e₁.history.current? = some c ∧ c.buffer = e.buffer ∧
      Arrived e₁ ((e₁.history.push ⟨e₁.buffer, e₁.snapshot⟩).back 1) (some c)
        (e₁.after settings [.char 'u']) := by
  have hcur : e₁.history.currentBuffer? = some e.buffer :=
    hh ▸ History.currentBuffer?_checkpoint ha snapshot
  obtain ⟨c, hc, hcb⟩ := Option.map_eq_some_iff.1 hcur
  have hnew : e₁.history.newestBuffer? = some c.buffer := by
    rw [hh, History.newestBuffer?_checkpoint, hcb]
  have hedit : (⟨e₁.buffer, e₁.snapshot⟩ : Checkpoint Snapshot).buffer ≠ c.buffer :=
    fun h => hne (h.trans hcb)
  have hundo := History.undo_one_of_ne hc hnew hedit
  have hcall := arrived_undo hm hw settings
  rw [count_eq_one ho hw hn, hundo] at hcall
  exact ⟨c, hc, hcb, hcall⟩

/-- **Undo gives back the text, and redo returns.** Wherever a run has led to, outside insert mode,
any command that changes the text is undone by one undo, and redo then brings back the text and the
cursor from just before the undo. -/
theorem undo_redo_command (he : Reachable b e) (hm : e.mode ≠ .insert)
    (hc : e.isCommand settings keys = true) (hne : (e.after settings keys).buffer ≠ e.buffer)
    (settings₁ settings₂ : Settings) :
    let e₁ := e.after settings keys
    let e₂ := e₁.after settings₁ [.char 'u']
    let e₃ := e₂.after settings₂ [.ctrlR]
    e₂.buffer = e.buffer ∧ e₃.buffer = e₁.buffer ∧ e₃.cursor = e₁.cursor := by
  intro e₁ e₂ e₃
  have he₁ : Reachable b e₁ := he.next settings keys
  have he₂ : Reachable b e₂ := he₁.next settings₁ [.char 'u']
  cases he.finished hm hc with
  | unchanged buffer => exact absurd buffer hne
  | edited snapshot cursor history mode waiting repeatCount =>
    obtain ⟨c, hcur, hcb, hundo⟩ := arrived_undo_edited he.traceable.anchored
      he₁.traceable.orderly mode waiting repeatCount history hne settings₁
    have hredo : Arrived e₂ (e₁.history.push ⟨e₁.buffer, e₁.snapshot⟩)
        (some ⟨e₁.buffer, e₁.snapshot⟩) e₃ := by
      have hcall := arrived_redo hundo.mode hundo.waiting settings₂
      rw [count_eq_one he₂.traceable.orderly hundo.waiting hundo.repeatCount, hundo.history,
        History.redo_one_back_push hcur] at hcall
      exact hcall
    refine ⟨hundo.buffer.trans hcb, hredo.buffer, hredo.cursor.trans ?_⟩
    exact cursor_clampCursor_of_eq he₁.clampCursor_eq rfl hredo.buffer (by simp [e₁, mode])
      (by simp [hredo.mode])

/-- Two characters are taken into a register after an edit has been undone. -/
theorem undo_redo_delete_into_register :
    ∃ e : Editor, Reachable ⟨['a', 'b', 'c']⟩ e ∧ e.mode ≠ .insert ∧
      e.isCommand {} [.char '"', .char 'a', .char '2', .char 'x'] = true ∧
      let e₁ := e.after {} [.char '"', .char 'a', .char '2', .char 'x']
      let e₂ := e₁.after {} [.char 'u']
      let e₃ := e₂.after {} [.ctrlR]
      e₁.buffer ≠ e.buffer ∧ e₂.buffer = e.buffer ∧ e₃.buffer = e₁.buffer ∧
        e₃.cursor = e₁.cursor := by
  have he : Reachable ⟨['a', 'b', 'c']⟩ _ := .first {} [.char 'x', .char 'u']
  refine ⟨_, he, by decide +kernel, by decide +kernel, by decide +kernel, ?_⟩
  exact undo_redo_command he (by decide +kernel) (by decide +kernel) (by decide +kernel) {} {}

/-- **When redo leaves an edit alone**: just when the checkpoint that the command takes, of the text
from before it, is not skipped. -/
theorem redo_command_iff (he : Reachable b e) (hm : e.mode ≠ .insert)
    (hc : e.isCommand settings keys = true) (hne : (e.after settings keys).buffer ≠ e.buffer)
    (settings₁ : Settings) :
    let e₁ := e.after settings keys
    let e₂ := e₁.after settings₁ [.ctrlR]
    ∃ snapshot : Snapshot, (e.mode.isVisual = false → snapshot.cursor = e.cursor) ∧
      e₁.history = e.history.checkpoint ⟨e.buffer, snapshot⟩ ∧
      (e₂.buffer = e₁.buffer ∧ e₂.history.index? = e₁.history.index? ↔
        ¬ e.history.Skips ⟨e.buffer, snapshot⟩) := by
  intro e₁ e₂
  have he₁ : Reachable b e₁ := he.next settings keys
  cases he.finished hm hc with
  | unchanged buffer => exact absurd buffer hne
  | edited snapshot cursor history mode waiting repeatCount =>
    refine ⟨snapshot, cursor, history, ?_⟩
    have hredo := arrived_redo mode waiting settings₁
    rw [count_eq_one he₁.traceable.orderly waiting repeatCount] at hredo
    rw [← History.canRedo_checkpoint_iff, ← history]
    constructor
    · rintro ⟨-, hindex⟩ hcan
      rw [hredo.history] at hindex
      exact History.index?_redo_ne hcan hindex
    · intro hcan
      rw [History.redo_of_canRedo_eq_false (by simpa using hcan)] at hredo
      exact ⟨hredo.buffer, congrArg History.index? hredo.history⟩

/-- An insert session cuts off what an undo has left. -/
theorem redo_insert :
    ∃ e : Editor, Reachable ⟨['a', 'b']⟩ e ∧ e.mode ≠ .insert ∧ e.history.canRedo = true ∧
      e.isCommand {} [.char 'i', .char 'x', .char 'y', .escape] = true ∧
      let e₁ := e.after {} [.char 'i', .char 'x', .char 'y', .escape]
      let e₂ := e₁.after {} [.ctrlR]
      e₁.buffer ≠ e.buffer ∧ e₂.buffer = e₁.buffer ∧ e₂.history.index? = e₁.history.index? := by
  obtain ⟨e, he, hm, hredo, hc, hne, hnew⟩ : ∃ e : Editor, Reachable ⟨['a', 'b']⟩ e ∧
      e.mode ≠ .insert ∧ e.history.canRedo = true ∧
      e.isCommand {} [.char 'i', .char 'x', .char 'y', .escape] = true ∧
      (e.after {} [.char 'i', .char 'x', .char 'y', .escape]).buffer ≠ e.buffer ∧
      e.history.newestBuffer? ≠ some e.buffer :=
    ⟨_, .first {} [.char 'x', .char 'u'], by decide +kernel⟩
  obtain ⟨snapshot, -, -, hiff⟩ := redo_command_iff he hm hc hne {}
  exact ⟨e, he, hm, hredo, hc, hne, hiff.2 (History.not_skips_of_ne hnew)⟩

/-- After a yank at the end of the row and an undo, a deletion there takes no checkpoint. Redo then
overwrites it. -/
theorem redo_overwrites_deletion :
    ∃ e : Editor, Reachable ⟨['a', 'b']⟩ e ∧ e.mode = .normal ∧ e.waiting = false ∧
      e.isCommand {} [.char 'x'] = true ∧
      let e₁ := e.after {} [.char 'x']
      let e₂ := e₁.after {} [.ctrlR]
      e₁.buffer ≠ e.buffer ∧ e₂.buffer ≠ e₁.buffer ∧ e₂.history.index? ≠ e₁.history.index? := by
  have he : Reachable ⟨['a', 'b']⟩ _ :=
    .first {} [.char 'l', .char 'y', .char 'l', .char 'u', .char 'l']
  exact ⟨_, he, by decide +kernel⟩

/-- **When undo gives back the cursor**: unless the checkpoint that the command takes is skipped and
the current one, with the same text, has another cursor. -/
theorem cursor_undo_command_iff (he : Reachable b e) (hm : e.mode = .normal)
    (hc : e.isCommand settings keys = true) (hne : (e.after settings keys).buffer ≠ e.buffer)
    (settings₁ : Settings) :
    let e₁ := e.after settings keys
    let e₂ := e₁.after settings₁ [.char 'u']
    ∃ snapshot : Snapshot, snapshot.cursor = e.cursor ∧
      e₁.history = e.history.checkpoint ⟨e.buffer, snapshot⟩ ∧
      (e₂.cursor = e.cursor ↔ (e.history.Skips ⟨e.buffer, snapshot⟩ →
        ∃ c, e.history.current? = some c ∧
          ({ e with cursor := c.snapshot.cursor } : Editor).clampCursor.cursor = e.cursor)) := by
  intro e₁ e₂
  have he₁ : Reachable b e₁ := he.next settings keys
  cases he.finished (by simp [hm]) hc with
  | unchanged buffer => exact absurd buffer hne
  | edited snapshot cursor history mode waiting repeatCount =>
    have hcursor : snapshot.cursor = e.cursor := cursor (by simp [hm, Mode.isVisual])
    refine ⟨snapshot, hcursor, history, ?_⟩
    obtain ⟨c, hcur, hcb, hundo⟩ := arrived_undo_edited he.traceable.anchored
      he₁.traceable.orderly mode waiting repeatCount history hne settings₁
    have hback : e₂.cursor =
        ({ e with cursor := c.snapshot.cursor } : Editor).clampCursor.cursor :=
      hundo.cursor.trans (cursor_clampCursor_congr rfl (hundo.buffer.trans hcb)
        (by simp [hundo.mode, hm]))
    rw [hback]
    by_cases hskip : e.history.Skips ⟨e.buffer, snapshot⟩
    · rw [history, hskip.checkpoint_eq] at hcur
      simp [hskip, hcur]
    · rw [history, History.current?_checkpoint_of_not_skips hskip] at hcur
      obtain rfl := Option.some.inj hcur
      have hclamp : ({ e with cursor := e.cursor } : Editor).clampCursor.cursor = e.cursor :=
        congrArg (·.cursor) he.clampCursor_eq
      simpa [hskip, hcursor] using hclamp

/-- A deletion back to the start of the row is undone where an earlier one was. -/
theorem cursor_undo_delete_back :
    ∃ e : Editor, Reachable ⟨['a', 'b']⟩ e ∧ e.mode = .normal ∧ e.history.canRedo = true ∧
      e.isCommand {} [.char 'd', .char '0'] = true ∧
      let e₁ := e.after {} [.char 'd', .char '0']
      let e₂ := e₁.after {} [.char 'u']
      e₁.buffer ≠ e.buffer ∧ e₂.cursor = e.cursor := by
  obtain ⟨e, he, hm, hredo, hc, hne, hnew⟩ : ∃ e : Editor, Reachable ⟨['a', 'b']⟩ e ∧
      e.mode = .normal ∧ e.history.canRedo = true ∧
      e.isCommand {} [.char 'd', .char '0'] = true ∧
      (e.after {} [.char 'd', .char '0']).buffer ≠ e.buffer ∧
      e.history.newestBuffer? ≠ some e.buffer :=
    ⟨_, .first {} [.char 'x', .char 'u', .char 'l'], by decide +kernel⟩
  obtain ⟨snapshot, -, -, hiff⟩ := cursor_undo_command_iff he hm hc hne {}
  have hback := hiff.2 fun hskip => absurd hskip (History.not_skips_of_ne hnew)
  exact ⟨e, he, hm, hredo, hc, hne, hback⟩

/-- Undo of the deletion that took no checkpoint goes to the cursor of the first one. -/
theorem undo_misplaces_cursor :
    ∃ e : Editor, Reachable ⟨['a', 'b']⟩ e ∧ e.mode = .normal ∧ e.waiting = false ∧
      e.repeatCount = none ∧ e.isCommand {} [.char 'x'] = true ∧
      let e₁ := e.after {} [.char 'x']
      let e₂ := e₁.after {} [.char 'u']
      e₁.buffer ≠ e.buffer ∧ e₂.cursor ≠ e.cursor := by
  have he : Reachable ⟨['a', 'b']⟩ _ :=
    .first {} [.char 'l', .char 'y', .char 'l', .char 'u', .char 'l']
  exact ⟨_, he, by decide +kernel⟩

end AfterCommand

/-! ### Back to the start -/

/-- The count that digits make is the number they write, at most the largest count. -/
theorem foldl_pushDigit (digits : Text) (n : Nat) :
    digits.foldl (fun n c => pushDigit n (c.toNat - '0'.toNat)) (min n maxCount) =
      min (digits.foldl (fun n c => 10 * n + (c.toNat - '0'.toNat)) n) maxCount := by
  induction digits generalizing n with
  | nil => rfl
  | cons c digits ih =>
    have hpush : pushDigit (min n maxCount) (c.toNat - '0'.toNat) =
        min (10 * n + (c.toNat - '0'.toNat)) maxCount := by
      rw [pushDigit_eq]
      omega
    simp only [List.foldl_cons, hpush, ih]

/-- Every digit adds to the count, but for a zero that would begin one. -/
theorem countDigit?_of_isDigit {e : Editor} {c : Char} (hc : c.isDigit = true)
    (hz : e.repeatCount.isSome = true ∨ c ≠ '0') :
    e.countDigit? (.char c) = some (c.toNat - '0'.toNat) := by
  by_cases hzero : c = '0'
  · have hsome := hz.resolve_right (by simp [hzero])
    simp [countDigit?, hzero, hsome]
  · simp [countDigit?, hzero, hc]

theorem buffer_undo_digits {b : Buffer} (settings : Settings) (digits : Text) :
    ∀ {e : Editor}, Reachable b e → e.mode = .normal → e.waiting = false →
      digits.all Char.isDigit = true → e.repeatCount.isSome = true ∨ digits.head? ≠ some '0' →
      e.history.size ≤
        digits.foldl (fun n c => pushDigit n (c.toNat - '0'.toNat)) (e.repeatCount.getD 0) →
      (e.after settings (digits.map Key.char ++ [.char 'u'])).buffer = b := by
  induction digits with
  | nil =>
    intro e he hm hw _ _ hsize
    obtain ⟨o, ho, rfl⟩ := he.traceable.exists_oldest
    have hundo := arrived_undo hm hw settings
    have hcount : e.history.size ≤ e.count := by
      rw [count_eq he.traceable.orderly hw]
      cases hn : e.repeatCount with
      | none =>
        simp only [hn, List.foldl_nil, Option.getD_none] at hsize
        omega
      | some n => simpa [hn] using hsize
    exact hundo.buffer.trans
      (History.buffer_undo_of_size_le he.traceable.anchored ho e.snapshot hcount)
  | cons c digits ih =>
    intro e he hm hw hd hz hsize
    have hk := continuation_of_not_waiting hw
    have hdigits : c.isDigit = true ∧ digits.all Char.isDigit = true := by simpa using hd
    have hdigit : (e.capture (.char c)).countDigit? (.char c) = some (c.toNat - '0'.toNat) := by
      rw [countDigit?_capture]
      exact countDigit?_of_isDigit hdigits.1 (hz.imp id (by simp))
    have hpress := press_digit (e := e.capture (.char c)) (.inl (by simpa using hm))
      (by simpa using hk) settings hdigit
    have hcall := after_singleton_of_done hpress
    have hrest := ih (e := e.after settings [.char c]) (he.next settings _)
    rw [List.map_cons, List.cons_append, after_cons_of_done hpress]
    rw [hcall] at hrest ⊢
    exact hrest (by simpa using hm) (by simpa using hw) hdigits.2 (.inl rfl) (by simpa using hsize)

/-- **The text of the start is never lost.** Wherever a run has led to, in normal mode with nothing
half typed, undo with a count that is at least the length of the history brings it back. -/
theorem buffer_undo_all {b : Buffer} {e : Editor} (he : Reachable b e) (hm : e.mode = .normal)
    (hw : e.waiting = false) (hn : e.repeatCount = none) (digits : Text)
    (hd : digits.all Char.isDigit = true) (hz : digits.head? ≠ some '0')
    (hsize : e.history.size ≤ min (ofDigits digits) maxCount) (settings : Settings) :
    (e.after settings (digits.map Key.char ++ [.char 'u'])).buffer = b := by
  refine buffer_undo_digits settings digits he hm hw hd (.inr hz) ?_
  have hcount := foldl_pushDigit digits 0
  rw [Nat.zero_min] at hcount
  rw [hn, Option.getD_none, hcount]
  exact hsize

/-- Two edits are undone, one is redone, and an insertion replaces the other. -/
theorem buffer_undo_after_redo :
    ∃ e : Editor, Reachable ⟨['a', 'b', 'c']⟩ e ∧ e.mode = .normal ∧ e.waiting = false ∧
      e.repeatCount = none ∧ e.history.size ≤ 3 ∧
      (e.after {} [.char '3', .char 'u']).buffer = ⟨['a', 'b', 'c']⟩ := by
  have he : Reachable ⟨['a', 'b', 'c']⟩ _ :=
    .first {} [.char 'x', .char 'x', .char 'u', .char 'u', .ctrlR, .char 'i', .char 'z', .escape]
  refine ⟨_, he, by decide +kernel, by decide +kernel, by decide +kernel, by decide +kernel, ?_⟩
  exact buffer_undo_all he (by decide +kernel) (by decide +kernel) (by decide +kernel) ['3']
    (by decide) (by decide) (by decide +kernel) {}

end Editor

end ModalEditor
