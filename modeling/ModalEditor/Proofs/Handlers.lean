import ModalEditor.Proofs.Effect

/-!
# Commands other than motions

That each of them is taken well: lines of input, insert mode, counts, operators, selections, and the
commands that edit in normal mode or start an insert session.
-/

namespace ModalEditor

namespace Editor

/-! ### Lines of input -/

theorem taken_escape (e : Editor) : Taken e e.escape :=
  ⟨Control.Orderly.rest, .still rfl rfl (by simp [escape]) (.inl rfl)⟩

theorem control_eraseBack (e : Editor) : e.eraseBack.control = e.control := by
  unfold eraseBack unrecordTyped
  dsimp only
  split
  · rfl
  · split <;> rfl

theorem history_eraseBack (e : Editor) : e.eraseBack.history = e.history := by
  unfold eraseBack unrecordTyped
  dsimp only
  split
  · rfl
  · split <;> rfl

/-- A key in insert mode changes the text and what was typed, and nothing else. -/
theorem control_insertKey (e : Editor) (key : Key) : (e.insertKey key).control = e.control := by
  cases key with
  | backspace => exact control_eraseBack e
  | _ => rfl

theorem history_insertKey (e : Editor) (key : Key) : (e.insertKey key).history = e.history := by
  cases key with
  | backspace => exact history_eraseBack e
  | _ => rfl

theorem taken_insertKey {e : Editor} (ho : e.control.Orderly) (hm : e.mode = .insert) (key : Key) :
    Taken e (e.insertKey key) := by
  have hcontrol := control_insertKey e key
  have hmode : (e.insertKey key).mode = e.mode := congrArg Control.mode hcontrol
  exact ⟨hcontrol ▸ ho, .typed hm (hmode.trans hm) (history_insertKey e key)⟩

theorem taken_commandQuery {e : Editor} (ho : e.control.Orderly) (hm : e.mode = .commandLine)
    {l : LineInput} (hl : l.cursor = l.text.length) : Taken e { e with commandQuery := l } := by
  refine taken_still ?_ rfl rfl rfl rfl
  exact { ho with
    commandQuery := fun h => absurd hm h
    commandQuery_atEnd := hl }

theorem taken_commitLine {e : Editor} (ho : e.control.Orderly) (hm : e.mode = .commandLine)
    (command : Option Text) :
    Taken e { e with mode := .normal, lastCommand := command, commandQuery := {} } := by
  have hop : e.operator = none :=
    ho.operator_eq_none (by simp [control, hm]) (by simp [control, hm])
  have hk : e.continuation = none :=
    ho.continuation_eq_none (by simp [control, hm]) (by simp [control, hm, Mode.isVisual])
  refine ⟨?_, .still rfl rfl (by simp) (.inr ⟨rfl, by simp [Mode.isVisual]⟩)⟩
  exact { ho with
    modifier := fun h => absurd (ho.modifier h).1 (by simp [control, hop])
    operator := fun _ => .inl rfl
    continuation := by simp [control, hk]
    insertAppend := by
      have happ := ho.insertAppend
      simpa [control, hm] using happ
    typing := by simp [control]
    anchored := by simp [control, Mode.isVisual]
    searchQuery := fun _ => ho.searchQuery (by simp [control, hm])
    commandQuery := fun _ => rfl
    commandQuery_atEnd := rfl }

theorem taken_commandLineKey {e : Editor} (ho : e.control.Orderly) (hm : e.mode = .commandLine)
    (key : Key) : Taken e (e.commandLineKey key) := by
  cases key with
  | char c => exact taken_commandQuery ho hm (LineInput.atEnd_insert ho.commandQuery_atEnd c)
  | backspace => exact taken_commandQuery ho hm (LineInput.atEnd_backspace ho.commandQuery_atEnd)
  | enter => exact taken_commitLine ho hm _
  | escape => exact taken_still ho rfl rfl rfl rfl
  | ctrlC => exact taken_still ho rfl rfl rfl rfl
  | ctrlR => exact taken_still ho rfl rfl rfl rfl
  | ctrlV => exact taken_still ho rfl rfl rfl rfl

theorem taken_query {e : Editor} (ho : e.control.Orderly) (hm : e.mode = .search) {l : LineInput}
    (hl : l.cursor = l.text.length) : Taken e { e with searchQuery := l } := by
  refine taken_still ?_ rfl rfl rfl rfl
  exact { ho with
    searchQuery := fun h => absurd hm h
    searchQuery_atEnd := hl }

/-- A query that is committed is taken as a motion in normal mode is. -/
theorem taken_commitSearch {e : Editor} (ho : e.control.Orderly) (hm : e.mode = .search)
    (settings : Settings) : Taken e (e.commitSearch settings) := by
  have hk : e.continuation = none :=
    ho.continuation_eq_none (by simp [control, hm]) (by simp [control, hm, Mode.isVisual])
  have ho₁ : ({ e with mode := .normal, searchQuery := {} } : Editor).control.Orderly :=
    { ho with
      modifier := fun h => absurd (ho.modifier h).2 (by simp [control, hm])
      operator := fun _ => .inl rfl
      continuation := by simp [control, hk]
      insertAppend := by
        have happ := ho.insertAppend
        simpa [control, hm] using happ
      typing := by simp [control]
      anchored := by simp [control, Mode.isVisual]
      searchQuery := fun _ => rfl
      commandQuery := fun _ => ho.commandQuery (by simp [control, hm])
      searchQuery_atEnd := rfl }
  have h := (settles_commitSearch e settings).settled.taken ho₁ hk (.inl rfl)
  refine ⟨h.orderly, ?_⟩
  cases h.effect with
  | still buffer history mode cursor =>
    refine .still buffer history (fun hi => absurd (mode hi) (by simp)) ?_
    exact cursor.imp id (fun hc => ⟨hc.1, fun hv => absurd (hc.2 hv) (by simp [Mode.isVisual])⟩)
  | typed mode => exact absurd mode (by simp)
  | copied snapshot mode buffer history waiting =>
    exact .copied snapshot (by simp [hm]) buffer history waiting
  | edited snapshot mode cursor history ended =>
    exact .edited snapshot (by simp [hm]) (fun _ => cursor rfl) history ended

theorem taken_searchKey {e : Editor} (ho : e.control.Orderly) (hm : e.mode = .search)
    (settings : Settings) (key : Key) : Taken e (e.searchKey settings key) := by
  cases key with
  | char c => exact taken_query ho hm (LineInput.atEnd_insert ho.searchQuery_atEnd c)
  | backspace => exact taken_query ho hm (LineInput.atEnd_backspace ho.searchQuery_atEnd)
  | enter => exact taken_commitSearch ho hm settings
  | escape => exact taken_still ho rfl rfl rfl rfl
  | ctrlC => exact taken_still ho rfl rfl rfl rfl
  | ctrlR => exact taken_still ho rfl rfl rfl rfl
  | ctrlV => exact taken_still ho rfl rfl rfl rfl

/-! ### Counts, registers and operators -/

/-- A digit never leaves a count at zero. -/
theorem pushDigit_ne_zero {e : Editor} (ho : e.control.Orderly) {key : Key} {d : Nat}
    (hd : e.countDigit? key = some d) : pushDigit (e.repeatCount.getD 0) d ≠ 0 := by
  have hcount := ho.repeatCount_ne_zero
  rw [pushDigit_eq]
  unfold countDigit? at hd
  split at hd
  · rename_i c
    split at hd
    · split at hd
      · rename_i hsome
        obtain ⟨n, hn⟩ := Option.isSome_iff_exists.1 hsome
        have hne : n ≠ 0 := by
          rintro rfl
          exact hcount hn
        simp only [hn, Option.getD_some, maxCount]
        omega
      · simp at hd
    · rename_i hzero
      split at hd
      · rename_i hdigit
        obtain rfl := Option.some.inj hd
        have hge : '0'.toNat ≤ c.toNat := by
          simp only [Char.isDigit, Bool.and_eq_true, decide_eq_true_eq] at hdigit
          exact UInt32.le_iff_toNat_le.1 hdigit.1
        have hne : '0'.toNat ≠ c.toNat := fun h => hzero (Char.toNat_inj.1 h).symm
        simp only [maxCount]
        omega
      · simp at hd
  · simp at hd

theorem taken_typeDigit {e : Editor} (ho : e.control.Orderly) (hm : e.Commanding) {key : Key}
    {d : Nat} (hd : e.countDigit? key = some d) : Taken e (e.typeDigit d) := by
  refine taken_still ?_ rfl rfl rfl rfl
  exact { ho with
    repeatCount_ne_zero := by simpa [control, typeDigit] using pushDigit_ne_zero ho hd
    typing := by
      rintro (h | h)
      · exact absurd h hm.ne_insert
      · exact absurd h hm.ne_commandLine }

theorem taken_awaitKey {e : Editor} (ho : e.control.Orderly) {k : Continuation}
    (h : e.mode = .normal ∧ (k.opensMotion = true ∨ e.operator = none) ∨
      e.mode.isVisual = true ∧ (k.opensMotion = true ∨ k = .setRegister)) :
    Taken e (e.awaitKey k) := by
  refine taken_still ?_ rfl rfl rfl rfl
  refine { ho with continuation := ?_ }
  rintro k' hk'
  obtain rfl : k = k' := by simpa [control, awaitKey] using hk'
  exact h

theorem taken_clearPending {e : Editor} (ho : e.control.Orderly) : Taken e e.clearPending :=
  taken_still ho.clearPending rfl rfl rfl rfl

/-- An operator waits for its motion; doubled, it is applied to rows. -/
theorem taken_operatorKey {e : Editor} (ho : e.control.Orderly) (hk : e.continuation = none)
    (hm : e.mode = .normal) (op : Operator) : Taken e (e.operatorKey op) := by
  unfold operatorKey
  split
  · rename_i hop
    refine (operated_applyRows e.dropCounts _ _).taken ho.dropCounts hk rfl rfl (.inl hm)
      (fun _ => hm) rfl rfl (by simp [hm]) (fun _ => rfl)
  · refine taken_still ?_ rfl rfl rfl rfl
    exact { ho with
      modifier := by simp [control]
      operatorCount := by simp [control]
      operator := fun _ => .inl hm
      continuation := by simp [control, hk]
      repeatCount_ne_zero := by simp [control]
      operatorCount_ne_zero := ho.repeatCount_ne_zero
      typing := by simp [control] }

/-! ### Selections -/

theorem taken_toggleVisual {e : Editor} (ho : e.control.Orderly) (hk : e.continuation = none)
    (hm : e.Commanding) (kind : VisualKind) : Taken e (e.toggleVisual kind) := by
  unfold toggleVisual
  dsimp only
  split
  · refine ⟨?_, .still rfl rfl (by simp [clearPending]) (.inl ?_)⟩
    · exact ho.toggled hk hm.ne_insert hm.ne_search hm.ne_commandLine (.inl rfl)
    · exact Control.waiting_clearPending (c := { e.control with mode := .normal }) hk (.inl rfl)
  · refine ⟨?_, .still rfl rfl (by simp [clearPending]) (.inl ?_)⟩
    · refine ho.toggled hk hm.ne_insert hm.ne_search hm.ne_commandLine (.inr ⟨rfl, ?_⟩)
      by_cases hv : e.mode.isVisual = true
      · simpa [control, clearPending, hv] using ho.anchored hv
      · simp [clearPending, hv]
    · exact Control.waiting_clearPending (c := { e.control with mode := .visual kind }) hk
        (.inr rfl)

/-- An operator on a selection leaves for normal mode, or for insert mode. -/
theorem taken_operateOnSelection {e : Editor} (ho : e.control.Orderly)
    (hk : e.continuation = none) (hv : e.mode.isVisual = true) (kind : VisualKind) (op : Operator) :
    Taken e (e.operateOnSelection kind op) := by
  have hm : e.Commanding := .inr hv
  have hop : e.operator = none :=
    ho.operator_eq_none (fun h => by simp [show e.mode = .normal from h, Mode.isVisual] at hv)
      hm.ne_search
  have hcount : e.operatorCount = none := ho.operatorCount_eq_none hop
  have ho₁ (cursor : Position) :
      ({ e with
        mode := .normal
        visualAnchor := none
        repeatCount := none
        operator := some op
        cursor := cursor } : Editor).control.Orderly :=
    { ho with
      modifier := fun h => absurd (ho.modifier h).1 (by simp [control, hop])
      operatorCount := by simp [control]
      operator := fun _ => .inl rfl
      continuation := by simp [control, hk]
      repeatCount_ne_zero := by simp [control]
      insertAppend := by
        have happ := ho.insertAppend
        simpa [control, hm.ne_insert] using happ
      typing := by simp [control]
      anchored := by simp [control, Mode.isVisual]
      searchQuery := fun _ => ho.searchQuery hm.ne_search
      commandQuery := fun _ => ho.commandQuery hm.ne_commandLine }
  unfold operateOnSelection
  cases kind with
  | char =>
    exact (operated_applyRange _ _ _).taken (ho₁ _) hk hcount rfl (.inl rfl) (fun _ => rfl) rfl rfl
      hm.ne_insert (by simp [hv])
  | line =>
    exact (operated_applyRows _ _ _).taken (ho₁ e.cursor) hk hcount rfl (.inl rfl) (fun _ => rfl)
      rfl rfl hm.ne_insert (by simp [hv])
  | block =>
    exact (operated_applyBlock _ _ _ _ _).taken (ho₁ e.cursor) hk hcount rfl (.inl rfl)
      (fun _ => rfl) rfl rfl hm.ne_insert (by simp [hv])

/-! ### Editing commands -/

section Editing

variable {e : Editor} (ho : e.control.Orderly) (hk : e.continuation = none)
  (hop : e.operator = none) (hm : e.mode = .normal)

include hk hop hm

theorem waiting_of_dropCounts {e' : Editor} (hc : e'.control = e.control.dropCounts) :
    e'.waiting = false := by
  unfold waiting
  rw [hc]
  simp [Control.waiting, Control.dropCounts, control, hk, hop, hm, Mode.isLineInput]

include ho

theorem orderly_enterInsert :
    ({ e.control with repeatCount := none } : Control).enterInsert.Orderly := by
  have hnone : Control.Orderly { e.control with repeatCount := none } :=
    { ho with
      repeatCount_ne_zero := by simp
      typing := fun _ => rfl }
  exact hnone.enterInsert hk hop rfl (by simp [control, hm]) (by simp [control, hm])

/-- A key that starts an insert session is taken well. -/
theorem taken_insert {e' : Editor}
    (hc : e'.control = ({ e.control with repeatCount := none } : Control).enterInsert)
    (hh : e'.history = e.history.checkpoint ⟨e.buffer, e.snapshot⟩) : Taken e e' := by
  refine ⟨hc ▸ orderly_enterInsert ho hk hop hm, ?_⟩
  exact .edited e.snapshot (by simp [hm]) (fun _ => rfl) hh (.inl (congrArg Control.mode hc))

theorem taken_openRow (below : Bool) : Taken e (e.openRow below) := by
  cases below with
  | true => exact taken_insert ho hk hop hm rfl rfl
  | false => exact taken_insert ho hk hop hm rfl rfl

/-- So is one that also moves the cursor within its row. -/
theorem taken_startInsert_reach (target : Editor → Target) :
    Taken e (e.startInsert.reach (target e.startInsert)) := by
  have ho₁ : e.startInsert.control.Orderly := orderly_enterInsert ho hk hop hm
  have hmoved := operated_reach ho₁ (target e.startInsert)
  rw [show e.startInsert.operator = none from hop] at hmoved
  cases hmoved with
  | moved control buffer history =>
    refine taken_insert ho hk hop hm ?_ history
    rw [control]
    have hmod : e.modifier = none := ho.modifier_eq_none hop
    have hcount : e.operatorCount = none := ho.operatorCount_eq_none hop
    simp [Editor.control, Control.operated, Control.enterInsert, dropCounts, startInsert,
      enterInsert, takeCheckpoint, State.checkpoint, hop, hmod, hcount]

/-- A command that edits in normal mode is taken well. -/
theorem taken_edit {e' : Editor} (hc : e'.control = e.control.dropCounts)
    (hh : e'.history = e.history.checkpoint ⟨e.buffer, e.snapshot⟩) : Taken e e' := by
  refine ⟨hc ▸ ho.dropCounts, ?_⟩
  refine .edited e.snapshot (by simp [hm]) (fun _ => rfl) hh (.inr ⟨?_, ?_, ?_⟩)
  · exact (congrArg Control.mode hc).trans hm
  · exact waiting_of_dropCounts hk hop hm hc
  · exact congrArg (·.repeatCount) hc

/-- So is one that has nothing to edit. -/
theorem taken_idle {e' : Editor} (hc : e'.control = e.control.dropCounts)
    (hb : e'.buffer = e.buffer) (hh : e'.history = e.history) : Taken e e' := by
  refine ⟨hc ▸ ho.dropCounts, .still hb hh ?_ (.inl (waiting_of_dropCounts hk hop hm hc))⟩
  rintro hi
  exact (congrArg Control.mode hc).symm.trans hi

theorem taken_deleteUnder : Taken e e.deleteUnder := by
  unfold deleteUnder removeChars
  dsimp only
  split
  · exact taken_idle ho hk hop hm rfl rfl rfl
  · exact taken_edit ho hk hop hm rfl rfl

theorem taken_deleteBefore : Taken e e.deleteBefore := by
  unfold deleteBefore removeChars
  dsimp only
  split
  · exact taken_idle ho hk hop hm rfl rfl rfl
  · exact taken_edit ho hk hop hm rfl rfl

theorem taken_replaceChars (c : Char) : Taken e (e.replaceChars c) := by
  unfold replaceChars
  dsimp only
  split
  · exact taken_idle ho hk hop hm rfl rfl rfl
  · exact taken_edit ho hk hop hm rfl rfl

theorem taken_put (after : Bool) : Taken e (e.put after) := by
  unfold put
  dsimp only
  split
  · exact taken_idle ho hk hop hm rfl rfl rfl
  · split
    · unfold putRows
      dsimp only
      split
      · exact taken_edit ho hk hop hm rfl rfl
      · split
        · exact taken_edit ho hk hop hm rfl rfl
        · exact taken_edit ho hk hop hm rfl rfl
    · exact taken_edit ho hk hop hm rfl rfl

omit hk hm in
/-- With no operator pending there is only one count to drop. -/
theorem control_dropRepeat :
    ({ e.control with repeatCount := none } : Control) = e.control.dropCounts := by
  have hcount : e.operatorCount = none := ho.operatorCount_eq_none hop
  simp [control, Control.dropCounts, hcount]

omit hk hm in
theorem orderly_dropRepeat : ({ e with repeatCount := none } : Editor).control.Orderly := by
  have hcontrol : ({ e with repeatCount := none } : Editor).control = e.control.dropCounts :=
    control_dropRepeat ho hop
  rw [hcontrol]
  exact ho.dropCounts

theorem taken_toggleRecording : Taken e e.toggleRecording := by
  unfold toggleRecording
  dsimp only
  split
  · exact taken_idle ho hk hop hm (control_dropRepeat ho hop) rfl rfl
  · have ho₁ := orderly_dropRepeat ho hop
    exact (taken_awaitKey ho₁ (.inl ⟨hm, .inr hop⟩)).congr e rfl rfl rfl rfl

theorem taken_commandLine :
    Taken e { e with mode := .commandLine, commandQuery := {}, repeatCount := none } := by
  refine ⟨?_, .still rfl rfl (by simp) (.inr ⟨rfl, by simp [Mode.isVisual]⟩)⟩
  exact { orderly_dropRepeat ho hop with
    modifier := fun h => absurd (ho.modifier h).1 (by simp [control, hop])
    operator := by simp [control, hop]
    continuation := by simp [control, hk]
    insertAppend := by
      have happ := ho.insertAppend
      simpa [control, hm] using happ
    typing := fun _ => rfl
    anchored := by simp [control, Mode.isVisual]
    searchQuery := fun _ => ho.searchQuery (by simp [control, hm])
    commandQuery := by simp [control]
    commandQuery_atEnd := rfl }

/-- **A command key other than undo is taken well.** -/
theorem taken_commandKey {c : Char} (hu : c ≠ 'u') : Taken e (e.commandKey c) := by
  have hcm : e.Commanding := .inl hm
  have change (op : Operator) :
      Taken e (({ e with operator := some op } : Editor).reach
        ({ e with operator := some op } : Editor).rowEndTarget) := by
    have ho₁ : ({ e with operator := some op } : Editor).control.Orderly :=
      { ho with
        modifier := fun h => absurd (ho.modifier h).1 (by simp [control, hop])
        operatorCount := by simp [control]
        operator := fun _ => .inl hm
        continuation := by simp [control, hk] }
    have hset (e₁ : Editor) : Settled e₁ (e₁.reach e₁.rowEndTarget) := .reach (.refl e₁) _
    exact ((hset _).taken ho₁ hk hcm).congr e rfl rfl rfl rfl
  have await (k : Continuation) : Taken e (e.awaitKey k) := taken_awaitKey ho (.inl ⟨hm, .inr hop⟩)
  unfold commandKey
  split
  case h_1 => exact taken_insert ho hk hop hm rfl rfl
  case h_2 =>
    dsimp only
    split
    · exact taken_insert ho hk hop hm rfl rfl
    · exact taken_insert ho hk hop hm rfl rfl
  case h_3 => exact taken_startInsert_reach ho hk hop hm rowEndTarget
  case h_4 => exact taken_startInsert_reach ho hk hop hm indentTarget
  case h_5 => exact change .change
  case h_6 => exact change .delete
  case h_7 => exact taken_openRow ho hk hop hm true
  case h_8 => exact taken_openRow ho hk hop hm false
  case h_9 => exact taken_deleteUnder ho hk hop hm
  case h_10 => exact taken_deleteBefore ho hk hop hm
  case h_11 => exact taken_put ho hk hop hm true
  case h_12 => exact taken_put ho hk hop hm false
  case h_13 => exact await .replaceChar
  case h_14 => exact await .setRegister
  case h_15 => exact taken_toggleRecording ho hk hop hm
  case h_16 => exact await .startPlayback
  case h_17 => exact absurd rfl hu
  case h_18 => exact taken_toggleVisual ho hk hcm .char
  case h_19 => exact taken_toggleVisual ho hk hcm .line
  case h_20 => exact taken_commandLine ho hk hop hm
  case h_21 => exact taken_idle ho hk hop hm (control_dropRepeat ho hop) rfl rfl

end Editing

end Editor

end ModalEditor
