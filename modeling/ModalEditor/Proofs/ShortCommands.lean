import ModalEditor.Proofs.Failures
import ModalEditor.Proofs.Places
import ModalEditor.Proofs.TextObjects

/-!
# Commands that abbreviate

Four commands stand for an operator and a motion. Those to the end of the row are carried out by the
operator itself, and differ from it in where they keep their count, which makes no difference to the
product of the counts (`counted_pend`). The other two take characters on one side of the cursor and
find the cursor's new column by themselves; the operator gets it from the offset at which the deleted
text stood (`cut_in_row`). They leave the registers alone, and the operator does not.
-/

namespace ModalEditor

/-- **A command that abbreviates** an operator and a motion. -/
inductive ShortCommand where
  /-- Deletes under the cursor. -/
  | deleteUnder
  /-- Deletes before the cursor. -/
  | deleteBefore
  /-- Deletes to the end of the row. -/
  | deleteRest
  /-- Changes to the end of the row. -/
  | changeRest

namespace ShortCommand

/-- The key of the command. -/
def key : ShortCommand → Char
  | deleteUnder => 'x'
  | deleteBefore => 'X'
  | deleteRest => 'D'
  | changeRest => 'C'

/-- The operator that it stands for. -/
def operator : ShortCommand → Operator
  | deleteUnder | deleteBefore | deleteRest => .delete
  | changeRest => .change

/-- The motion that the operator is given. -/
def motion : ShortCommand → Motion
  | deleteUnder => .right
  | deleteBefore => .left
  | deleteRest | changeRest => .rowEnd

/-- The keys of the operator and the motion. -/
def longKeys (c : ShortCommand) : List Key := .char c.operator.key :: c.motion.keys

end ShortCommand

namespace Editor

variable {e : Editor} {op : Operator} {p : Position} {s : Span} {count? : Option Nat}

/-! ### Deletions in a row -/

/-- **A deletion leaves the cursor where the deleted text stood.** -/
theorem cut_in_row (hop : e.operator = some .delete) (hmod : e.modifier = none)
    (hp : e.buffer.Has p) {source target : Nat} (hspan : Span.ordered source target = s)
    (hstart : s.start = e.buffer.offsetAt p) :
    (e.applyRange source target).buffer = e.buffer.remove s ∧
      (e.applyRange source target).cursor = p ∧ (e.applyRange source target).mode = e.mode := by
  have hrange : e.rangeSpan source target = s :=
    (rangeSpan_of_no_modifier hmod source target).trans hspan
  have hbuffer : (e.applyRange source target).buffer = e.buffer.remove s := by
    rw [leaves_applyRange hop, hrange]
    rfl
  refine ⟨hbuffer, ?_, ?_⟩
  · rw [cursor_applyRange hop (by decide), hrange]
    show (e.buffer.remove s).positionAt s.start = p
    rw [Buffer.positionAt_congr (Buffer.take_remove (Nat.le_refl _)), hstart,
      Buffer.positionAt_offsetAt hp]
  · rw [mode_applyRange hop]
    exact if_neg (by decide)

theorem removeChars_eq (e : Editor) (s : Span) :
    (e.removeChars s).buffer = e.buffer.remove s ∧ (e.removeChars s).cursor = e.cursor ∧
      (e.removeChars s).mode = e.mode := by
  unfold removeChars
  split
  · rename_i hempty
    exact ⟨(Buffer.remove_of_isEmpty hempty).symm, rfl, rfl⟩
  · exact ⟨rfl, rfl, rfl⟩

/-- Two editors that look the same: the text, the cursor and the mode. -/
structure Alike (e e' : Editor) : Prop where
  /-- The same text. -/
  buffer : e.buffer = e'.buffer
  /-- The same cursor. -/
  cursor : e.cursor = e'.cursor
  /-- The same mode. -/
  mode : e.mode = e'.mode

theorem Alike.of_eq {e' : Editor} (h : e = e') : Alike e e' := by
  rw [h]
  exact ⟨rfl, rfl, rfl⟩

theorem Alike.clampCursor {e' : Editor} (h : Alike e e') : Alike e.clampCursor e'.clampCursor :=
  ⟨h.buffer, cursor_clampCursor_congr h.cursor h.buffer (congrArg _ h.mode), h.mode⟩

/-- The count of a command is that of an operator with the same count in front. -/
theorem count_pend (hc : e.operatorCount = none) (op : Operator) (count? : Option Nat) :
    (e.pend op count? none).count = ({ e with repeatCount := count? } : Editor).count :=
  (count_of_repeatCount (e := e.pend op count? none) rfl).trans
    (count_of_operatorCount (e := { e with repeatCount := count? }) hc).symm

section Pending

variable (he : e.clampCursor = e) (hc : e.operatorCount = none) (count? : Option Nat)

include he hc

theorem alike_deleteUnder :
    let e₁ : Editor := { e with repeatCount := count? }
    let e₂ := e.pend .delete count? none
    Alike e₁.deleteUnder (e₂.reach e₂.rightTarget) := by
  intro e₁ e₂
  have hhas : e.buffer.Has e.cursor := cursor_le_of_clampCursor_eq he
  have hsource := cursorOffset_eq he
  let start := e.buffer.rowStart e.cursor.row
  let s : Span := ⟨start + e.cursor.col,
    start + min (e.cursor.col + e₁.count) (e.buffer.rowLength e.cursor.row)⟩
  have hle : s.start ≤ s.stop := by
    have hcol := hhas.2
    simp only [s]
    omega
  have htarget : e₂.rightTarget = .char s.stop false := by
    unfold rightTarget
    rw [count_pend hc .delete count?]
    rfl
  have hspan : Span.ordered e.cursorOffset s.stop = s := by
    rw [hsource]
    exact if_pos hle
  obtain ⟨hbuffer, hcursor, hmode⟩ :=
    cut_in_row (e := e₂.dropCounts) rfl rfl hhas hspan hsource.symm
  obtain ⟨hbuffer₁, hcursor₁, hmode₁⟩ := removeChars_eq e₁.dropCounts s
  rw [htarget, reach_char_of_operator rfl]
  exact ⟨hbuffer₁.trans hbuffer.symm, hcursor₁.trans hcursor.symm, hmode₁.trans hmode.symm⟩

theorem alike_deleteBefore :
    let e₁ : Editor := { e with repeatCount := count? }
    let e₂ := e.pend .delete count? none
    Alike e₁.deleteBefore (e₂.reach e₂.leftTarget) := by
  intro e₁ e₂
  obtain ⟨hrow, hcol⟩ := cursor_le_of_clampCursor_eq he
  have hsource := cursorOffset_eq he
  let start := e.buffer.rowStart e.cursor.row
  let s : Span := ⟨start + (e.cursor.col - e₁.count), start + e.cursor.col⟩
  let p : Position := ⟨e.cursor.row, e.cursor.col - s.length⟩
  have hcol' : p.col = e.cursor.col - e₁.count := by
    simp only [p, s, Span.length]
    omega
  have hhas : e.buffer.Has p := ⟨hrow, Nat.le_trans (Nat.sub_le _ _) hcol⟩
  have hstart : s.start = e.buffer.offsetAt p := by
    rw [Buffer.offsetAt_of_has hhas, hcol']
  have htarget : e₂.leftTarget = .char s.start false := by
    unfold leftTarget
    rw [count_pend hc .delete count?]
    rfl
  have hspan : Span.ordered e.cursorOffset s.start = s := by
    rw [hsource, Span.ordered_comm]
    exact if_pos (Nat.add_le_add_left (Nat.sub_le _ _) start)
  obtain ⟨hbuffer, hcursor, hmode⟩ := cut_in_row (e := e₂.dropCounts) rfl rfl hhas hspan hstart
  obtain ⟨hbuffer₁, -, hmode₁⟩ := removeChars_eq e₁.dropCounts s
  rw [htarget, reach_char_of_operator rfl]
  exact ⟨hbuffer₁.trans hbuffer.symm, hcursor.symm, hmode₁.trans hmode.symm⟩

omit he in
/-- To the end of the row the operator itself is carried out. -/
theorem reach_rowEndTarget_pend (hmod : e.modifier = none) (op : Operator) :
    let e₁ : Editor := { e with repeatCount := count?, operator := some op }
    let e₂ := e.pend op count? none
    e₁.reach e₁.rowEndTarget = e₂.reach e₂.rowEndTarget := by
  intro e₁ e₂
  have hpend : e₁ = e.pend op none count? :=
    congrArg₂ (fun modifier count => ({ e₁ with modifier := modifier, operatorCount := count } :
      Editor)) hmod hc
  have hcounted : e₁.counted = e₂.counted := by
    rw [hpend]
    exact (counted_pend e op count?).symm
  have hreach (e : Editor) : e.counted.reach e.counted.rowEndTarget = e.reach e.rowEndTarget :=
    reach_counted e e.rowEndTarget
  rw [← hreach e₁, hcounted, hreach e₂]

end Pending

/-! ### The keys -/

/-- **A short command does what it abbreviates.** Wherever a run has led to, in normal mode, with
nothing half typed and no macro being recorded: the command, after a count or none, and the operator
and the motion that it stands for, after the same count, leave the same text, cursor and mode. To the
end of the row they leave the same in everything, the registers and the history included. -/
theorem short_command_eq {b : Buffer} (he : Reachable b e) (hm : e.mode = .normal)
    (hw : e.waiting = false) (hn : e.repeatCount = none) (hrec : e.recording = none)
    (settings : Settings) {digits : Text} (hd : digits.all Char.isDigit = true)
    (hz : digits.head? ≠ some '0') (c : ShortCommand) :
    let short := e.after settings (digits.map Key.char ++ [.char c.key])
    let long := e.after settings (digits.map Key.char ++ c.longKeys)
    Alike short long ∧ (c.motion = .rowEnd → short = long) := by
  intro short long
  have hclamped := he.clampCursor_eq
  have ho := he.traceable.orderly
  have hk : e.continuation = none := continuation_of_not_waiting (e := e) hw
  have hop : e.operator = none := operator_of_not_waiting (e := e) hw
  have hc : e.operatorCount = none := ho.operatorCount_eq_none hop
  have hmod : e.modifier = none := ho.modifier_eq_none hop
  let e₁ : Editor := { e with repeatCount := typedCount? digits }
  let e₂ := e.pend c.operator (typedCount? digits) none
  have hshort : short = (e₁.commandKey c.key).clampCursor := by
    refine (after_count settings hclamped (.inl hm) hk hrec hn hd hz [.char c.key]).trans ?_
    have hmark : c.key ≠ 'm' := by cases c <;> decide
    refine after_commandKey (e := e₁) hm hk hrec hop ?_ ?_ ?_ hmark
    all_goals cases c <;> rfl
  have hstart : Operand.motion c.motion ≠ .motion .rowStart := by
    cases c <;> simp [ShortCommand.motion]
  have hlong : long = (c.motion.run settings e₂).clampCursor :=
    after_count_operand settings hclamped hm hk hrec hop hn hd hz hstart
  have hrun : c.motion.run settings e₂ = c.motion.finish settings e₂ := by
    have hbegin : ({ c.motion.begin e₂ with continuation := none } : Editor) = e₂ := by
      cases c <;> exact continued_of_none (e := e₂) hk
    exact congrArg (fun e => c.motion.finish settings e) hbegin
  rw [hshort, hlong, hrun]
  cases c with
  | deleteUnder =>
    have halike : Alike e₁.deleteUnder (e₂.reach e₂.rightTarget) := alike_deleteUnder hclamped hc _
    exact ⟨halike.clampCursor, by simp [ShortCommand.motion]⟩
  | deleteBefore =>
    have halike : Alike e₁.deleteBefore (e₂.reach e₂.leftTarget) := alike_deleteBefore hclamped hc _
    exact ⟨halike.clampCursor, by simp [ShortCommand.motion]⟩
  | deleteRest =>
    have heq := reach_rowEndTarget_pend hc (typedCount? digits) hmod .delete
    exact ⟨(Alike.of_eq heq).clampCursor, fun _ => congrArg Editor.clampCursor heq⟩
  | changeRest =>
    have heq := reach_rowEndTarget_pend hc (typedCount? digits) hmod .change
    exact ⟨(Alike.of_eq heq).clampCursor, fun _ => congrArg Editor.clampCursor heq⟩

/-- Over the end of a row, over its start, and to the end of the row below. -/
theorem short_command_eq_in_rows :
    ∃ e : Editor, Reachable ⟨['a', 'b', 'c', '\n', 'd', 'e']⟩ e ∧ e.cursor = ⟨0, 1⟩ ∧
      (let short := e.after {} [.char '9', .char 'x']
      short.buffer = ⟨['a', '\n', 'd', 'e']⟩ ∧ short.cursor = ⟨0, 0⟩ ∧
        Alike short (e.after {} [.char '9', .char 'd', .char 'l'])) ∧
      (let short := e.after {} [.char '9', .char 'X']
      short.buffer = ⟨['b', 'c', '\n', 'd', 'e']⟩ ∧ short.cursor = ⟨0, 0⟩ ∧
        Alike short (e.after {} [.char '9', .char 'd', .char 'h'])) ∧
      (let short := e.after {} [.char '2', .char 'C']
      short.buffer = ⟨['a']⟩ ∧ short = e.after {} [.char '2', .char 'c', .char '$']) := by
  let e : Editor := ofResult (interpret {} ⟨['a', 'b', 'c', '\n', 'd', 'e']⟩ none [.char 'l'])
  have he : Reachable ⟨['a', 'b', 'c', '\n', 'd', 'e']⟩ e := .first {} [.char 'l']
  have hcommand (digits : Text) (hd : digits.all Char.isDigit = true) (hz : digits.head? ≠ some '0')
      (c : ShortCommand) :=
    short_command_eq he (by decide +kernel) (by decide +kernel) (by decide +kernel)
      (by decide +kernel) {} hd hz c
  refine ⟨e, he, by decide +kernel, ⟨by decide +kernel, by decide +kernel, ?_⟩,
    ⟨by decide +kernel, by decide +kernel, ?_⟩, by decide +kernel, ?_⟩
  · exact (hcommand ['9'] (by decide) (by decide) .deleteUnder).1
  · exact (hcommand ['9'] (by decide) (by decide) .deleteBefore).1
  · exact (hcommand ['2'] (by decide) (by decide) .changeRest).2 rfl

end Editor

end ModalEditor
