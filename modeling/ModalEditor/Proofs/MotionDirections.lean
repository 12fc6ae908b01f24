import ModalEditor.Proofs.ChangedText
import ModalEditor.Proofs.Checked.Motion
import ModalEditor.Proofs.CountedSearch
import ModalEditor.Proofs.Failures
import ModalEditor.Proofs.WordOperators

/-!
# Motions go their own way

Most motions go forward or backward. With no operator pending the cursor goes to the offset that the
motion leads to, so what has to be shown is on which side of the cursor this offset is
(`Editor.offset_of_forward`, `Editor.offset_of_backward`). In normal mode the cursor is then put back
on the last character of its row, which does not bring it back to where it came from: there it was
on a character, or in an empty row (`Editor.le_cursor_clampCursor_iff`).

There is one exception. The end of a word is sought on the characters of the text, and a final empty
row has none: where no word follows, the cursor goes to the newline before that row.
-/

namespace ModalEditor

/-- The way that a motion goes, if it always goes the same way. -/
def Motion.direction? : Motion → Option Direction
  | right | rowEnd | down | word _ | wordEnd _ => some .forward
  | left | rowStart | up | backWord _ => some .backward
  | jump j => some j.direction
  | _ => none

/-- The offset that a target has for the cursor. -/
def Target.offset : Target → Nat
  | char offset _ | line _ offset => offset

/-! ### Words and jumps -/

namespace Buffer

variable {b : Buffer}

theorem previousWordStart_le_offset (b : Buffer) (kind : WordKind) (offset : Nat) :
    b.previousWordStart kind offset ≤ offset := by
  unfold previousWordStart
  cases hlast : (tokenize kind (b.text.take offset)).getLast? with
  | none => exact Nat.zero_le _
  | some w =>
    have hbounds := bounds_of_mem_tokensFrom (List.mem_of_getLast? hlast)
    rw [List.length_take] at hbounds
    simp only [Option.map_some, Option.getD_some]
    omega

theorem backWords_le_offset (b : Buffer) (kind : WordKind) (n offset : Nat) :
    b.backWords kind n offset ≤ offset := by
  induction n generalizing offset with
  | zero => exact Nat.le_refl _
  | succ n ih =>
    unfold backWords
    split
    · exact Nat.zero_le _
    · exact Nat.le_trans (ih _) (b.previousWordStart_le_offset kind offset)

theorem lt_nextWordLast? {kind : WordKind} {offset last : Nat}
    (h : b.nextWordLast? kind offset = some last) : offset < last := by
  obtain ⟨w, hw, rfl⟩ := Option.map_eq_some_iff.1 h
  have hbounds := bounds_of_mem_tokensFrom (List.mem_of_mem_head? hw)
  unfold WordToken.last
  omega

theorem le_skipWordEnds (b : Buffer) (kind : WordKind) (n offset : Nat) :
    offset ≤ b.skipWordEnds kind n offset := by
  induction n generalizing offset with
  | zero => exact Nat.le_refl _
  | succ n ih =>
    unfold skipWordEnds
    split
    · rename_i last hlast
      exact Nat.le_trans (Nat.le_of_lt (lt_nextWordLast? hlast)) (ih last)
    · exact Nat.le_refl _

end Buffer

/-- A jump stops on the side of the cursor that it is made for. -/
theorem Jump.bounds_of_column? {j : Jump} {row : Text} {col count stop : Nat} {again : Bool}
    (h : j.column? row col count again = some stop) :
    match j.direction with
    | .forward => col ≤ stop
    | .backward => stop ≤ col := by
  obtain ⟨i, hi, rfl⟩ := Option.map_eq_some_iff.1 h
  have hbounds := Checked.bounds_of_mem_candidates (List.mem_of_getElem? hi)
  obtain ⟨c, kind, d⟩ := j
  cases kind <;> cases d <;> simp only [landing] at hbounds ⊢ <;> omega

namespace Editor

variable {e e' : Editor} {m : Motion} {t : Target} {settings : Settings} {offset : Nat}

/-! ### Where motions lead -/

/-- **Where the end of a word is behind the cursor**: in a final empty row, below another. -/
def OnFinalEmptyRow (e : Editor) : Prop :=
  e.cursor.row = e.buffer.lastRow ∧ 0 < e.cursor.row ∧ e.buffer.rowLength e.cursor.row = 0

instance (e : Editor) : Decidable e.OnFinalEmptyRow := inferInstanceAs (Decidable (_ ∧ _ ∧ _))

/-- There the cursor is behind all characters. -/
theorem onFinalEmptyRow_iff (he : e.clampCursor = e) (hm : e.mode = .normal) :
    e.OnFinalEmptyRow ↔ e.buffer.length - 1 < e.cursorOffset := by
  have hrow := (cursor_le_of_clampCursor_eq he).1
  have hend := Buffer.rowEnd_eq hrow
  have hlength := Buffer.rowStart_add_rowLength_le hrow
  have hlast := Buffer.rowEnd_lt_length_iff hrow
  have hrows := e.buffer.lastRow_le_length
  rw [cursorOffset_eq he]
  unfold OnFinalEmptyRow
  rcases col_lt_of_clampCursor_eq he hm with hlt | ⟨hzero, hempty⟩
  · omega
  · have hfirst : e.cursor.row = 0 → e.buffer.rowStart e.cursor.row = 0 := by
      intro hrow₀
      rw [hrow₀]
      exact Buffer.rowStart_eq_length (Nat.zero_le _)
    omega

/-- The end of a row leads on: this row is not above, and the last character of one that is not
empty is not before the cursor. -/
theorem cursorOffset_le_rowEndTarget (he : e.clampCursor = e) (hm : e.mode = .normal) :
    e.cursorOffset ≤ e.rowEndTarget.offset := by
  have hrow := (cursor_le_of_clampCursor_eq he).1
  have hend := Buffer.rowEnd_eq hrow
  have hsource := cursorOffset_eq he
  have hplace := col_lt_of_clampCursor_eq he hm
  let row := min (e.cursor.row + (e.count - 1)) e.buffer.lastRow
  have hrow' : row ≤ e.buffer.lastRow := Nat.min_le_right _ _
  have hend' := Buffer.rowEnd_eq hrow'
  have hbefore : e.cursorOffset ≤ e.buffer.rowEnd row ∧
      (e.buffer.rowEnd row ≠ e.buffer.rowStart row → e.cursorOffset < e.buffer.rowEnd row) := by
    have hle : e.cursor.row ≤ row := Nat.le_min.2 ⟨Nat.le_add_right _ _, hrow⟩
    rcases Nat.eq_or_lt_of_le hle with heq | hlt
    · rw [← heq]
      omega
    · have hstart := Buffer.rowEnd_lt_rowStart hlt hrow'
      omega
  unfold rowEndTarget
  dsimp only
  split
  · exact hbefore.1
  · rename_i hne
    have hlt := hbefore.2 fun heq => hne (.inr heq)
    exact Nat.le_sub_one_of_lt hlt

/-- Rows are ordered as the places in them are. -/
theorem offset_of_rowTarget? {row : Nat} (he : e.clampCursor = e) (hrow : row ≤ e.buffer.lastRow)
    (h : e.rowTarget? row = some t) :
    (e.cursor.row ≤ row → e.cursorOffset ≤ t.offset) ∧
      (row ≤ e.cursor.row → t.offset ≤ e.cursorOffset) := by
  unfold rowTarget? at h
  split at h
  · simp at h
  · rename_i hne
    obtain rfl := Option.some.inj h
    have hcursor := cursor_le_of_clampCursor_eq he
    have hend := Buffer.rowEnd_eq hrow
    have hend' := Buffer.rowEnd_eq hcursor.1
    have hoffset := Buffer.offsetAt_eq hrow e.cursor.col
    rw [cursorOffset_eq he]
    constructor
    · intro hle
      have hlt := Buffer.rowEnd_lt_rowStart (Nat.lt_of_le_of_ne hle (Ne.symm hne)) hrow
      show _ ≤ e.buffer.offsetAt ⟨row, e.cursor.col⟩
      omega
    · intro hle
      have hlt := Buffer.rowEnd_lt_rowStart (Nat.lt_of_le_of_ne hle hne) hcursor.1
      show e.buffer.offsetAt ⟨row, e.cursor.col⟩ ≤ _
      unfold Buffer.rowLength at hend
      omega

/-- **A motion backward** leads to no place ahead. -/
theorem offset_of_backward (he : e.clampCursor = e) (hdir : m.direction? = some .backward)
    (ht : m.target? settings e = some t) : t.offset ≤ e.cursorOffset := by
  have hsource := cursorOffset_eq he
  cases m with
  | left =>
    obtain rfl := Option.some.inj ht
    show e.buffer.rowStart e.cursor.row + (e.cursor.col - e.count) ≤ _
    omega
  | rowStart =>
    obtain rfl := Option.some.inj ht
    show e.buffer.rowStart e.cursor.row ≤ _
    omega
  | up =>
    have hrow := (cursor_le_of_clampCursor_eq he).1
    have hle : e.cursor.row - e.count ≤ e.cursor.row := Nat.sub_le _ _
    exact (offset_of_rowTarget? he (Nat.le_trans hle hrow) ht).2 hle
  | backWord kind =>
    obtain rfl := Option.some.inj ht
    exact e.buffer.backWords_le_offset kind e.count e.cursorOffset
  | jump j =>
    obtain ⟨stop, hstop, rfl⟩ := Option.map_eq_some_iff.1 ht
    have hbounds := Jump.bounds_of_column? hstop
    rw [Option.some.inj hdir] at hbounds
    dsimp only at hbounds
    show e.buffer.rowStart e.cursor.row + stop ≤ _
    omega
  | _ => simp [Motion.direction?] at hdir

/-- **A motion forward** leads to no place behind, but for the end of a word from a final empty
row. -/
theorem offset_of_forward (he : e.clampCursor = e) (hm : e.mode = .normal)
    (hop : e.operator = none) (hmod : e.modifier = none) (hdir : m.direction? = some .forward)
    (ht : m.target? settings e = some t) :
    e.cursorOffset ≤ t.offset ↔ ¬ ((∃ kind, m = .wordEnd kind) ∧ e.OnFinalEmptyRow) := by
  obtain ⟨hrow, hcol⟩ := cursor_le_of_clampCursor_eq he
  have hsource := cursorOffset_eq he
  have hlength : e.cursorOffset ≤ e.buffer.length := e.buffer.offsetAt_le_length e.cursor
  have leads (hne : ∀ kind, m ≠ .wordEnd kind) (hle : e.cursorOffset ≤ t.offset) :
      e.cursorOffset ≤ t.offset ↔ ¬ ((∃ kind, m = .wordEnd kind) ∧ e.OnFinalEmptyRow) :=
    iff_of_true hle fun h => h.1.elim hne
  cases m with
  | wordEnd kind =>
    obtain rfl := Option.some.inj ht
    have hskip := e.buffer.le_skipWordEnds kind e.count e.cursorOffset
    rw [onFinalEmptyRow_iff he hm]
    show _ ≤ min (e.buffer.skipWordEnds kind e.count e.cursorOffset) (e.buffer.length - 1) ↔ _
    rw [Nat.le_min]
    simp only [Motion.wordEnd.injEq, exists_eq', true_and, hskip, Nat.not_lt]
  | right =>
    obtain rfl := Option.some.inj ht
    refine leads (by simp) ?_
    show _ ≤ e.buffer.rowStart e.cursor.row +
      min (e.cursor.col + e.count) (e.buffer.rowLength e.cursor.row)
    omega
  | rowEnd =>
    obtain rfl := Option.some.inj ht
    exact leads (by simp) (cursorOffset_le_rowEndTarget he hm)
  | down =>
    have hle : e.cursor.row ≤ min (e.cursor.row + e.count) e.buffer.lastRow :=
      Nat.le_min.2 ⟨Nat.le_add_right _ _, hrow⟩
    exact leads (by simp) ((offset_of_rowTarget? he (Nat.min_le_right _ _) ht).1 hle)
  | word kind =>
    obtain rfl := Option.some.inj ht
    have hskip := Buffer.le_skipWords kind (e.count - 1) hlength
    have hnext := Buffer.le_nextWordStart kind
      (Buffer.skipWords_le e.buffer kind (e.count - 1) hlength)
    refine leads (by simp) ?_
    unfold wordTarget
    dsimp only
    rw [hop, hmod]
    exact Nat.le_trans hskip hnext
  | jump j =>
    obtain ⟨stop, hstop, rfl⟩ := Option.map_eq_some_iff.1 ht
    have hbounds := Jump.bounds_of_column? hstop
    rw [Option.some.inj hdir] at hbounds
    refine leads (by simp) ?_
    dsimp only at hbounds
    show _ ≤ e.buffer.rowStart e.cursor.row + stop
    omega
  | _ => simp [Motion.direction?] at hdir

/-! ### Where the cursor goes -/

theorem Settles.cursor (h : Settles e (some t) e') (hop : e.operator = none) :
    e'.cursor = e.buffer.positionAt t.offset := by
  obtain ⟨hr⟩ := h
  rename_i e₁
  have hop₁ : e₁.dropCounts.operator = none := (congrArg (·.operator) hr.control).trans hop
  have hreach : (e₁.reach t).cursor = e₁.buffer.positionAt t.offset := by
    cases t with
    | char offset inclusive => rw [reach_char_of_no_operator (e := e₁) hop₁, Target.offset]
    | line row offset =>
      rw [reach_line_of_no_operator (e := e₁) hop₁]
      rfl
  rw [hr.buffer] at hreach
  exact hreach

theorem operator_begin_concluded (m : Motion) (e : Editor) :
    (m.begin e).concluded.operator = e.operator := by
  have hbegin : (m.begin e).operator = e.operator := by
    cases m <;> rfl
  unfold concluded
  split <;> exact hbegin

/-- **On its own a motion moves the cursor** to the offset that it leads to. -/
theorem cursor_run (hm : e.mode = .normal) (hk : e.continuation = none) (hop : e.operator = none)
    (hz : m = .rowStart → e.repeatCount = none) (ht : m.target? settings e = some t) :
    (m.run settings e).cursor = e.buffer.positionAt t.offset := by
  rcases settles_run m settings (.inl hm) hk hz with hs | ⟨name, rfl, hmark, -⟩
  · rw [ht] at hs
    rw [hs.cursor ((operator_begin_concluded m e).trans hop), (unmoved_begin m hm).buffer]
  · simp [Motion.target?, hmark] at ht

/-- A cursor that is put back in its row stays on its side of where it came from. -/
theorem cursor_clampCursor_bounds (he : e.clampCursor = e) (hm : e.mode = .normal)
    (hbuffer : e'.buffer = e.buffer) (hm' : e'.mode = .normal)
    (hcursor : e'.cursor = e.buffer.positionAt offset) :
    (offset ≤ e.cursorOffset → e'.clampCursor.cursor ≤ e.cursor) ∧
      (e.cursor ≤ e'.clampCursor.cursor ↔ e.cursorOffset ≤ offset) := by
  have hhas : e.buffer.Has e.cursor := cursor_le_of_clampCursor_eq he
  have hsource : e.buffer.positionAt e.cursorOffset = e.cursor := Buffer.positionAt_offsetAt hhas
  have hplace := col_lt_of_clampCursor_eq he hm
  have hclamped := cursor_clampCursor_of_normal hm' (hbuffer.symm ▸ hcursor)
  rw [hbuffer] at hclamped
  let q := e.buffer.positionAt offset
  have hback : e'.clampCursor.cursor ≤ q := by
    rw [hclamped, Position.le_iff]
    exact .inr ⟨rfl, Nat.min_le_left _ _⟩
  have hahead : e.cursor ≤ q → e.cursor ≤ e'.clampCursor.cursor := by
    intro hle
    rw [hclamped]
    rw [Position.le_iff] at hle ⊢
    rcases hle with hrow | ⟨hrow, hcol⟩
    · exact .inl hrow
    · refine .inr ⟨hrow, Nat.le_min.2 ⟨hcol, ?_⟩⟩
      rw [← hrow]
      omega
  refine ⟨fun hle => ?_, fun hle => ?_, fun hle => ?_⟩
  · have hmono : q ≤ e.cursor := hsource ▸ Buffer.positionAt_mono hle
    exact Position.le_trans hback hmono
  · have hoffset := (Buffer.offsetAt_le_offsetAt_iff hhas (e.buffer.has_positionAt offset)).2
      (Position.le_trans hle hback)
    rw [Buffer.offsetAt_positionAt_eq_min] at hoffset
    exact Nat.le_trans hoffset (Nat.min_le_left _ _)
  · exact hahead (hsource ▸ Buffer.positionAt_mono hle)

/-- **Motions go their own way**, but for one. Wherever a run has led to, in normal mode, with
nothing half typed: after a count or none, a motion backward does not move the cursor ahead, whether
it has a target or not, and one forward does not move it back. The exception is the motion to the
end of a word from a final empty row, which moves the cursor to a row above. -/
theorem motions_keep_direction {b : Buffer} (he : Reachable b e) (hm : e.mode = .normal)
    (hw : e.waiting = false) (hn : e.repeatCount = none) (settings : Settings) {digits : Text}
    (hd : digits.all Char.isDigit = true) (hz : digits.head? ≠ some '0')
    (hstart : m = .rowStart → digits = []) :
    let e' := e.after settings (digits.map Key.char ++ m.keys)
    (m.direction? = some .backward → e'.cursor ≤ e.cursor) ∧
      (m.direction? = some .forward →
        (e.cursor ≤ e'.cursor ↔ ¬ ((∃ kind, m = .wordEnd kind) ∧ e.OnFinalEmptyRow))) := by
  intro e'
  have hclamped := he.clampCursor_eq
  have hk : e.continuation = none := continuation_of_not_waiting (e := e) hw
  have hop : e.operator = none := operator_of_not_waiting (e := e) hw
  have hmod : e.modifier = none := he.traceable.orderly.modifier_eq_none hop
  obtain ⟨registers, hcount⟩ :=
    exists_after_pushDigits hclamped (.inl hm) hk settings m.keys hd (.inr hz)
  let e₁ : Editor :=
    { e with registers := registers, repeatCount := pushDigits e.repeatCount digits }
  have hclamped₁ : e₁.clampCursor = e₁ := clampCursor_of_eq hclamped rfl rfl rfl
  have hz₁ : m = .rowStart → e₁.repeatCount = none := by
    intro hrow
    show pushDigits e.repeatCount digits = none
    rw [hstart hrow, hn]
    rfl
  obtain ⟨registers', hkeys, -⟩ := exists_after_keys m hclamped₁ (.inl hm) hk hz₁ settings
  let e₂ : Editor := { e₁ with registers := registers' }
  have he' : e' = (m.run settings e₂).clampCursor := hcount.trans hkeys
  have hclamped₂ : e₂.clampCursor = e₂ := clampCursor_of_eq hclamped rfl rfl rfl
  rw [he']
  cases ht : m.target? settings e₂ with
  | none =>
    have hsame : (m.run settings e₂).clampCursor.cursor = e.cursor :=
      ((unmoved_run (e := e₂) hm hk hz₁ ht).clampCursor hclamped₂).cursor
    have hne : ¬ ((∃ kind, m = .wordEnd kind) ∧ e.OnFinalEmptyRow) := by
      rintro ⟨⟨kind, rfl⟩, -⟩
      simp [Motion.target?] at ht
    rw [hsame]
    exact ⟨fun _ => Position.le_refl _, fun _ => iff_of_true (Position.le_refl _) hne⟩
  | some t =>
    have hshift := shifted_run (e := e₂) m settings (.inl hm) hk hop hz₁
    have hmode : (m.run settings e₂).mode = .normal := by
      rw [hshift.mode]
      split
      · rfl
      · exact hm
    obtain ⟨hback, hahead⟩ := cursor_clampCursor_bounds (e := e₂) hclamped₂ hm hshift.buffer hmode
      (cursor_run (e := e₂) hm hk hop hz₁ ht)
    constructor
    · intro hdir
      exact hback (offset_of_backward hclamped₂ hdir ht)
    · intro hdir
      exact hahead.trans (offset_of_forward hclamped₂ hm hop hmod hdir ht)

/-- A count that is too great leads to the last word of the text, or to the first. -/
theorem motions_keep_direction_by_words :
    ∃ e : Editor, Reachable ⟨['a', ' ', 'b', 'c', '\n', 'd', 'e', ' ']⟩ e ∧ e.cursor = ⟨0, 2⟩ ∧
      let ahead := e.after {} (['9'].map Key.char ++ (Motion.wordEnd .word).keys)
      let back := e.after {} (['9'].map Key.char ++ (Motion.backWord .word).keys)
      ahead.cursor = ⟨1, 1⟩ ∧ e.cursor ≤ ahead.cursor ∧ back.cursor = ⟨0, 0⟩ ∧
        back.cursor ≤ e.cursor := by
  let e : Editor := ofResult (interpret {} ⟨['a', ' ', 'b', 'c', '\n', 'd', 'e', ' ']⟩ none
    [.char 'w'])
  have he : Reachable ⟨['a', ' ', 'b', 'c', '\n', 'd', 'e', ' ']⟩ e := .first {} [.char 'w']
  have hrow : ¬ e.OnFinalEmptyRow := by decide +kernel
  have hd : ['9'].all Char.isDigit = true := by decide
  obtain ⟨-, hforward⟩ := motions_keep_direction (m := .wordEnd .word) he (by decide +kernel)
    (by decide +kernel) (by decide +kernel) {} hd (by decide) (by simp)
  obtain ⟨hbackward, -⟩ := motions_keep_direction (m := .backWord .word) he (by decide +kernel)
    (by decide +kernel) (by decide +kernel) {} hd (by decide) (by simp)
  exact ⟨e, he, by decide +kernel, by decide +kernel, (hforward rfl).2 fun h => hrow h.2,
    by decide +kernel, hbackward rfl⟩

/-- From a final empty row the end of a word is in the row above. -/
theorem word_end_goes_back :
    ∃ e : Editor, Reachable ⟨['a', '\n']⟩ e ∧ e.mode = .normal ∧ e.waiting = false ∧
      e.repeatCount = none ∧ e.recording = none ∧ e.cursor = ⟨1, 0⟩ ∧ e.OnFinalEmptyRow ∧
      (Motion.wordEnd .word).direction? = some .forward ∧
      (e.after {} (Motion.wordEnd .word).keys).cursor = ⟨0, 0⟩ :=
  ⟨_, .first {} [.char 'j'], by decide +kernel⟩

end Editor

end ModalEditor
