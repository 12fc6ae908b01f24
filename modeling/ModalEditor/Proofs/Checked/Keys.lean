import ModalEditor.Proofs.Calls
import ModalEditor.Proofs.Checked.Searching
import ModalEditor.Proofs.Reachable

/-!
# Keys on the machine

What a key does on the machine. A key that computes nothing which can stop is left to the editor.
No key stops the machine (`press_ok`) where the cursor has been put in order after the key before,
counts are not zero and lines are typed at their end.
-/

namespace ModalEditor

namespace Checked

variable {e : Editor}

/-! ### Modes that type -/

/-- Leaves every mode and forgets what was half typed. -/
def escape (e : Editor) : Checked Editor := do
  let col ← (if e.mode = .insert ∧ e.insertAppend ∧ 0 < e.cursor.col then sub e.cursor.col 1
    else .ok e.cursor.col)
  return { e.escape with cursor := ⟨e.cursor.row, col⟩ }

/-- Removes the character before the cursor of a line, which must be there. -/
def backspace (l : LineInput) : Checked LineInput :=
  if l.cursor = 0 then .ok l
  else do
    let i ← sub l.cursor 1
    if i < l.text.length then return ⟨l.text.eraseIdx i, i⟩ else .error .character

/-- A key while a command line is typed. -/
def commandLineKey (e : Editor) : Key → Checked Editor
  | .backspace => do
    let line ← backspace e.commandQuery
    return { e with commandQuery := line }
  | key => .ok (e.commandLineKey key)

/-- A key while a query is typed. -/
def searchKey (e : Editor) (settings : Settings) : Key → Checked Editor
  | .backspace => do
    let line ← backspace e.searchQuery
    return { e with searchQuery := line }
  | .enter => commitSearch e settings
  | key => .ok (e.searchKey settings key)

theorem escape_ok (e : Editor) : escape e = .ok e.escape := by
  unfold escape
  split
  · rename_i h
    have hback : e.escape.cursor = ⟨e.cursor.row, e.cursor.col - 1⟩ := by
      unfold Editor.escape
      simp [h.1, h.2.1]
    rw [sub_ok h.2.2, ok_bind, ← hback]
    rfl
  · rename_i h
    have hstay : e.escape.cursor = ⟨e.cursor.row, e.cursor.col⟩ := by
      unfold Editor.escape
      simp only
      split
      · rename_i hins
        have hzero : e.cursor.col = 0 := by
          refine Nat.eq_zero_of_not_pos fun hpos => h ⟨hins.1, hins.2, hpos⟩
        rw [hzero]
      · rfl
    rw [ok_bind, ← hstay]
    rfl

/-- In a line that is typed at its end, the character before the cursor is there. -/
theorem backspace_ok {l : LineInput} (h : l.cursor = l.text.length) :
    backspace l = .ok l.backspace := by
  unfold backspace LineInput.backspace
  by_cases hzero : l.cursor = 0
  · rw [if_pos hzero, if_pos hzero]
  · rw [if_neg hzero, if_neg hzero, sub_ok (Nat.one_le_iff_ne_zero.2 hzero), ok_bind,
      if_pos (by omega)]
    rfl

theorem commandLineKey_ok (ho : e.control.Orderly) (key : Key) :
    commandLineKey e key = .ok (e.commandLineKey key) := by
  cases key with
  | backspace =>
    have hline : e.commandQuery.cursor = e.commandQuery.text.length := ho.commandQuery_atEnd
    rw [commandLineKey, backspace_ok hline]
    rfl
  | _ => rfl

theorem searchKey_ok (hb : e.buffer.Fits) (ho : e.control.Orderly) (settings : Settings)
    (key : Key) : searchKey e settings key = .ok (e.searchKey settings key) := by
  cases key with
  | backspace =>
    have hline : e.searchQuery.cursor = e.searchQuery.text.length := ho.searchQuery_atEnd
    rw [searchKey, backspace_ok hline]
    rfl
  | enter => exact commitSearch_ok hb settings
  | _ => rfl

/-! ### Motions -/

/-- Goes where a motion leads. -/
def go (e : Editor) (found : Checked Target) : Checked (Option Editor) :=
  some <$> (found >>= reach e)

/-- What a key does if it is a motion or starts one. -/
def motionKey? (e : Editor) : Char → Checked (Option Editor)
  | 'h' => go e (leftTarget e)
  | 'l' => go e (rightTarget e)
  | '0' => go e (rowStartTarget e)
  | '^' => go e (indentTarget e)
  | '$' => go e (rowEndTarget e)
  | 'j' => some <$> (downTarget? e >>= reachOr e)
  | 'k' => some <$> (upTarget? e >>= reachOr e)
  | 'w' => go e (wordTarget e .word)
  | 'W' => go e (wordTarget e .bigWord)
  | 'b' => go e (backWordTarget e .word)
  | 'B' => go e (backWordTarget e .bigWord)
  | 'e' => go e (wordEndTarget e .word)
  | 'E' => go e (wordEndTarget e .bigWord)
  | 'G' => go e (bottomTarget e)
  | ';' => some <$> repeatJump e false
  | ',' => some <$> repeatJump e true
  | 'n' => some <$> repeatSearch e false
  | 'N' => some <$> repeatSearch e true
  | c => .ok (e.motionKey? c)

theorem go_ok (hb : e.buffer.Fits) {found : Checked Target} {target : Target}
    (h : Finds e found target) : go e found = .ok (some (e.reach target)) := by
  rw [go, h.reach_ok hb]
  rfl

theorem motionKey?_ok (h : InText e) (c : Char) : motionKey? e c = .ok (e.motionKey? c) := by
  have hb := h.fits
  unfold motionKey?
  split
  · exact go_ok hb (finds_leftTarget h)
  · exact go_ok hb (finds_rightTarget h)
  · exact go_ok hb (finds_rowStartTarget h)
  · exact go_ok hb (finds_indentTarget h)
  · exact go_ok hb (finds_rowEndTarget hb)
  · exact congrArg (some <$> ·) (reachOr_downTarget? hb)
  · exact congrArg (some <$> ·) (reachOr_upTarget? hb)
  · exact go_ok hb (finds_wordTarget hb .word)
  · exact go_ok hb (finds_wordTarget hb .bigWord)
  · exact go_ok hb (finds_backWordTarget hb .word)
  · exact go_ok hb (finds_backWordTarget hb .bigWord)
  · exact go_ok hb (finds_wordEndTarget hb .word)
  · exact go_ok hb (finds_wordEndTarget hb .bigWord)
  · exact go_ok hb (finds_bottomTarget hb)
  · exact congrArg (some <$> ·) (repeatJump_ok h false)
  · exact congrArg (some <$> ·) (repeatJump_ok h true)
  · exact congrArg (some <$> ·) (repeatSearch_ok hb false)
  · exact congrArg (some <$> ·) (repeatSearch_ok hb true)
  · rfl

/-! ### Visual mode -/

/-- Applies an operator to the selection. -/
def operateOnSelection (e : Editor) (kind : VisualKind) (op : Operator) : Checked Editor :=
  let anchor := e.visualAnchor.getD e.cursor
  let cursor := e.cursor
  let chosen :=
    { e with
      mode := .normal
      visualAnchor := none
      repeatCount := none
      operator := some op }
  match kind with
  | .char => do
    let first ← offsetAt e.buffer anchor
    let last ← offsetAt e.buffer cursor
    let span := Span.ordered first last
    let stop ← add span.stop 1
    let moved ← moveTo chosen span.start
    applyRange moved span.start (min stop e.buffer.length)
  | .line => applyRows chosen (min anchor.row cursor.row) (max anchor.row cursor.row)
  | .block =>
    applyBlock chosen (min anchor.row cursor.row) (max anchor.row cursor.row)
      (min anchor.col cursor.col) (max anchor.col cursor.col)

/-- A key in visual mode. -/
def visualKey (e : Editor) (kind : VisualKind) : Key → Checked Editor
  | .char c =>
    match c with
    | 'v' | 'V' | '"' => .ok (e.visualKey kind (.char c))
    | 'd' | 'x' => operateOnSelection e kind .delete
    | 'y' => operateOnSelection e kind .yank
    | 'c' => operateOnSelection e kind .change
    | _ => (·.getD e) <$> motionKey? e c
  | key => .ok (e.visualKey kind key)

theorem operateOnSelection_ok (h : InText e) (kind : VisualKind) (op : Operator) :
    operateOnSelection e kind op = .ok (e.operateOnSelection kind op) := by
  have hb := h.fits
  cases kind with
  | char =>
    have hlong := hb.add_two_le
    have hanchor := e.buffer.offsetAt_le_length (e.visualAnchor.getD e.cursor)
    have hcursor := e.buffer.offsetAt_le_length e.cursor
    have hstart : (Span.ordered (e.buffer.offsetAt (e.visualAnchor.getD e.cursor))
        (e.buffer.offsetAt e.cursor)).start ≤ e.buffer.length := by
      rw [Span.ordered_start]
      omega
    have hstop : (Span.ordered (e.buffer.offsetAt (e.visualAnchor.getD e.cursor))
        (e.buffer.offsetAt e.cursor)).stop ≤ e.buffer.length := by
      rw [Span.ordered_stop]
      omega
    unfold operateOnSelection Editor.operateOnSelection
    dsimp only
    rw [offsetAt_ok hb, ok_bind, offsetAt_ok hb, ok_bind, add_ok (by omega), ok_bind, moveTo_ok,
      ok_bind]
    refine applyRange_ok ?_ hstart (Nat.min_le_right _ _)
    exact hb
  | line =>
    refine applyRows_ok ?_ _ _
    exact hb
  | block =>
    refine applyBlock_ok ?_ ?_ _ _ _
    · exact hb
    · exact Nat.le_trans (Nat.min_le_right _ _) h.row_le

theorem visualKey_ok (h : InText e) (kind : VisualKind) (key : Key) :
    visualKey e kind key = .ok (e.visualKey kind key) := by
  cases key with
  | char c =>
    unfold visualKey
    dsimp only
    split
    · rfl
    · rfl
    · rfl
    · exact operateOnSelection_ok h kind .delete
    · exact operateOnSelection_ok h kind .delete
    · exact operateOnSelection_ok h kind .yank
    · exact operateOnSelection_ok h kind .change
    · rw [motionKey?_ok h, map_ok]
      unfold Editor.visualKey
      dsimp only
      split <;> simp_all
  | _ => rfl

/-! ### Normal mode -/

/-- The key of an operator. -/
def operatorKey (e : Editor) (op : Operator) : Checked Editor :=
  if e.operator = some op then
    applyRows e.dropCounts e.cursor.row (saturatingAdd e.cursor.row (e.count - 1))
  else .ok (e.operatorKey op)

/-- A command other than a motion or an operator, with no operator pending. -/
def commandKey (e : Editor) : Char → Checked Editor
  | 'a' => do
    let length ← rowLength e.buffer e.cursor.row
    if length = 0 then return e.startInsert
    else
      let col ← add e.cursor.col 1
      return { e.startInsert with cursor := ⟨e.cursor.row, col⟩ }
  | 'A' => rowEndTarget e.startInsert >>= reach e.startInsert
  | 'I' => indentTarget e.startInsert >>= reach e.startInsert
  | 'C' =>
    let e := { e with operator := some .change }
    rowEndTarget e >>= reach e
  | 'D' =>
    let e := { e with operator := some .delete }
    rowEndTarget e >>= reach e
  | 'o' => openRow e true
  | 'O' => openRow e false
  | 'x' => deleteUnder e
  | 'X' => deleteBefore e
  | 'p' => put e true
  | 'P' => put e false
  | c => .ok (e.commandKey c)

/-- A character in normal mode. -/
def normalChar (e : Editor) (c : Char) : Checked Editor := do
  match ← motionKey? e c with
  | some e' => return e'
  | none =>
    match Operator.ofKey? c with
    | some op => operatorKey e op
    | none =>
      if c = 'i' ∧ e.operator.isSome then return { e with modifier := some .inside }
      else if c = 'a' ∧ e.operator.isSome then return { e with modifier := some .around }
      else if c = 'm' then
        let k := if e.operator = some .delete then Continuation.deleteMark else .setMark
        return (e.awaitKey k).clearPending
      else if e.operator.isSome then return e.clearPending
      else commandKey e c

/-- A key in normal mode. -/
def normalKey (e : Editor) : Key → Checked Editor
  | .char c => normalChar e c
  | key => .ok (e.normalKey key)

theorem operatorKey_ok (hb : e.buffer.Fits) (op : Operator) :
    operatorKey e op = .ok (e.operatorKey op) := by
  unfold operatorKey Editor.operatorKey
  split
  · -- a last row that saturates is past the last row of the buffer either way
    have hword := hb.two_mul_lt
    have hrows := e.buffer.lastRow_le_length
    have hlast : min (max (saturatingAdd e.cursor.row (e.count - 1))
          (min e.cursor.row e.buffer.lastRow)) e.buffer.lastRow =
        min (max (e.cursor.row + (e.count - 1)) (min e.cursor.row e.buffer.lastRow))
          e.buffer.lastRow := by
      unfold saturatingAdd
      omega
    rw [applyRows_ok (e := e.dropCounts) hb]
    unfold Editor.applyRows
    dsimp only [Editor.dropCounts]
    rw [hlast]
  · rfl

theorem commandKey_ok (h : InText e) (ho : e.control.Orderly) (c : Char)
    (hafter : (e.commandKey c).buffer.Fits) : commandKey e c = .ok (e.commandKey c) := by
  have hb := h.fits
  have hstarted : InText e.startInsert := h.of_eq rfl rfl
  unfold commandKey
  split
  · have hword := hb.two_mul_lt
    have hlong := hb.add_two_le
    have hcol := h.rowStart_add_col_le
    rw [rowLength_ok h.row_le, ok_bind]
    unfold Editor.commandKey
    split
    · rename_i hzero
      exact congrArg Except.ok (if_pos hzero).symm
    · rename_i hzero
      rw [add_ok (by omega), ok_bind]
      exact congrArg Except.ok (if_neg hzero).symm
  · exact (finds_rowEndTarget hstarted.fits).reach_ok hstarted.fits
  · exact (finds_indentTarget hstarted).reach_ok hstarted.fits
  · exact (finds_rowEndTarget (e := { e with operator := some .change }) hb).reach_ok hb
  · exact (finds_rowEndTarget (e := { e with operator := some .delete }) hb).reach_ok hb
  · exact openRow_ok h true
  · exact openRow_ok h false
  · exact deleteUnder_ok h
  · exact deleteBefore_ok h
  · exact put_ok h true (Editor.count_ne_zero ho) hafter
  · exact put_ok h false (Editor.count_ne_zero ho) hafter
  · rfl

theorem normalChar_ok (h : InText e) (ho : e.control.Orderly) (c : Char)
    (hafter : (e.normalChar c).buffer.Fits) : normalChar e c = .ok (e.normalChar c) := by
  unfold normalChar
  unfold Editor.normalChar at hafter ⊢
  rw [motionKey?_ok h, ok_bind]
  cases hmotion : e.motionKey? c with
  | some e' => rfl
  | none =>
    rw [hmotion] at hafter
    dsimp only at hafter ⊢
    cases hop : Operator.ofKey? c with
    | some op => exact operatorKey_ok h.fits op
    | none =>
      rw [hop] at hafter
      dsimp only at hafter ⊢
      split
      · rfl
      · split
        · rfl
        · split
          · rfl
          · split
            · rfl
            · refine commandKey_ok h ho c ?_
              simp_all

theorem normalKey_ok (h : InText e) (ho : e.control.Orderly) (key : Key)
    (hafter : (e.normalKey key).buffer.Fits) : normalKey e key = .ok (e.normalKey key) := by
  cases key with
  | char c => exact normalChar_ok h ho c hafter
  | _ => rfl

/-! ### Dispatch -/

/-- A key that no command waits for. -/
def modeKey (e : Editor) (settings : Settings) (key : Key) : Checked Editor :=
  match e.mode with
  | .insert => insertKey e key
  | .commandLine => commandLineKey e key
  | .search => searchKey e settings key
  | .normal =>
    match e.countDigit? key with
    | some digit => .ok (e.typeDigit digit)
    | none => normalKey e key
  | .visual kind =>
    match e.countDigit? key with
    | some digit => .ok (e.typeDigit digit)
    | none => visualKey e kind key

/-- Jumps to a mark, if it is set. -/
def jumpToMark (e : Editor) (name : Char) : Checked Editor :=
  match e.marks.get? name with
  | some p => do
    let offset ← offsetAt e.buffer p
    reach e (.char offset false)
  | none => .ok e

/-- The second key of a command, if it is a character. -/
def continueWith (e : Editor) (k : Continuation) (c : Char) : Checked Outcome :=
  match k with
  | .findChar d => .done <$> startJump e ⟨c, .find, d⟩
  | .toChar d => .done <$> startJump e ⟨c, .till, d⟩
  | .replaceChar => .done <$> replaceChars e c
  | .jumpToMark => .done <$> jumpToMark e c
  | .gotoPrefix => .done <$> (topTarget e >>= reach e)
  | k => .ok (e.continueWith k c)

/-- What a key does. -/
def press (e : Editor) (settings : Settings) (key : Key) : Checked Outcome :=
  if key.isEscape then .done <$> escape e
  else
    match e.continuation with
    | none => .done <$> modeKey e settings key
    | some k =>
      let e := { e with continuation := none }
      if k = .gotoPrefix ∧ key ≠ .char 'g' then .done <$> modeKey e settings key
      else
        match key with
        | .char c => continueWith e k c
        | _ => .ok (.done e)

/-- Moves the cursor into the text. -/
def clampCursor (e : Editor) : Checked Editor := do
  let row := min e.cursor.row e.buffer.lastRow
  let length ← rowLength e.buffer row
  let last := if e.mode.cursorPastEnd then length else length - 1
  return { e with cursor := ⟨row, min e.cursor.col last⟩ }

theorem modeKey_ok (h : InText e) (ho : e.control.Orderly) (settings : Settings) (key : Key)
    (hafter : (e.modeKey settings key).buffer.Fits) :
    modeKey e settings key = .ok (e.modeKey settings key) := by
  unfold modeKey
  unfold Editor.modeKey at hafter ⊢
  cases hmode : e.mode with
  | insert => exact insertKey_ok h key
  | commandLine => exact commandLineKey_ok ho key
  | search => exact searchKey_ok h.fits ho settings key
  | normal =>
    rw [hmode] at hafter
    dsimp only at hafter ⊢
    cases hdigit : e.countDigit? key with
    | some digit => rfl
    | none =>
      rw [hdigit] at hafter
      exact normalKey_ok h ho key hafter
  | visual kind =>
    dsimp only
    cases e.countDigit? key with
    | some digit => rfl
    | none => exact visualKey_ok h kind key

theorem jumpToMark_ok (hb : e.buffer.Fits) (name : Char) :
    jumpToMark e name = .ok (e.jumpToMark name) := by
  unfold jumpToMark Editor.jumpToMark
  cases e.marks.get? name with
  | none => rfl
  | some p =>
    dsimp only
    rw [offsetAt_ok hb, ok_bind]
    exact reach_ok hb (e.buffer.offsetAt_le_length p)

theorem continueWith_ok (h : InText e) (k : Continuation) (c : Char) :
    continueWith e k c = .ok (e.continueWith k c) := by
  cases k with
  | findChar d => exact congrArg (Outcome.done <$> ·) (startJump_ok h _)
  | toChar d => exact congrArg (Outcome.done <$> ·) (startJump_ok h _)
  | replaceChar => exact congrArg (Outcome.done <$> ·) (replaceChars_ok h c)
  | jumpToMark => exact congrArg (Outcome.done <$> ·) (jumpToMark_ok h.fits c)
  | gotoPrefix => exact congrArg (Outcome.done <$> ·) ((finds_topTarget h.fits).reach_ok h.fits)
  | _ => rfl

/-- **No key stops the machine**, if the text that it leaves is not too long. -/
theorem press_ok (h : InText e) (ho : e.control.Orderly) (settings : Settings) (key : Key)
    (hafter : (e.press settings key).editor.buffer.Fits) :
    press e settings key = .ok (e.press settings key) := by
  unfold press
  unfold Editor.press at hafter ⊢
  split
  · exact congrArg (Outcome.done <$> ·) (escape_ok e)
  · rename_i hescape
    rw [if_neg hescape] at hafter
    cases hk : e.continuation with
    | none =>
      rw [hk] at hafter
      exact congrArg (Outcome.done <$> ·) (modeKey_ok h ho settings key hafter)
    | some k =>
      rw [hk] at hafter
      have hin : InText { e with continuation := none } := h.of_eq rfl rfl
      dsimp only at hafter ⊢
      split
      · rename_i hgoto
        rw [if_pos hgoto] at hafter
        exact congrArg (Outcome.done <$> ·) (modeKey_ok hin ho.continued settings key hafter)
      · cases key with
        | char c => exact continueWith_ok hin k c
        | _ => rfl

/-- With the cursor past the last row, the machine does stop. -/
example :
    press { toState := { State.initial ⟨['a']⟩ with cursor := ⟨1, 0⟩ }, buffer := ⟨['a']⟩ } {}
      (.char 'x') = .error .row := rfl

theorem clampCursor_ok (e : Editor) : clampCursor e = .ok e.clampCursor := by
  unfold clampCursor
  dsimp only
  rw [rowLength_ok (Nat.min_le_right _ _)]
  rfl

theorem InText.of_clampCursor_eq (hb : e.buffer.Fits) (he : e.clampCursor = e) : InText e := by
  obtain ⟨hrow, hcol⟩ := Editor.cursor_le_of_clampCursor_eq he
  exact ⟨hb, hrow, hcol⟩

end Checked

end ModalEditor
