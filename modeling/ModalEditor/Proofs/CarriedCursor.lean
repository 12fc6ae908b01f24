import ModalEditor.Proofs.MotionDirections
import ModalEditor.Proofs.RowSelections
import ModalEditor.Proofs.SearchProgress

/-!
# Where a motion carries the cursor

A motion of its own, with a count or without, carries the cursor to its target and leaves nothing
else behind than the chosen register forgotten (`Idle.after_char`). The cursor comes to stand at the
target, or on the last character of its row, and no more than this place is left of the target:
motions whose targets have the same place lead to the same editor (`Idle.carriedTo_landing`). So to
compare two ways of typing it is enough to compare offsets.
-/

namespace ModalEditor

theorem TypedCount.times_pos (n : TypedCount) : 0 < n.times := countOf_pos n.all_digits n.head_ne

/-! ### Places of the cursor -/

namespace Buffer

variable {b : Buffer} {offset : Nat}

/-- An offset that is not past the last place of the cursor is such a place. -/
theorem landing_of_not_past (h : offset ≤ b.length) (hpast : ¬ b.Past offset) :
    b.landing offset = offset := by
  obtain ⟨hsum, hcol⟩ := positionAt_bounds h
  rw [past_iff h, Decidable.not_and_iff_or_not] at hpast
  rw [landing_eq]
  omega

/-- The cursor can stand on every character but a newline. -/
theorem landing_of_charAt? {c : Char} (h : b.charAt? offset = some c) (hc : c ≠ '\n') :
    b.landing offset = offset := by
  have hlt : offset < b.length := (List.getElem?_eq_some_iff.1 h).1
  refine landing_of_not_past (Nat.le_of_lt hlt) ?_
  rintro (heq | ⟨hnewline, -⟩)
  · omega
  · exact hc (Option.some.inj (h.symm.trans hnewline))

theorem landing_le (h : offset ≤ b.length) : b.landing offset ≤ offset := by
  obtain ⟨hsum, hcol⟩ := positionAt_bounds h
  rw [landing_eq]
  omega

/-- The cursor comes to stand in the row that it is sent to. -/
theorem positionAt_landing (b : Buffer) (offset : Nat) :
    b.positionAt (b.landing offset) =
      ⟨(b.positionAt offset).row,
        min (b.positionAt offset).col (b.rowLength (b.positionAt offset).row - 1)⟩ := by
  have hrow := positionAt_row_le b offset
  refine positionAt_offsetAt ⟨hrow, ?_⟩
  exact Nat.le_trans (Nat.min_le_right _ _) (Nat.sub_le _ _)

theorem landing_landing (b : Buffer) (offset : Nat) :
    b.landing (b.landing offset) = b.landing offset := by
  rw [landing_eq b (b.landing offset), positionAt_landing, landing_eq]
  simp only [Nat.min_assoc, Nat.min_self]

theorem positionAt_landing_of_lt {row col : Nat} (hrow : row ≤ b.lastRow)
    (hcol : col < b.rowLength row) :
    b.positionAt (b.landing (b.rowStart row + col)) = ⟨row, col⟩ := by
  have hhas : b.Has ⟨row, col⟩ := ⟨hrow, Nat.le_of_lt hcol⟩
  have hplace : b.positionAt (b.rowStart row + col) = ⟨row, col⟩ := by
    rw [← offsetAt_of_has hhas, positionAt_offsetAt hhas]
  have hmin : min col (b.rowLength row - 1) = col := by omega
  rw [positionAt_landing, hplace, hmin]

end Buffer

namespace Editor

variable {e : Editor} {m : Motion} {offset : Nat}

/-- The cursor is sent to an offset, and put in order; no register is chosen any more. -/
def carriedTo (e : Editor) (offset : Nat) : Editor :=
  ({ e.moveTo offset with selected := none } : Editor).clampCursor

/-- Of two places one after the other only the last counts. -/
theorem carriedTo_carriedTo (e : Editor) (offset offset' : Nat) :
    (e.carriedTo offset).carriedTo offset' = e.carriedTo offset' := rfl

/-- **Nothing is going on**: commands are typed, nothing is half typed and no macro is being
recorded. -/
structure Idle (e : Editor) : Prop where
  /-- The cursor is in order. -/
  clampCursor_eq : e.clampCursor = e
  /-- The mode. -/
  mode : e.mode = .normal
  /-- No second key is waited for. -/
  continuation : e.continuation = none
  /-- No macro is being recorded. -/
  recording : e.recording = none
  /-- Neither an operator nor a count is pending. -/
  toPending : e.toPending = {}

theorem Reachable.idle {b : Buffer} (he : Reachable b e) (hm : e.mode = .normal)
    (hw : e.waiting = false) (hn : e.repeatCount = none) (hrec : e.recording = none) : e.Idle := by
  have hop := operator_of_not_waiting hw
  refine ⟨he.clampCursor_eq, hm, continuation_of_not_waiting hw, hrec, ?_⟩
  rw [toPending_of_no_operator he.traceable.orderly hop, hn]

namespace Idle

theorem operator (h : e.Idle) : e.operator = none := congrArg Pending.operator h.toPending

theorem repeatCount (h : e.Idle) : e.repeatCount = none := congrArg Pending.repeatCount h.toPending

/-- In normal mode the cursor stands where it is sent. -/
theorem landing_cursorOffset (h : e.Idle) : e.buffer.landing e.cursorOffset = e.cursorOffset := by
  have hhas : e.buffer.Has e.cursor := cursor_le_of_clampCursor_eq h.clampCursor_eq
  have hcursor : e.cursor = e.buffer.positionAt e.cursorOffset :=
    (Buffer.positionAt_offsetAt hhas).symm
  have hsent := cursorOffset_clampCursor (by simp [h.mode]) hcursor
  rw [← hsent, h.clampCursor_eq]

theorem cursorOffset_carriedTo (h : e.Idle) (offset : Nat) :
    (e.carriedTo offset).cursorOffset = e.buffer.landing offset :=
  cursorOffset_clampCursor (e := { e.moveTo offset with selected := none })
    (by simp [h.mode, moveTo]) rfl

theorem carriedTo (h : e.Idle) (offset : Nat) : (e.carriedTo offset).Idle :=
  { h with clampCursor_eq := clampCursor_clampCursor _ }

theorem cursor_carriedTo (h : e.Idle) (offset : Nat) :
    (e.carriedTo offset).cursor = e.buffer.positionAt (e.buffer.landing offset) := by
  rw [Buffer.positionAt_landing]
  exact cursor_clampCursor_of_normal (e := { e.moveTo offset with selected := none }) h.mode rfl

/-- Of an offset no more is left than where the cursor comes to stand. -/
theorem carriedTo_landing (h : e.Idle) (offset : Nat) :
    e.carriedTo (e.buffer.landing offset) = e.carriedTo offset := by
  have hcursor : (e.carriedTo (e.buffer.landing offset)).cursor = (e.carriedTo offset).cursor := by
    rw [h.cursor_carriedTo, h.cursor_carriedTo, Buffer.landing_landing]
  show ({ e with
    selected := none
    cursor := (e.carriedTo (e.buffer.landing offset)).cursor } : Editor) = _
  rw [hcursor]
  rfl

/-- **A motion does what it does with its count**, in normal mode. -/
theorem after_motion (h : e.Idle) (settings : Settings) (n : TypedCount) (hz : m ≠ .rowStart)
    (rest : List Key) :
    e.after settings (n.keys ++ (m.keys ++ rest)) =
      (m.run settings { e with repeatCount := n.count? }).clampCursor.after settings rest := by
  let e₁ : Editor := { e with repeatCount := n.count? }
  have hclamped₁ : e₁.clampCursor = e₁ := clampCursor_of_eq h.clampCursor_eq rfl rfl rfl
  have hcount := after_count settings h.clampCursor_eq (.inl h.mode) h.continuation h.recording
    h.repeatCount n.all_digits n.head_ne (m.keys ++ rest)
  have hkeys := after_keys_append m hclamped₁ (.inl h.mode) h.continuation h.recording
    (fun heq => absurd heq hz) settings rest
  exact hcount.trans hkeys

/-- **A motion to a character carries the cursor there**, with a count or without, and is done. It
may be remembered as the last jump. -/
theorem after_char (h : e.Idle) (settings : Settings) (n : TypedCount) (hz : m ≠ .rowStart)
    {lastJump : Option Jump} {inclusive : Bool}
    (hrun : m.run settings { e with repeatCount := n.count? } =
      ({ e with repeatCount := n.count?, lastJump := lastJump } : Editor).reach
        (.char offset inclusive)) (rest : List Key) :
    e.after settings (n.keys ++ (m.keys ++ rest)) =
      (({ e with lastJump := lastJump } : Editor).carriedTo offset).after settings rest := by
  let e₁ : Editor := { e with repeatCount := n.count?, lastJump := lastJump }
  have hpending : ({ operator := e.operator } : Pending) = e.toPending := by
    rw [h.operator, h.toPending]
  rw [h.after_motion settings n hz, hrun, reach_char_of_no_operator (e := e₁) h.operator]
  exact congrArg (fun pending : Pending => (({ e with
    lastJump := lastJump
    toPending := pending
    cursor := e.buffer.positionAt offset
    selected := none } : Editor).clampCursor).after settings rest) hpending

end Idle

end Editor

end ModalEditor
