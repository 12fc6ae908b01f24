import ModalEditor.Proofs.Places
import ModalEditor.Proofs.Recording
import ModalEditor.Proofs.TextObjects

/-!
# Changes

A change is a deletion after which text is typed where the deleted text stood. The two operators
take the same span, so what is left to show is that what is typed goes there, character by
character, although the cursor is kept by row and column and is put in order after every key:
between two keys of the session the text is cut at the cursor into what stands before it, with all
that was typed, and what stands after it (`Inserting`). One character keeps this
(`Inserting.typeChar`), and so do all of them (`Typing.after_append`). In insert mode the cursor may
stand behind its row, so it need not move where the deleted text stood at the end of one.
-/

namespace ModalEditor

/-! ### Positions -/

/-- A character that ends no row is one column further on. -/
theorem positionFrom_append_cons {c : Char} (hc : c ≠ '\n') (row col : Nat) (p s s' : Text) :
    positionFrom row col (p.length + 1) (p ++ c :: s) =
      ⟨(positionFrom row col p.length (p ++ s')).row,
        (positionFrom row col p.length (p ++ s')).col + 1⟩ := by
  induction p generalizing row col with
  | nil => simp [positionFrom, hc]
  | cons d p ih =>
    by_cases hd : d = '\n'
    · simp [positionFrom, hd, ih]
    · simp [positionFrom, hd, ih]

namespace Editor

variable {e : Editor} {p s : Text} {c : Char} {op : Operator}

/-- In insert mode the cursor may stand anywhere in the text. -/
theorem clampCursor_of_insert (hm : e.mode = .insert) {offset : Nat} (h : offset ≤ e.buffer.length)
    (hcursor : e.cursor = e.buffer.positionAt offset) : e.clampCursor = e := by
  have hrow := Buffer.positionAt_row_le e.buffer offset
  have hcol := (Buffer.positionAt_bounds h).2
  rw [← hcursor] at hrow hcol
  have hlast : e.lastColumn e.cursor.row = e.buffer.rowLength e.cursor.row := by
    simp [lastColumn, hm, Mode.cursorPastEnd]
  have hclamped : e.clampCursor.cursor = e.cursor := by
    simp only [clampCursor, Nat.min_eq_left hrow, hlast, Nat.min_eq_left hcol]
  show ({ e with cursor := e.clampCursor.cursor } : Editor) = e
  rw [hclamped]

/-- In normal mode it stands on a character of its row, if there is one. -/
theorem cursor_clampCursor_of_normal (hm : e.mode = .normal) {offset : Nat}
    (hcursor : e.cursor = e.buffer.positionAt offset) :
    let q := e.buffer.positionAt offset
    e.clampCursor.cursor = ⟨q.row, min q.col (e.buffer.rowLength q.row - 1)⟩ := by
  have hrow := Buffer.positionAt_row_le e.buffer offset
  simp only [clampCursor, hcursor, Nat.min_eq_left hrow, lastColumn, hm, Mode.cursorPastEnd,
    Bool.false_eq_true, if_false]

/-! ### Typing -/

/-- **While text is inserted**, it is cut at the cursor into what stands before it and what stands
after it. -/
structure Inserting (p s : Text) (e : Editor) : Prop where
  /-- The mode. -/
  mode : e.mode = .insert
  /-- No second key is waited for. -/
  continuation : e.continuation = none
  /-- The text. -/
  buffer : e.buffer = ⟨p ++ s⟩
  /-- The cursor. -/
  cursor : e.cursor = e.buffer.positionAt p.length

namespace Inserting

theorem length_le (h : Inserting p s e) : p.length ≤ e.buffer.length := by
  rw [h.buffer, Buffer.length, List.length_append]
  exact Nat.le_add_right _ _

theorem clampCursor_eq (h : Inserting p s e) : e.clampCursor = e :=
  clampCursor_of_insert h.mode h.length_le h.cursor

theorem cursorOffset_eq (h : Inserting p s e) : e.cursorOffset = p.length := by
  rw [cursorOffset, h.cursor, Buffer.offsetAt_positionAt h.length_le]

theorem buffer_typeChar (h : Inserting p s e) (c : Char) :
    (e.typeChar c).buffer = ⟨p ++ c :: s⟩ := by
  show e.buffer.insert e.cursorOffset [c] = _
  rw [h.cursorOffset_eq, h.buffer, Buffer.insert, List.take_left, List.drop_left,
    List.append_assoc, List.singleton_append]

/-- **A character that is typed** goes between the two parts. -/
theorem typeChar (h : Inserting p s e) (hc : c ≠ '\n') :
    Inserting (p ++ [c]) s (e.typeChar c) := by
  have hbuffer : (e.typeChar c).buffer = ⟨p ++ [c] ++ s⟩ := by
    rw [h.buffer_typeChar, List.append_assoc, List.singleton_append]
  have hcursor : (e.typeChar c).cursor =
      (⟨p ++ [c] ++ s⟩ : Buffer).positionAt (p ++ [c]).length := by
    show (⟨e.cursor.row, e.cursor.col + 1⟩ : Position) = _
    rw [h.cursor, h.buffer, List.append_assoc, List.length_append]
    exact (positionFrom_append_cons hc 0 0 p s s).symm
  exact ⟨h.mode, h.continuation, hbuffer, hbuffer.symm ▸ hcursor⟩

theorem press_eq (h : Inserting p s e) (settings : Settings) {key : Key}
    (hesc : key.isEscape = false) : e.press settings key = .done (e.insertKey key) := by
  rw [press_of_modeKey settings hesc (.inl h.continuation), continued_of_none h.continuation]
  unfold modeKey
  rw [h.mode]

end Inserting

/-- **While text is typed** and no macro is being recorded, it is cut at the cursor in the same
way. -/
structure Typing (p s : Text) (e : Editor) : Prop where
  /-- The mode. -/
  mode : e.mode = .insert
  /-- No second key is waited for. -/
  continuation : e.continuation = none
  /-- No macro is being recorded. -/
  recording : e.recording = none
  /-- The text. -/
  buffer : e.buffer = ⟨p ++ s⟩
  /-- The cursor. -/
  cursor : e.cursor = e.buffer.positionAt p.length

namespace Typing

theorem inserting (h : Typing p s e) : Inserting p s e :=
  ⟨h.mode, h.continuation, h.buffer, h.cursor⟩

theorem clampCursor_eq (h : Typing p s e) : e.clampCursor = e := h.inserting.clampCursor_eq

/-- **A character that is typed** goes between the two parts. -/
theorem typeChar (h : Typing p s e) (hc : c ≠ '\n') : Typing (p ++ [c]) s (e.typeChar c) := by
  have hstep := h.inserting.typeChar hc
  exact ⟨hstep.mode, hstep.continuation, h.recording, hstep.buffer, hstep.cursor⟩

/-- **All that is typed** goes between the two parts. The induction is on the keys from the last. -/
theorem after_append {settings : Settings} {keys : List Key}
    (h : Typing p s (e.after settings keys)) {t : Text} (ht : '\n' ∉ t) :
    Typing (p ++ t) s (e.after settings (keys ++ t.map Key.char)) := by
  induction t using List.reverseRecOn with
  | nil => simpa using h
  | append_singleton t c ih =>
    simp only [List.mem_append, List.mem_singleton, not_or] at ht
    have hbefore := ih ht.1
    have hstep := hbefore.typeChar (Ne.symm ht.2)
    have hpress : ((e.after settings (keys ++ t.map Key.char)).capture (.char c)).press settings
        (.char c) = .done ((e.after settings (keys ++ t.map Key.char)).typeChar c) := by
      rw [capture_of_none hbefore.recording, hbefore.inserting.press_eq settings rfl]
      rfl
    have hlast := after_concat_of_done hpress
    rw [hstep.clampCursor_eq, List.append_assoc] at hlast
    rw [List.map_append, List.map_singleton, ← List.append_assoc p, hlast]
    exact hstep

theorem after_escape {settings : Settings} {keys : List Key}
    (h : Typing p s (e.after settings keys)) :
    let e' := e.after settings (keys ++ [.escape])
    e'.buffer = ⟨p ++ s⟩ ∧ e'.mode = .normal := by
  intro e'
  have hpress : ((e.after settings keys).capture .escape).press settings .escape =
      .done (e.after settings keys).escape := by
    rw [capture_of_none h.recording]
    exact if_pos rfl
  have he' : e' = _ := after_concat_of_done hpress
  rw [he']
  exact ⟨h.buffer, rfl⟩

end Typing

/-! ### Deletions and changes -/

theorem continuation_applyRange (e : Editor) (source target : Nat) :
    (e.applyRange source target).continuation = e.continuation := by
  have hcontrol := congrArg Control.continuation (operated_applyRange e source target).control_eq
  refine hcontrol.trans ?_
  unfold Control.operated
  split <;> rfl

theorem spanTo_start_le (e : Editor) (offset : Nat) (inclusive : Bool) :
    (e.spanTo offset inclusive).start ≤ e.cursorOffset := by
  have hordered (target : Nat) : (Span.ordered e.cursorOffset target).start ≤ e.cursorOffset := by
    rw [Span.ordered_start]
    exact Nat.min_le_left _ _
  unfold spanTo rangeSpan
  dsimp only
  split
  · exact Nat.le_trans (Nat.sub_le _ _) (hordered _)
  · exact hordered _

/-- **What a deletion and a change leave**, by the motion that they are given: the text without the
span, and the cursor where it was, put in order. -/
theorem exists_after_cut {b : Buffer} (he : Reachable b e) (hm : e.mode = .normal)
    (hw : e.waiting = false) (hn : e.repeatCount = none) (hrec : e.recording = none)
    (settings : Settings) (h : OperatorHead) (hne : op ≠ .yank) {m : Motion}
    (hz : m = .rowStart → h.since ++ h.late = []) {offset : Nat} {inclusive : Bool}
    (htarget : m.target? settings (h.typed op e) = some (.char offset inclusive)) :
    let s := ({ e with modifier := m.keeps h.modifier } : Editor).spanTo offset inclusive
    ∃ e₁ : Editor, e.after settings (h.keys op ++ m.keys) = e₁.clampCursor ∧
      e₁.buffer = e.buffer.remove s ∧ e₁.cursor = e₁.buffer.positionAt s.start ∧
      e₁.mode = (if op = .change then .insert else .normal) ∧ e₁.continuation = none ∧
      e₁.recording = none := by
  intro s
  obtain ⟨e₁, hr, hspan, hafter⟩ :=
    exists_after_operator_char settings he hm hw hn hrec h op hz htarget
  have hop : e₁.dropCounts.operator = some op := congrArg (·.operator) hr.control
  have hbuffer : e₁.buffer = e.buffer := hr.buffer
  have hs : e₁.dropCounts.rangeSpan e₁.cursorOffset (e₁.stopAt offset inclusive) = s := hspan
  have hmode : e₁.mode = .normal := (congrArg Control.mode hr.control).trans hm
  have hk : e₁.continuation = none :=
    (congrArg Control.continuation hr.control).trans (continuation_of_not_waiting (e := e) hw)
  have hleaves : op.leaves e₁.buffer s = e.buffer.remove s := by
    rw [hbuffer]
    cases op with
    | yank => exact absurd rfl hne
    | delete | change => rfl
  have hleft : (e₁.dropCounts.applyRange e₁.cursorOffset (e₁.stopAt offset inclusive)).buffer =
      e.buffer.remove s := by
    rw [leaves_applyRange hop, hs]
    exact hleaves
  refine ⟨_, hafter, hleft, ?_, ?_, ?_, ?_⟩
  · rw [hleft, cursor_applyRange hop hne, hs]
    exact congrArg (·.positionAt s.start) hleaves
  · rw [mode_applyRange hop]
    exact congrArg (if op = .change then Mode.insert else ·) hmode
  · rw [continuation_applyRange]
    exact hk
  · rw [recording_applyRange]
    exact hr.recording.trans hrec

/-- **A change is a deletion and what is typed.** Wherever a run has led to, in normal mode, with
nothing half typed and no macro being recorded: let a motion be typed that leads to a character
under an operator, with counts, a modifier and the choice of a register before it or without, but
not one to a word without a modifier. A deletion that is given the motion leaves two parts of the
text, and the cursor where they meet, or on the last character of that row. If a change is given the
motion, characters are typed and the session is ended, then the characters stand between the two
parts, wherever these meet. -/
theorem change_replaces_deleted {b : Buffer} (he : Reachable b e) (hm : e.mode = .normal)
    (hw : e.waiting = false) (hn : e.repeatCount = none) (hrec : e.recording = none)
    (settings : Settings) (h : OperatorHead) {m : Motion}
    (hz : m = .rowStart → h.since ++ h.late = [])
    (hword : ∀ kind, m = .word kind → h.modifier ≠ none) {offset : Nat} {inclusive : Bool}
    (htarget : m.target? settings (h.typed .delete e) = some (.char offset inclusive)) :
    let deleted := e.after settings (h.keys .delete ++ m.keys)
    ∃ p t s, e.buffer.text = p ++ t ++ s ∧ deleted.buffer = ⟨p ++ s⟩ ∧
      deleted.registers.read unnamedRegister = t ∧
      (let q := deleted.buffer.positionAt p.length
      deleted.cursor = ⟨q.row, min q.col (deleted.buffer.rowLength q.row - 1)⟩) ∧
      ∀ cs, '\n' ∉ cs →
        let e' := e.after settings
          (h.keys .change ++ m.keys ++ cs.map Key.char ++ [.escape])
        e'.buffer = ⟨p ++ cs ++ s⟩ ∧ e'.mode = .normal := by
  intro deleted
  let span := ({ e with modifier := m.keeps h.modifier } : Editor).spanTo offset inclusive
  have hle : span.start ≤ span.stop := rangeSpan_start_le _ _ _
  have htext := (e.buffer.take_append_slice hle).symm
  have hremove : e.buffer.remove span =
      ⟨e.buffer.text.take span.start ++ e.buffer.text.drop span.stop⟩ := by
    rw [Buffer.remove, Nat.max_eq_right hle]
  have hstart : (e.buffer.text.take span.start).length = span.start := by
    refine List.length_take_of_le (Nat.le_trans (spanTo_start_le _ _ _) ?_)
    exact e.buffer.offsetAt_le_length e.cursor
  have htarget' : m.target? settings (h.typed .change e) = some (.char offset inclusive) := by
    rw [← htarget]
    exact target?_of_operator m settings (h.typed .delete e) fun kind hkind hmod =>
      absurd hmod (hword kind hkind)
  obtain ⟨-, htaken⟩ := taken_after_motion he hm hw hn hrec settings h .delete hz htarget
  obtain ⟨e₁, hdeleted, hbuffer₁, hcursor₁, hmode₁, -, -⟩ :=
    exists_after_cut he hm hw hn hrec settings h (by decide) hz htarget
  obtain ⟨e₂, hchanged, hbuffer₂, hcursor₂, hmode₂, hk₂, hrec₂⟩ :=
    exists_after_cut he hm hw hn hrec settings h (by decide) hz htarget'
  have hdeleted' : deleted = e₁.clampCursor := hdeleted
  refine ⟨_, _, _, htext, ?_, htaken.unnamed, ?_, fun cs hcs => ?_⟩
  · rw [hdeleted']
    exact hbuffer₁.trans hremove
  · rw [hdeleted', hstart]
    exact cursor_clampCursor_of_normal hmode₁ hcursor₁
  · have htyping : Typing (e.buffer.text.take span.start) (e.buffer.text.drop span.stop) e₂ :=
      ⟨hmode₂, hk₂, hrec₂, hbuffer₂.trans hremove, hstart.symm ▸ hcursor₂⟩
    have hbegun : Typing (e.buffer.text.take span.start) (e.buffer.text.drop span.stop)
        (e.after settings (h.keys .change ++ m.keys)) := by
      rw [hchanged, htyping.clampCursor_eq]
      exact htyping
    exact (hbegun.after_append hcs).after_escape

/-- To the end of a row: what is typed goes behind the character that the deletion leaves the cursor
on. -/
theorem change_replaces_deleted_end_of_row :
    let h : OperatorHead := { register := some 'r' }
    ∃ e : Editor, Reachable ⟨['a', 'b', 'c', '\n', 'd']⟩ e ∧
      let deleted := e.after {} (h.keys .delete ++ Motion.rowEnd.keys)
      let e' := e.after {}
        (h.keys .change ++ Motion.rowEnd.keys ++ ['x', 'y'].map Key.char ++ [.escape])
      deleted.buffer = ⟨['a', '\n', 'd']⟩ ∧ deleted.cursor = ⟨0, 0⟩ ∧
        e'.buffer = ⟨['a', 'x', 'y', '\n', 'd']⟩ ∧ e'.mode = .normal := by
  intro h
  let e : Editor := ofResult (interpret {} ⟨['a', 'b', 'c', '\n', 'd']⟩ none [.char 'l'])
  have he : Reachable ⟨['a', 'b', 'c', '\n', 'd']⟩ e := .first {} [.char 'l']
  have htarget : Motion.rowEnd.target? {} (h.typed .delete e) = some (.char 2 true) := by
    decide +kernel
  obtain ⟨p, t, s, htext, hdeleted, hunnamed, hcursor, htyped⟩ :=
    change_replaces_deleted he (by decide +kernel) (by decide +kernel) (by decide +kernel)
      (by decide +kernel) {} h (by simp) (by simp) htarget
  have hread : (e.after {} (h.keys .delete ++ Motion.rowEnd.keys)).registers.read
      unnamedRegister = ['b', 'c'] := by decide +kernel
  have hparts {p s : Text} (hp : ['a', 'b', 'c', '\n', 'd'] = p ++ ['b', 'c'] ++ s) :
      p = ['a'] ∧ s = ['\n', 'd'] := by
    match p with
    | [] => simp at hp
    | [x] => simpa using hp.symm
    | [x, y] | [x, y, z] => simp at hp
    | x :: y :: z :: w :: p =>
      have hlength := congrArg List.length hp
      simp only [List.length_append, List.length_cons, List.length_nil] at hlength
      omega
  have hbuffer : e.buffer.text = ['a', 'b', 'c', '\n', 'd'] := by decide +kernel
  obtain rfl := hunnamed.symm.trans hread
  obtain ⟨rfl, rfl⟩ := hparts (hbuffer.symm.trans htext)
  obtain ⟨htyped, hmode⟩ := htyped ['x', 'y'] (by decide)
  refine ⟨e, he, hdeleted, hcursor.trans ?_, htyped, hmode⟩
  rw [hdeleted]
  decide

end Editor

end ModalEditor
