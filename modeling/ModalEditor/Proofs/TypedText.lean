import ModalEditor.Proofs.ChangedText

/-!
# Typed text

In insert mode the text is cut at the cursor in two parts, and what is typed goes between them
(`Inserting`). The cursor is kept by row and column, and moves one column on. That is one character
on, unless the character is a newline: then the row ends where it stood, and the cursor is put back
there, before the newline (`Inserting.clampCursor_typeChar_newline`). So of a typed text the
newlines come to stand behind the rest, the last first, and the cursor before them
(`Inserting.after_text`); and a backspace takes what is before the cursor, which is then no more
what was typed last (`Inserting.after_backspaces`). The key that starts a new row has none of this.
-/

namespace ModalEditor

namespace Editor

variable {e : Editor} {p s : Text} {c : Char}

/-! ### One key -/

/-- What is dropped from the record of the typed text is dropped from a register. -/
theorem exists_unrecordTyped (e : Editor) :
    ∃ registers, e.unrecordTyped = { e with registers := registers } := by
  unfold unrecordTyped
  dsimp only
  split
  · exact ⟨e.registers, rfl⟩
  · exact ⟨_, rfl⟩

namespace Inserting

theorem capture (h : Inserting p s e) (key : Key) : Inserting p s (e.capture key) := by
  obtain ⟨registers, hcapture, -⟩ := exists_capture e key
  rw [hcapture]
  exact ⟨h.mode, h.continuation, h.buffer, h.cursor⟩

/-- **A newline that is typed** goes between the two parts, and the cursor stays before it. -/
theorem clampCursor_typeChar_newline (h : Inserting p s e) :
    Inserting p ('\n' :: s) (e.typeChar '\n').clampCursor := by
  let b : Buffer := ⟨p ++ '\n' :: s⟩
  have hbuffer : (e.typeChar '\n').buffer = b := h.buffer_typeChar '\n'
  have hmode : (e.typeChar '\n').mode = .insert := h.mode
  have hle : p.length ≤ b.length := by simp [b, Buffer.length]
  have hplace : e.cursor = b.positionAt p.length := by
    rw [h.cursor, h.buffer]
    exact Buffer.positionAt_congr (by simp [b])
  have hrow := b.positionAt_row_le p.length
  obtain ⟨hsum, hcol⟩ := Buffer.positionAt_bounds hle
  -- The row of the cursor ends with what stands before it.
  have hend : b.rowLength (b.positionAt p.length).row = (b.positionAt p.length).col := by
    refine Nat.le_antisymm (Nat.le_of_not_lt fun hlt => ?_) hcol
    have hchar := Buffer.charAt?_ne_newline hrow hlt
    rw [hsum] at hchar
    exact hchar (by simp [b, Buffer.charAt?])
  have hmoved : (e.typeChar '\n').cursor =
      ⟨(b.positionAt p.length).row, (b.positionAt p.length).col + 1⟩ := by
    rw [← hplace]
    rfl
  have hcursor : (e.typeChar '\n').clampCursor.cursor = b.positionAt p.length := by
    simp only [clampCursor, lastColumn, hmode, Mode.cursorPastEnd, if_true, hmoved, hbuffer,
      Nat.min_eq_left hrow, hend, Nat.min_eq_right (Nat.le_succ _)]
  exact ⟨h.mode, h.continuation, hbuffer,
    hcursor.trans (congrArg (Buffer.positionAt · p.length) hbuffer.symm)⟩

/-- **A character that is typed**, with the cursor put in order. -/
theorem clampCursor_typeChar (h : Inserting p s e) (c : Char) :
    Inserting (p ++ [c].filter (· ≠ '\n')) (List.replicate ([c].count '\n') '\n' ++ s)
      (e.typeChar c).clampCursor := by
  by_cases hc : c = '\n'
  · subst hc
    simpa using h.clampCursor_typeChar_newline
  · have hstep := h.typeChar hc
    rw [hstep.clampCursor_eq]
    simpa [hc] using hstep

/-- **A backspace** takes the last character before the cursor, if there is one. -/
theorem eraseBack (h : Inserting p s e) : Inserting p.dropLast s e.eraseBack := by
  have hhere := h.cursorOffset_eq
  cases p using List.reverseRecOn with
  | nil =>
    have hsame : e.eraseBack = e := if_pos hhere
    rw [hsame]
    exact h
  | append_singleton p c =>
    rw [List.dropLast_concat]
    rw [List.length_append, List.length_singleton] at hhere
    let e₁ : Editor := ({ e with
      buffer := e.buffer.remove ⟨p.length, p.length + 1⟩ } : Editor).moveTo p.length
    have herased : e.eraseBack = e₁.unrecordTyped := by
      unfold Editor.eraseBack
      dsimp only
      rw [hhere, if_neg (Nat.succ_ne_zero _), Nat.add_sub_cancel]
    have hbuffer : e₁.buffer = ⟨p ++ s⟩ := by
      have htext : e.buffer.text = p ++ [c] ++ s := congrArg Buffer.text h.buffer
      exact Buffer.remove_of_text_eq htext
    obtain ⟨registers, hregisters⟩ := e₁.exists_unrecordTyped
    rw [herased, hregisters]
    exact ⟨h.mode, h.continuation, hbuffer, rfl⟩

/-! ### Any number of keys -/

variable (settings : Settings)

/-- **All that is typed but the newlines** goes between the two parts, and the newlines behind it.
The induction is on the characters, each of which may have a call of its own. -/
theorem after_text (h : Inserting p s e) (cs : Text) :
    Inserting (p ++ cs.filter (· ≠ '\n')) (List.replicate (cs.count '\n') '\n' ++ s)
      (e.after settings (cs.map Key.char)) := by
  induction cs generalizing p s e with
  | nil =>
    have hsame : e.after settings [] = e := rfl
    simpa [hsame] using h
  | cons c cs ih =>
    have hpress : (e.capture (.char c)).press settings (.char c) =
        .done ((e.capture (.char c)).typeChar c) :=
      (h.capture _).press_eq settings rfl
    have hkept : p ++ (c :: cs).filter (· ≠ '\n') =
        p ++ [c].filter (· ≠ '\n') ++ cs.filter (· ≠ '\n') := by
      rw [List.append_assoc, ← List.filter_append, List.singleton_append]
    have hlines : List.replicate ((c :: cs).count '\n') '\n' ++ s =
        List.replicate (cs.count '\n') '\n' ++ (List.replicate ([c].count '\n') '\n' ++ s) := by
      rw [← List.append_assoc, List.replicate_append_replicate, Nat.add_comm, ← List.count_append,
        List.singleton_append]
    rw [List.map_cons, after_cons_of_done hpress, after_singleton_of_done hpress, hkept, hlines]
    exact ih ((h.capture _).clampCursor_typeChar c)

/-- **So many backspaces** take as many characters before the cursor, as far as there are any. -/
theorem after_backspaces (h : Inserting p s e) (n : Nat) :
    Inserting (p.take (p.length - n)) s (e.after settings (List.replicate n .backspace)) := by
  induction n generalizing p e with
  | zero =>
    rw [Nat.sub_zero, List.take_length]
    exact h
  | succ n ih =>
    have hpress : (e.capture .backspace).press settings .backspace =
        .done (e.capture .backspace).eraseBack :=
      (h.capture _).press_eq settings rfl
    have hstep := (h.capture .backspace).eraseBack
    have htake : p.take (p.length - (n + 1)) = p.dropLast.take (p.dropLast.length - n) := by
      rw [List.length_dropLast, List.dropLast_eq_take, List.take_take]
      congr 1
      omega
    rw [List.replicate_succ, after_cons_of_done hpress, after_singleton_of_done hpress, htake]
    refine ih ?_
    show Inserting p.dropLast s (e.capture .backspace).eraseBack.clampCursor
    rwa [hstep.clampCursor_eq]

end Inserting

/-- Between two calls in insert mode the text is cut where the cursor is. -/
theorem Reachable.inserting {b : Buffer} (he : Reachable b e) (hm : e.mode = .insert)
    (htext : e.buffer.text = p ++ s) (hhere : e.cursorOffset = p.length) : Inserting p s e := by
  have hhas : e.buffer.Has e.cursor := cursor_le_of_clampCursor_eq he.clampCursor_eq
  refine ⟨hm, continuation_of_insert he.traceable.orderly hm, congrArg Buffer.mk htext, ?_⟩
  rw [← hhere]
  exact (Buffer.positionAt_offsetAt hhas).symm

/-- **Typed text goes in verbatim just when there is no newline in it.** Wherever a run has led to,
in insert mode, and whether a macro is being recorded or not: of the characters that are typed the
newlines come to stand behind the others, and the cursor before them. So the text goes in as it was
typed, with the cursor behind it, and as many backspaces take it out again, exactly if there are
none. -/
theorem typed_text_verbatim_iff {b : Buffer} (he : Reachable b e) (hm : e.mode = .insert)
    (htext : e.buffer.text = p ++ s) (hhere : e.cursorOffset = p.length) (settings : Settings)
    (cs : Text) :
    let typed := e.after settings (cs.map Key.char)
    let erased := typed.after settings (List.replicate cs.length .backspace)
    let kept := cs.filter (· ≠ '\n')
    typed.buffer.text = p ++ kept ++ List.replicate (cs.count '\n') '\n' ++ s ∧
      typed.cursorOffset = p.length + kept.length ∧
      (typed.buffer.text = p ++ cs ++ s ∧ typed.cursorOffset = p.length + cs.length ∧
          erased.buffer.text = p ++ s ∧ erased.cursorOffset = p.length ↔ '\n' ∉ cs) := by
  intro typed erased kept
  have htyped := (he.inserting hm htext hhere).after_text settings cs
  have hbuffer : typed.buffer.text = p ++ kept ++ List.replicate (cs.count '\n') '\n' ++ s := by
    rw [List.append_assoc (p ++ kept)]
    exact congrArg Buffer.text htyped.buffer
  have hoffset : typed.cursorOffset = p.length + kept.length := by
    rw [← List.length_append]
    exact htyped.cursorOffset_eq
  have hall : kept.length = cs.length ↔ '\n' ∉ cs := by
    rw [List.length_filter_eq_length_iff]
    simp only [decide_eq_true_eq]
    exact ⟨fun h hmem => h _ hmem rfl, fun h c hc heq => h (heq ▸ hc)⟩
  refine ⟨hbuffer, hoffset, ?_, ?_⟩
  · rintro ⟨-, hlength, -, -⟩
    exact hall.1 (by omega)
  · intro hcs
    have hkept : kept = cs := List.filter_sublist.eq_of_length (hall.2 hcs)
    have hnone : cs.count '\n' = 0 := List.count_eq_zero.2 hcs
    have hback : (p ++ kept).take ((p ++ kept).length - cs.length) = p := by
      rw [hkept, List.length_append, Nat.add_sub_cancel, List.take_left]
    have herased : Inserting p s erased := by
      have hstep := htyped.after_backspaces settings cs.length
      rw [hnone] at hstep
      exact hback ▸ hstep
    refine ⟨?_, ?_, congrArg Buffer.text herased.buffer, herased.cursorOffset_eq⟩
    · rw [hbuffer, hkept, hnone, List.replicate_zero, List.append_nil]
    · rw [hoffset, hkept]

/-- In the middle of a row, while a macro is being recorded. -/
theorem typed_text_verbatim_recorded :
    ∃ e : Editor, Reachable ⟨['a', 'b']⟩ e ∧ e.recording = some 'r' ∧
      let typed := e.after {} (['x', 'y'].map Key.char)
      let erased := typed.after {} (List.replicate 2 .backspace)
      typed.buffer.text = ['a', 'x', 'y', 'b'] ∧ typed.cursorOffset = 3 ∧
        erased.buffer.text = ['a', 'b'] ∧ erased.cursorOffset = 1 := by
  have he : Reachable ⟨['a', 'b']⟩ _ := .first {} [.char 'q', .char 'r', .char 'a']
  obtain ⟨-, -, hverbatim⟩ := typed_text_verbatim_iff (p := ['a']) (s := ['b']) he
    (by decide +kernel) (by decide +kernel) (by decide +kernel) {} ['x', 'y']
  exact ⟨_, he, by decide +kernel, hverbatim.2 (by decide)⟩

/-- A newline between two characters comes to stand behind both, with the cursor before it; of as
many backspaces the last finds nothing to take, and the newline is left. -/
theorem typed_newline_goes_behind :
    ∃ e : Editor, Reachable ⟨[]⟩ e ∧ e.mode = .insert ∧ e.buffer.text = [] ∧ e.cursorOffset = 0 ∧
      let typed := e.after {} (['a', '\n', 'b'].map Key.char)
      let erased := typed.after {} (List.replicate 3 .backspace)
      typed.buffer.text = ['a', 'b', '\n'] ∧ typed.cursorOffset = 2 ∧
        erased.buffer.text = ['\n'] ∧ erased.cursorOffset = 0 := by
  have he : Reachable ⟨[]⟩ _ := .first {} [.char 'i']
  exact ⟨_, he, by decide +kernel⟩

end Editor

end ModalEditor
