import ModalEditor.Interpreter

/-!
# Runs

What every call of the interpreter keeps. `Reachable` are the editors that calls lead to, each on
the buffer and the state that the one before returned. A property that holds at the start and that
one key keeps, typed or played, holds of them all (`Invariant.reachable`). Between two calls the
cursor is in order (`Reachable.clampCursor_eq`).
-/

namespace ModalEditor

namespace Editor

/-- The buffer and the state that a call answers. -/
def ofResult (r : Buffer × State) : Editor := { toState := r.2, buffer := r.1 }

/-- The editor after a call with some keys. -/
def after (e : Editor) (settings : Settings) (keys : List Key) : Editor :=
  ofResult (interpret settings e.buffer (some e.toState) keys)

/-- Where a call without a state begins. -/
def start (b : Buffer) : Editor := { toState := State.initial b, buffer := b }

/-- The editors that calls lead to from a text, the first call without a state. The settings may
change from call to call. -/
inductive Reachable (b : Buffer) : Editor → Prop where
  /-- The first call. -/
  | first (settings : Settings) (keys : List Key) :
    Reachable b (ofResult (interpret settings b none keys))
  /-- Another call. -/
  | next {e : Editor} (settings : Settings) (keys : List Key) :
    Reachable b e → Reachable b (e.after settings keys)

theorem after_eq_typeKeys (e : Editor) (settings : Settings) (keys : List Key) :
    e.after settings keys = (e.typeKeys settings (.ofSettings settings) keys).1 := rfl

theorem after_singleton_of_done {e e' : Editor} {settings : Settings} {key : Key}
    (h : (e.capture key).press settings key = .done e') :
    e.after settings [key] = e'.clampCursor := by
  simp only [after_eq_typeKeys, typeKeys, typeKey, h]

/-- A key that plays nothing may as well have a call of its own. -/
theorem after_cons_of_done {e e' : Editor} {settings : Settings} {key : Key}
    (h : (e.capture key).press settings key = .done e') (keys : List Key) :
    e.after settings (key :: keys) = (e.after settings [key]).after settings keys := by
  simp only [after_eq_typeKeys, typeKeys, typeKey, h]

/-! ### Invariants -/

/-- A property that one key keeps, and all that is done around it. -/
structure Invariant (P : Editor → Prop) : Prop where
  /-- A macro being recorded changes nothing. -/
  capture {e : Editor} (key : Key) : P e → P (e.capture key)
  /-- Nor does putting the cursor in order. -/
  clampCursor {e : Editor} : P e → P e.clampCursor
  /-- A key keeps it. -/
  done {e e' : Editor} {settings : Settings} {key : Key} :
    P e → e.press settings key = .done e' → P e'
  /-- So does a key that has a macro played. -/
  play {e e' : Editor} {settings : Settings} {key : Key} {keys : List Key} {times : Nat} :
    P e → e.press settings key = .play e' keys times → P e'

namespace Invariant

variable {P : Editor → Prop}

theorem replay (hP : Invariant P) (settings : Settings) (a : Allowance) (frames : List Frame)
    (e : Editor) (he : P e) : P (e.replay settings a frames).1 := by
  fun_induction Editor.replay settings a frames e with
  | case1 => exact hP.clampCursor he
  | case2 => exact hP.clampCursor he
  | case3 a frames e key rest hnext a' hspend e' hpress ih =>
    exact ih (hP.clampCursor (hP.done he hpress))
  | case4 a frames e key rest hnext a' hspend e' keys times hpress hdepth ih =>
    exact ih (hP.play he hpress)
  | case5 a frames e key rest hnext a' hspend e' keys times hpress hdepth ih =>
    exact ih (hP.clampCursor (hP.play he hpress))

theorem typeKey (hP : Invariant P) (settings : Settings) (a : Allowance) {e : Editor} (he : P e)
    (key : Key) : P (e.typeKey settings a key).1 := by
  have hcap := hP.capture key he
  unfold Editor.typeKey
  split
  · rename_i hpress
    exact hP.clampCursor (hP.done hcap hpress)
  · rename_i hpress
    split
    · exact hP.replay settings a _ _ (hP.play hcap hpress)
    · exact hP.clampCursor (hP.play hcap hpress)

theorem typeKeys (hP : Invariant P) (settings : Settings) (a : Allowance) {e : Editor} (he : P e)
    (keys : List Key) : P (e.typeKeys settings a keys).1 := by
  induction keys generalizing a e with
  | nil => exact he
  | cons key keys ih => exact ih _ (hP.typeKey settings a he key)

theorem after (hP : Invariant P) {e : Editor} (he : P e) (settings : Settings) (keys : List Key) :
    P (e.after settings keys) := hP.typeKeys settings _ he keys

/-- **What one key keeps, every run keeps.** -/
theorem reachable (hP : Invariant P) {b : Buffer} (hstart : P (start b)) {e : Editor}
    (he : Reachable b e) : P e := by
  induction he with
  | first settings keys => exact hP.after hstart settings keys
  | next settings keys _ ih => exact hP.after ih settings keys

end Invariant

/-! ### The cursor between two calls -/

theorem clampCursor_replay (settings : Settings) (a : Allowance) (frames : List Frame)
    (e : Editor) :
    (e.replay settings a frames).1.clampCursor = (e.replay settings a frames).1 := by
  fun_induction Editor.replay settings a frames e with
  | case1 => exact clampCursor_clampCursor _
  | case2 => exact clampCursor_clampCursor _
  | case3 _ _ _ _ _ _ _ _ _ _ ih => exact ih
  | case4 _ _ _ _ _ _ _ _ _ _ _ _ _ ih => exact ih
  | case5 _ _ _ _ _ _ _ _ _ _ _ _ _ ih => exact ih

theorem clampCursor_typeKey (settings : Settings) (a : Allowance) (e : Editor) (key : Key) :
    (e.typeKey settings a key).1.clampCursor = (e.typeKey settings a key).1 := by
  unfold typeKey
  split
  · exact clampCursor_clampCursor _
  · split
    · exact clampCursor_replay settings a _ _
    · exact clampCursor_clampCursor _

theorem clampCursor_typeKeys (settings : Settings) (a : Allowance) {e : Editor}
    (he : e.clampCursor = e) (keys : List Key) :
    (e.typeKeys settings a keys).1.clampCursor = (e.typeKeys settings a keys).1 := by
  induction keys generalizing a e with
  | nil => exact he
  | cons key keys ih => exact ih _ (clampCursor_typeKey settings a e key)

theorem clampCursor_of_eq {e e' : Editor} (he : e.clampCursor = e) (hbuffer : e'.buffer = e.buffer)
    (hmode : e'.mode = e.mode) (hcursor : e'.cursor = e.cursor) : e'.clampCursor = e' := by
  have hcols (row : Nat) : e'.lastColumn row = e.lastColumn row := by
    simp only [lastColumn, hbuffer, hmode]
  have hclamped : e'.clampCursor.cursor = e'.cursor :=
    calc
      e'.clampCursor.cursor = e.clampCursor.cursor := by
        simp only [clampCursor, hbuffer, hcursor, hcols]
      _ = e.cursor := by rw [he]
      _ = e'.cursor := hcursor.symm
  show ({ e' with cursor := e'.clampCursor.cursor } : Editor) = e'
  rw [hclamped]

theorem cursor_le_of_clampCursor_eq {e : Editor} (he : e.clampCursor = e) :
    e.cursor.row ≤ e.buffer.lastRow ∧ e.cursor.col ≤ e.buffer.rowLength e.cursor.row := by
  have hcursor : e.clampCursor.cursor = e.cursor := congrArg (·.cursor) he
  have hrow : min e.cursor.row e.buffer.lastRow = e.cursor.row := congrArg Position.row hcursor
  have hcol : min e.cursor.col (e.lastColumn (min e.cursor.row e.buffer.lastRow)) = e.cursor.col :=
    congrArg Position.col hcursor
  have hlast : e.lastColumn e.cursor.row ≤ e.buffer.rowLength e.cursor.row := by
    unfold lastColumn
    split
    · exact Nat.le_refl _
    · exact Nat.sub_le _ _
  rw [hrow] at hcol
  exact ⟨by omega, by omega⟩

theorem clampCursor_after {e : Editor} (he : e.clampCursor = e) (settings : Settings)
    (keys : List Key) : (e.after settings keys).clampCursor = e.after settings keys :=
  clampCursor_typeKeys settings _ he keys

/-- **Between two calls the cursor is in the text**, as far right as the mode allows. -/
theorem Reachable.clampCursor_eq {b : Buffer} {e : Editor} (he : Reachable b e) :
    e.clampCursor = e := by
  induction he with
  | first settings keys =>
    have hstart : (start b).clampCursor = start b := by
      simp [clampCursor, start, State.initial, State.checkpoint, Position.origin]
    exact clampCursor_after hstart settings keys
  | next settings keys _ ih => exact clampCursor_after ih settings keys

end Editor

end ModalEditor
