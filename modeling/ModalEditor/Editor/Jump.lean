import ModalEditor.Editor.Motion

/-!
# Jumps to a character

A jump leads to an occurrence of a character in the row of the cursor, or right next to it. The
last jump is remembered and can be repeated either way; a repeated jump that stops next to its
character skips one that is next to the cursor already, so that it gets on.
-/

namespace ModalEditor

/-- The columns of a row in which a character stands. -/
def columnsOf (row : Text) (c : Char) : List Nat :=
  row.zipIdx.filterMap fun (d, i) => if d = c then some i else none

/-- The occurrences that a jump from column `col` can lead to, nearest first. `skip` says how many
columns next to the cursor do not count. -/
def Jump.candidates (j : Jump) (row : Text) (col skip : Nat) : List Nat :=
  match j.direction with
  | .forward => (columnsOf row j.target).filter (col + skip < ·)
  | .backward => ((columnsOf row j.target).filter (· < col - skip)).reverse

/-- The column in which a jump to an occurrence stops. -/
def Jump.landing (j : Jump) (found : Nat) : Nat :=
  match j.kind, j.direction with
  | .find, _ => found
  | .till, .forward => found - 1
  | .till, .backward => found + 1

/-- The column that the `count`-th occurrence leads to. -/
def Jump.column? (j : Jump) (row : Text) (col count : Nat) (again : Bool) : Option Nat :=
  let skip := if again && j.kind == .till then 1 else 0
  ((j.candidates row col skip)[count - 1]?).map j.landing

namespace Editor

/-- Jumps as often as the counts say. Nothing moves if there are too few occurrences. -/
def jump (e : Editor) (j : Jump) (again : Bool) : Editor :=
  let row := e.cursor.row
  match j.column? (e.buffer.rowText row) e.cursor.col e.count again with
  | some col => e.reach (.char (e.buffer.rowStart row + col) (j.direction = .forward))
  | none => e.clearPending

/-- Jumps and remembers the jump. -/
def startJump (e : Editor) (j : Jump) : Editor := { e with lastJump := some j }.jump j false

/-- Repeats the last jump, or its reverse. -/
def repeatJump (e : Editor) (reverse : Bool) : Editor :=
  match e.lastJump with
  | some j => e.jump (if reverse then j.reverse else j) true
  | none => e.clearPending

end Editor

end ModalEditor
