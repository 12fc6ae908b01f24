/-!
# Parts of commands

A command may be typed in several keys. This module names the parts that wait for the keys still
to come: operators, modifiers, jumps to a character, and commands of two keys.
-/

namespace ModalEditor

/-- Which way a search or a jump goes. -/
inductive Direction where
  /-- Towards the end. -/
  | forward
  /-- Towards the start. -/
  | backward
  deriving DecidableEq

namespace Direction

/-- The other way. -/
def opposite : Direction → Direction
  | forward => backward
  | backward => forward

/-- The key that starts a search this way. -/
def searchKey : Direction → Char
  | forward => '/'
  | backward => '?'

@[simp] theorem opposite_opposite (d : Direction) : d.opposite.opposite = d := by
  cases d <;> rfl

end Direction

/-- What is done to a range of text. -/
inductive Operator where
  /-- Take it away. -/
  | delete
  /-- Take it away and type in its place. -/
  | change
  /-- Copy it. -/
  | yank
  deriving DecidableEq

/-- The operator of a key. -/
def Operator.ofKey? : Char → Option Operator
  | 'd' => some .delete
  | 'c' => some .change
  | 'y' => some .yank
  | _ => none

/-- The key of an operator. -/
def Operator.key : Operator → Char
  | .delete => 'd'
  | .change => 'c'
  | .yank => 'y'

/-- How an operator widens its range to a whole word. -/
inductive Modifier where
  /-- The word alone. -/
  | inside
  /-- The word and its surroundings, which are taken to be the word alone. -/
  | around
  deriving DecidableEq

/-- Where a jump to a character stops. -/
inductive JumpKind where
  /-- On the character. -/
  | find
  /-- Next to the character. -/
  | till
  deriving DecidableEq

/-- A jump to a character of the row. -/
structure Jump where
  /-- The character. -/
  target : Char
  /-- Where the jump stops. -/
  kind : JumpKind
  /-- Which way it goes. -/
  direction : Direction
  deriving DecidableEq

/-- The jump the other way. -/
def Jump.reverse (j : Jump) : Jump := { j with direction := j.direction.opposite }

/-- A command of two keys that waits for the second. -/
inductive Continuation where
  /-- Choose a register for the next operator or put. -/
  | setRegister
  /-- Set a mark. -/
  | setMark
  /-- Drop a mark. -/
  | deleteMark
  /-- Jump onto a character. -/
  | findChar (direction : Direction)
  /-- Jump next to a character. -/
  | toChar (direction : Direction)
  /-- Replace characters. -/
  | replaceChar
  /-- Jump to a mark. -/
  | jumpToMark
  /-- Start to record a macro. -/
  | startRecording
  /-- Play a macro. -/
  | startPlayback
  /-- Jump to a row, after the first key of two equal ones. -/
  | gotoPrefix
  deriving DecidableEq

end ModalEditor
