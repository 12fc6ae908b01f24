/-!
# Modes

The interpreter is always in one mode. The mode decides what a key means and how far to the right
the cursor may stand.
-/

namespace ModalEditor

/-- The shape of a visual selection. -/
inductive VisualKind where
  /-- From character to character, both included. -/
  | char
  /-- Whole rows. -/
  | line
  /-- A rectangle of rows and columns. -/
  | block
  deriving DecidableEq

/-- What keys mean. -/
inductive Mode where
  /-- Commands. -/
  | normal
  /-- Text. -/
  | insert
  /-- A command line that the host will run. -/
  | commandLine
  /-- A search query. -/
  | search
  /-- Motions that extend a selection, and operators that take it. -/
  | visual (kind : VisualKind)
  deriving DecidableEq, Inhabited

namespace Mode

/-- The name a status line shows. -/
def displayName : Mode → String
  | normal => "NORMAL"
  | insert => "INSERT"
  | commandLine => "COMMAND"
  | search => "SEARCH"
  | visual .char => "VISUAL"
  | visual .line => "VISUAL LINE"
  | visual .block => "VISUAL BLOCK"

/-- Whether the cursor may stand after the last character of its row. -/
def cursorPastEnd : Mode → Bool
  | insert => true
  | _ => false

/-- Whether keys edit a line of input. -/
def isLineInput : Mode → Bool
  | commandLine | search => true
  | _ => false

/-- Whether a selection is being made. -/
def isVisual : Mode → Bool
  | visual _ => true
  | _ => false

end Mode

end ModalEditor
