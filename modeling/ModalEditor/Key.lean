import ModalEditor.Text.Position

/-!
# Keys

A key is a character or one of six named keys. A host names keys by words; the interpreter itself
writes them in a bracket notation, which `ModalEditor.Key.Notation` reads back.
-/

namespace ModalEditor

/-- One keystroke. -/
inductive Key where
  /-- A character. -/
  | char (c : Char)
  /-- The escape key. -/
  | escape
  /-- Control and C. -/
  | ctrlC
  /-- The backspace key. -/
  | backspace
  /-- The enter key. -/
  | enter
  /-- Control and R. -/
  | ctrlR
  /-- Control and V. -/
  | ctrlV
  deriving DecidableEq

namespace Key

/-- Whether the key leaves every mode for normal mode. -/
def isEscape : Key → Bool
  | escape | ctrlC => true
  | _ => false

/-- The words by which a host names keys. -/
def hostNames : List (Text × Key) := [
  (['e', 's', 'c'], escape),
  (['e', 's', 'c', 'a', 'p', 'e'], escape),
  (['c', 't', 'r', 'l', '-', 'c'], ctrlC),
  (['b', 'a', 'c', 'k', 's', 'p', 'a', 'c', 'e'], backspace),
  (['e', 'n', 't', 'e', 'r'], enter),
  (['\r'], enter),
  (['c', 't', 'r', 'l', '-', 'r'], ctrlR),
  (['c', 't', 'r', 'l', '-', 'v'], ctrlV)]

/-- The key of a host's name: one of the words, or a single character for itself. -/
def ofName? (name : Text) : Option Key :=
  match hostNames.lookup name with
  | some key => some key
  | none =>
    match name with
    | [c] => some (char c)
    | _ => none

end Key

end ModalEditor
