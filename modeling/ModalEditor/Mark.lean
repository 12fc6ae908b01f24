import ModalEditor.Slots
import ModalEditor.Text.Position

/-!
# Marks

A mark remembers a position under a character. Marks do not follow edits, and undo leaves them
alone.
-/

namespace ModalEditor

/-- The marks that are set. -/
abbrev MarkSet := Slots Position

end ModalEditor
