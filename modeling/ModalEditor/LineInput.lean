import ModalEditor.Text.Position

/-!
# Line input

A search query or a command is typed into a single line with a cursor.
-/

namespace ModalEditor

/-- A line being typed. -/
structure LineInput where
  /-- What has been typed. -/
  text : Text := []
  /-- Where the next character goes. -/
  cursor : Nat := 0
  deriving DecidableEq, Inhabited

namespace LineInput

/-- Whether nothing has been typed. -/
def isEmpty (l : LineInput) : Bool := l.text.isEmpty

/-- Puts a character at the cursor. -/
def insert (l : LineInput) (c : Char) : LineInput :=
  ⟨l.text.take l.cursor ++ c :: l.text.drop l.cursor, l.cursor + 1⟩

/-- Removes the character before the cursor; nothing at the start of the line. -/
def backspace (l : LineInput) : LineInput :=
  if l.cursor = 0 then l else ⟨l.text.eraseIdx (l.cursor - 1), l.cursor - 1⟩

/-- Typing at the end of the line adds to its end. -/
theorem insert_of_atEnd {l : LineInput} (h : l.cursor = l.text.length) (c : Char) :
    l.insert c = ⟨l.text ++ [c], l.text.length + 1⟩ := by
  simp [insert, h]

/-- A backspace at the end of the line drops the last character. -/
theorem backspace_of_atEnd {l : LineInput} (h : l.cursor = l.text.length) :
    l.backspace = ⟨l.text.dropLast, l.text.length - 1⟩ := by
  unfold backspace
  split
  · rename_i h0
    cases l
    simp_all
  · simp [h, List.eraseIdx_length_sub_one]

end LineInput

end ModalEditor
