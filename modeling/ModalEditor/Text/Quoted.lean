import ModalEditor.Text.Position
import ModalEditor.Unicode.Property

/-!
# Quoted text

Diagnostics show a text between double quotes. Quotes, backslashes and the common controls are
escaped by a letter, and what would not show on its own is written by its code point.
-/

namespace ModalEditor

/-- A number in lower-case hexadecimal digits. -/
def hexDigits (n : Nat) : Text := Nat.toDigits 16 n

/-- Whether a character shows on its own. Marks attach to the character before them; letters that do
so still show. -/
def showsAlone (c : Char) : Bool :=
  Unicode.isPrintable c && (!Unicode.extendsGrapheme c || (Unicode.category c).isLetter)

/-- How a character is written between quotes. -/
def escapeChar (c : Char) : Text :=
  if c = '\x00' then ['\\', '0']
  else if c = '\t' then ['\\', 't']
  else if c = '\r' then ['\\', 'r']
  else if c = '\n' then ['\\', 'n']
  else if c = '"' then ['\\', '"']
  else if c = '\\' then ['\\', '\\']
  else if showsAlone c then [c]
  else ['\\', 'u', '\x7b'] ++ hexDigits c.toNat ++ ['\x7d']

/-- A text between double quotes. -/
def quote (t : Text) : Text := '"' :: t.flatMap escapeChar ++ ['"']

end ModalEditor
