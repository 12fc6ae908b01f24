import ModalEditor.Text.Position
import ModalEditor.Unicode.CharSet

/-!
# Named classes of ASCII characters

Inside brackets a pattern can name a class of ASCII characters, such as `[:alpha:]`.
-/

namespace ModalEditor.Pattern

open Unicode (CharSet)

/-- The named classes of ASCII characters. -/
inductive AsciiClass where
  /-- Letters and digits. -/
  | alnum
  /-- Letters. -/
  | alpha
  /-- All of ASCII. -/
  | ascii
  /-- Space and tab. -/
  | blank
  /-- Controls. -/
  | cntrl
  /-- Digits. -/
  | digit
  /-- What shows and is no space. -/
  | graph
  /-- Small letters. -/
  | lower
  /-- What shows. -/
  | print
  /-- Punctuation. -/
  | punct
  /-- White space. -/
  | space
  /-- Capital letters. -/
  | upper
  /-- Letters, digits and the underscore. -/
  | word
  /-- Hexadecimal digits. -/
  | xdigit
  deriving DecidableEq

namespace AsciiClass

/-- The class of a name. -/
def ofName? : Text → Option AsciiClass
  | ['a', 'l', 'n', 'u', 'm'] => some alnum
  | ['a', 'l', 'p', 'h', 'a'] => some alpha
  | ['a', 's', 'c', 'i', 'i'] => some ascii
  | ['b', 'l', 'a', 'n', 'k'] => some blank
  | ['c', 'n', 't', 'r', 'l'] => some cntrl
  | ['d', 'i', 'g', 'i', 't'] => some digit
  | ['g', 'r', 'a', 'p', 'h'] => some graph
  | ['l', 'o', 'w', 'e', 'r'] => some lower
  | ['p', 'r', 'i', 'n', 't'] => some print
  | ['p', 'u', 'n', 'c', 't'] => some punct
  | ['s', 'p', 'a', 'c', 'e'] => some space
  | ['u', 'p', 'p', 'e', 'r'] => some upper
  | ['w', 'o', 'r', 'd'] => some word
  | ['x', 'd', 'i', 'g', 'i', 't'] => some xdigit
  | _ => none

/-- The characters of a class. -/
def set : AsciiClass → CharSet
  | alnum => .ofText "30-39 41-5A 61-7A"
  | alpha => .ofText "41-5A 61-7A"
  | ascii => .ofText "0-7F"
  | blank => .ofText "9 20"
  | cntrl => .ofText "0-1F 7F"
  | digit => .ofText "30-39"
  | graph => .ofText "21-7E"
  | lower => .ofText "61-7A"
  | print => .ofText "20-7E"
  | punct => .ofText "21-2F 3A-40 5B-60 7B-7E"
  | space => .ofText "9-D 20"
  | upper => .ofText "41-5A"
  | word => .ofText "30-39 41-5A 5F 61-7A"
  | xdigit => .ofText "30-39 41-46 61-66"

end AsciiClass

end ModalEditor.Pattern
