import ModalEditor.Unicode.CategoryTable
import ModalEditor.Unicode.PropertyTable

/-!
# Properties of characters

The general category of a character and the properties that derive from it: alphabetic, numeric,
white space, printable, extending a grapheme. ASCII characters are decided by their ranges, all
others by table.
-/

namespace ModalEditor.Unicode

/-- The tables that list the code points, in ascending order. -/
def categoryTables : List (RangeTable Category) :=
  [categoriesEuropean, categoriesIndic, categoriesAsian, categoriesSymbol, categoriesIdeographic,
    categoriesSupplementary, categoriesHigh]

/-- The table that lists the code points around `n`. -/
def categoriesNear (n : Nat) : RangeTable Category :=
  if n < 0x600 then categoriesEuropean
  else if n < 0xE00 then categoriesIndic
  else if n < 0x2000 then categoriesAsian
  else if n < 0x3000 then categoriesSymbol
  else if n < 0x10000 then categoriesIdeographic
  else if n < 0x11A00 then categoriesSupplementary
  else categoriesHigh

/-- The general category of a character. -/
def category (c : Char) : Category :=
  match letterPairs.find? c.toNat with
  | some pair => if (c.toNat - pair.first) % 2 = 0 then .lu else .ll
  | none => ((categoriesNear c.toNat).find? c.toNat).elim .cn (·.value)

/-- Whether a character is ASCII. -/
def isAscii (c : Char) : Bool := c.toNat < 0x80

/-- Whether a character is alphabetic. -/
def isAlphabetic (c : Char) : Bool :=
  if isAscii c then c.isAlpha
  else
    let k := category c
    k.isLetter || k == .nl || otherAlphabetic.covers c.toNat

/-- Whether a character is a number of any kind. -/
def isNumeric (c : Char) : Bool :=
  if isAscii c then c.isDigit else (category c).isNumber

/-- Whether a character is white space. -/
def isWhiteSpace (c : Char) : Bool :=
  let n := c.toNat
  (0x09 ≤ n && n ≤ 0x0D) || n == 0x20 || n == 0x85 || n == 0xA0 || n == 0x1680 ||
    (0x2000 ≤ n && n ≤ 0x200A) || n == 0x2028 || n == 0x2029 || n == 0x202F || n == 0x205F ||
    n == 0x3000

/-- Whether a character attaches to the one before it. -/
def extendsGrapheme (c : Char) : Bool :=
  if isAscii c then false
  else
    let k := category c
    k == .mn || k == .me || otherGraphemeExtend.covers c.toNat

/-- Whether a character is a filler, a letter that shows nothing. -/
def isFiller (c : Char) : Bool :=
  let n := c.toNat
  n == 0x115F || n == 0x1160 || n == 0x3164 || n == 0xFFA0

/-- Whether a character shows: all but fillers, controls, formats, unassigned code points and
separators, the space being the one separator that shows. -/
def isPrintable (c : Char) : Bool :=
  if isAscii c then 0x20 ≤ c.toNat && c.toNat < 0x7F
  else
    let k := category c
    !(k.isOther || k.isSeparator || isFiller c)

end ModalEditor.Unicode
