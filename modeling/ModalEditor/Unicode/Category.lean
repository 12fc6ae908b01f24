/-!
# General categories

Every code point has one general category. The two-letter names are those of the Unicode
standard; the first letter groups them into letters, marks, numbers, punctuation, symbols,
separators and others.
-/

namespace ModalEditor.Unicode

/-- A general category. -/
inductive Category where
  /-- An upper-case letter. -/
  | lu
  /-- A lower-case letter. -/
  | ll
  /-- A title-case letter. -/
  | lt
  /-- A modifier letter. -/
  | lm
  /-- Another letter. -/
  | lo
  /-- A non-spacing mark. -/
  | mn
  /-- A spacing mark. -/
  | mc
  /-- An enclosing mark. -/
  | me
  /-- A decimal digit. -/
  | nd
  /-- A letter number. -/
  | nl
  /-- Another number. -/
  | no
  /-- Connector punctuation. -/
  | pc
  /-- Dash punctuation. -/
  | pd
  /-- Opening punctuation. -/
  | ps
  /-- Closing punctuation. -/
  | pe
  /-- Initial quotation mark. -/
  | pi
  /-- Final quotation mark. -/
  | pf
  /-- Other punctuation. -/
  | po
  /-- A mathematical symbol. -/
  | sm
  /-- A currency symbol. -/
  | sc
  /-- A modifier symbol. -/
  | sk
  /-- Another symbol. -/
  | so
  /-- A space. -/
  | zs
  /-- The line separator. -/
  | zl
  /-- The paragraph separator. -/
  | zp
  /-- A control code. -/
  | cc
  /-- A format control. -/
  | cf
  /-- A surrogate. -/
  | cs
  /-- A private-use code point. -/
  | co
  /-- An unassigned code point. -/
  | cn
  deriving DecidableEq

namespace Category

/-- The letters. -/
def isLetter : Category → Bool
  | lu | ll | lt | lm | lo => true
  | _ => false

/-- The numbers. -/
def isNumber : Category → Bool
  | nd | nl | no => true
  | _ => false

/-- Separators. -/
def isSeparator : Category → Bool
  | zs | zl | zp => true
  | _ => false

/-- Controls, formats, surrogates, private-use and unassigned code points. -/
def isOther : Category → Bool
  | cc | cf | cs | co | cn => true
  | _ => false

end Category

end ModalEditor.Unicode
