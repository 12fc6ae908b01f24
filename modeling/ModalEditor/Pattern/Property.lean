import ModalEditor.Pattern.AsciiClass
import ModalEditor.Unicode.AgeTable
import ModalEditor.Unicode.Segmentation

/-!
# Properties by name

A pattern names a set of characters by a property of the standard: a binary property, a general
category or a script stands alone, and some properties take a value. Names are compared without
case, blanks, hyphens and underscores. This module also holds the three classes that have a letter
of their own.
-/

namespace ModalEditor.Pattern

open Unicode (CharSet BinaryProperty GraphemeBreak WordBreak SentenceBreak)

/-! ### Classes with a letter -/

/-- The decimal digits of all scripts. -/
def digitSet : CharSet := .ofCategories [.nd]

/-- White space. -/
def spaceSet : CharSet := BinaryProperty.whiteSpace.set

/-- Word characters: alphabetic characters, marks, decimal digits, connecting punctuation and the
joiners. -/
def wordSet : CharSet :=
  .unionAll [BinaryProperty.alphabetic.set, .ofCategories [.mn, .mc, .me, .nd, .pc],
    BinaryProperty.joinControl.set]

/-- ASCII word characters. -/
def asciiWordSet : CharSet := AsciiClass.word.set

/-! ### Names -/

/-- A name as it is looked up: without a leading `is`, in small letters, and without blanks,
hyphens, underscores and what is not ASCII. The one name that needs its `is` keeps it. -/
def looseName (t : Text) : String :=
  let spelled (t : Text) : Text :=
    (t.filter fun c => Unicode.isAscii c && c != ' ' && c != '_' && c != '-').map Char.toLower
  match t with
  | a :: b :: rest =>
    if a.toLower = 'i' && b.toLower = 's' then
      if spelled rest = ['c'] then "isc" else String.ofList (spelled rest)
    else String.ofList (spelled t)
  | _ => String.ofList (spelled t)

open Unicode.Category in
/-- The general categories of a name. Surrogates have none, as they are no characters. -/
def categoriesOf? (name : String) : Option (List Unicode.Category) :=
  match name with
  | "lu" | "uppercaseletter" => some [lu]
  | "ll" | "lowercaseletter" => some [ll]
  | "lt" | "titlecaseletter" => some [lt]
  | "lc" | "casedletter" => some [lu, ll, lt]
  | "lm" | "modifierletter" => some [lm]
  | "lo" | "otherletter" => some [lo]
  | "l" | "letter" => some [lu, ll, lt, lm, lo]
  | "mn" | "nonspacingmark" => some [mn]
  | "mc" | "spacingmark" => some [mc]
  | "me" | "enclosingmark" => some [me]
  | "m" | "mark" | "combiningmark" => some [mn, mc, me]
  | "nd" | "decimalnumber" | "digit" => some [nd]
  | "nl" | "letternumber" => some [nl]
  | "no" | "othernumber" => some [no]
  | "n" | "number" => some [nd, nl, no]
  | "pc" | "connectorpunctuation" => some [pc]
  | "pd" | "dashpunctuation" => some [pd]
  | "ps" | "openpunctuation" => some [ps]
  | "pe" | "closepunctuation" => some [pe]
  | "pi" | "initialpunctuation" => some [pi]
  | "pf" | "finalpunctuation" => some [pf]
  | "po" | "otherpunctuation" => some [po]
  | "p" | "punctuation" | "punct" => some [pc, pd, ps, pe, pi, pf, po]
  | "sm" | "mathsymbol" => some [sm]
  | "sc" | "currencysymbol" => some [sc]
  | "sk" | "modifiersymbol" => some [sk]
  | "so" | "othersymbol" => some [so]
  | "s" | "symbol" => some [sm, sc, sk, so]
  | "zs" | "spaceseparator" => some [zs]
  | "zl" | "lineseparator" => some [zl]
  | "zp" | "paragraphseparator" => some [zp]
  | "z" | "separator" => some [zs, zl, zp]
  | "cc" | "control" | "cntrl" => some [cc]
  | "cf" | "format" => some [cf]
  | "co" | "privateuse" => some [co]
  | _ => none

/-- The set of a general category, or of one of the wider classes that are named like one. -/
def generalSet? (name : String) : Option CharSet :=
  match name with
  | "any" => some .full
  | "ascii" => some AsciiClass.ascii.set
  | "assigned" => some .assigned
  | "cn" | "unassigned" => some CharSet.assigned.compl
  | "c" | "other" => some ((CharSet.ofCategories [.cc, .cf, .co]).union CharSet.assigned.compl)
  | _ => (categoriesOf? name).map .ofCategories

/-- The script of a name. -/
def script? (name : String) : Option Unicode.Script :=
  Unicode.scripts.find? fun s => s.names.contains name

/-- The characters that texts in a script use: its own, without those that are shared among other
scripts if it stands for no script at all, and those that it shares. -/
def extendedScript (s : Unicode.Script) : CharSet :=
  let own := CharSet.ofText s.own
  if s.names.contains "common" || s.names.contains "inherited" then
    own.diff (.unionAll (Unicode.scripts.map fun s => .ofText s.shared))
  else own.union (.ofText s.shared)

/-- What was assigned up to the version of a name, which is its number or the number without dot
after a `v`. -/
def ageSet? (name : String) : Option CharSet :=
  let isNamed (e : Unicode.Edition) : Bool :=
    name == toString e.major ++ "." ++ toString e.minor ||
      name == "v" ++ toString e.major ++ toString e.minor
  (Unicode.editions.findIdx? isNamed).map fun i =>
    .unionAll ((Unicode.editions.take (i + 1)).map fun e => .ofText e.added)

/-- The set of a name that stands alone. -/
def namedSet? (name : String) : Option CharSet :=
  match BinaryProperty.ofName? name with
  | some p => some p.set
  | none =>
    match generalSet? name with
    | some s => some s
    | none => (script? name).map fun s => .ofText s.own

/-- The set of a property and its value. -/
def valuedSet? (name value : String) : Option CharSet :=
  match name with
  | "gc" | "generalcategory" => generalSet? value
  | "sc" | "script" => (script? value).map fun s => .ofText s.own
  | "scx" | "scriptextensions" => (script? value).map extendedScript
  | "age" => ageSet? value
  | "gcb" | "graphemeclusterbreak" => (GraphemeBreak.ofName? value).map (·.set)
  | "wb" | "wordbreak" => (WordBreak.ofName? value).map (·.set)
  | "sb" | "sentencebreak" => (SentenceBreak.ofName? value).map (·.set)
  | _ => none

/-- Splits a text at the first place where a separator stands. -/
def splitAtFirst (separator : Text) : Text → Option (Text × Text)
  | [] => none
  | c :: t =>
    if separator.isPrefixOf (c :: t) then some ([], (c :: t).drop separator.length)
    else (splitAtFirst separator t).map fun (front, back) => (c :: front, back)

/-- The set that a property stands for, and whether its complement is meant: `name`, `name=value`,
`name:value`, or `name!=value` for the complement. -/
def propertySet? (t : Text) : Option (CharSet × Bool) :=
  let valued (pair : Text × Text) : Option CharSet :=
    valuedSet? (looseName pair.1) (looseName pair.2)
  match splitAtFirst ['!', '='] t with
  | some pair => (valued pair).map (·, true)
  | none =>
    match splitAtFirst [':'] t with
    | some pair => (valued pair).map (·, false)
    | none =>
      match splitAtFirst ['='] t with
      | some pair => (valued pair).map (·, false)
      | none => (namedSet? (looseName t)).map (·, false)

end ModalEditor.Pattern
