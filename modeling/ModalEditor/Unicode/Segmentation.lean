import ModalEditor.Unicode.Binary
import ModalEditor.Unicode.ScriptTable

/-!
# Where texts break

The three properties by which the standard finds the borders between graphemes, words and sentences,
as sets of characters. Most of their values follow from general categories and binary properties;
the rest are listed.
-/

namespace ModalEditor.Unicode

open CharSet

/-- The set that a script's own characters form, by one of its names. -/
def scriptSet (name : String) : CharSet :=
  ofText ((scripts.find? fun s => s.names.contains name).elim "" (·.own))

/-! ### Graphemes -/

/-- The part that a character plays in a grapheme. -/
inductive GraphemeBreak where
  /-- Carriage return. -/
  | cr
  /-- Stands apart from its neighbours. -/
  | control
  /-- Attaches to what comes before. -/
  | extend
  /-- A leading consonant of Hangul. -/
  | l
  /-- Line feed. -/
  | lf
  /-- A syllable of Hangul that ends in a vowel. -/
  | lv
  /-- A syllable of Hangul that ends in a consonant. -/
  | lvt
  /-- Attaches to what comes after. -/
  | prepend
  /-- Half of a flag. -/
  | regionalIndicator
  /-- A mark that takes space and attaches to what comes before. -/
  | spacingMark
  /-- A trailing consonant of Hangul. -/
  | t
  /-- A vowel of Hangul. -/
  | v
  /-- The joiner of emoji. -/
  | zwj
  deriving DecidableEq

namespace GraphemeBreak

/-- The value of a name, long or short, in small letters without separators. -/
def ofName? (name : String) : Option GraphemeBreak :=
  match name with
  | "cr" => some cr
  | "control" | "cn" => some control
  | "extend" | "ex" => some extend
  | "l" => some l
  | "lf" => some lf
  | "lv" => some lv
  | "lvt" => some lvt
  | "prepend" | "pp" => some prepend
  | "regionalindicator" | "ri" => some regionalIndicator
  | "spacingmark" | "sm" => some spacingMark
  | "t" => some t
  | "v" => some v
  | "zwj" => some zwj
  | _ => none

/-- How many steps of derivation a value is away from those that are listed. -/
def rank : GraphemeBreak → Nat
  | control | spacingMark => 2
  | extend | lvt => 1
  | _ => 0

/-- The characters with a value. -/
def set : GraphemeBreak → CharSet
  | cr => ofText "D"
  | lf => ofText "A"
  | zwj => ofText "200D"
  | extend =>
    (BinaryProperty.graphemeExtend.set.union BinaryProperty.emojiModifier.set).diff zwj.set
  | prepend => BinaryProperty.prependedConcatenationMark.set.union
      (ofText "D4E 111C2-111C3 113D1 1193F 11941 11A3A 11A84-11A89 11D46 11F02")
  | control =>
    let ignorable := BinaryProperty.defaultIgnorable.set.diff assigned
    let others := unionAll [cr.set, lf.set, zwj.set, extend.set, prepend.set]
    ((ofCategories [.zl, .zp, .cc, .cf]).diff others).union ignorable
  | spacingMark =>
    let others := extend.set.union (ofText
      "102B-102C 1038 1062-1064 1067-106D 1083 1087-108C 108F 109A-109C 1A61 1A63-1A64 AA7B AA7D
       11720-11721")
    ((ofCategories [.mc]).diff others).union (ofText "E33 EB3")
  | regionalIndicator => BinaryProperty.regionalIndicator.set
  | l => ofText "1100-115F A960-A97C"
  | v => ofText "1160-11A7 D7B0-D7C6 16D63 16D67-16D6A"
  | t => ofText "11A8-11FF D7CB-D7FB"
  | lv => ofText "AC00-D788/1C"
  | lvt => (ofText "AC00-D7A3").diff lv.set
termination_by b => b.rank
decreasing_by all_goals decide

end GraphemeBreak

/-! ### Words -/

/-- The part that a character plays in a word. -/
inductive WordBreak where
  /-- A letter. -/
  | aLetter
  /-- Carriage return. -/
  | cr
  /-- The double quotation mark. -/
  | doubleQuote
  /-- Attaches to what comes before. -/
  | extend
  /-- Joins letters and digits, as the underscore does. -/
  | extendNumLet
  /-- A format control. -/
  | format
  /-- A letter of Hebrew. -/
  | hebrewLetter
  /-- A character of Katakana. -/
  | katakana
  /-- Line feed. -/
  | lf
  /-- May stand between letters. -/
  | midLetter
  /-- May stand between digits. -/
  | midNum
  /-- May stand between letters or between digits. -/
  | midNumLet
  /-- Another end of a line. -/
  | newline
  /-- A digit. -/
  | numeric
  /-- Half of a flag. -/
  | regionalIndicator
  /-- The single quotation mark. -/
  | singleQuote
  /-- A space that divides words. -/
  | segmentSpace
  /-- The joiner of emoji. -/
  | zwj
  deriving DecidableEq

namespace WordBreak

/-- The value of a name, long or short, in small letters without separators. -/
def ofName? (name : String) : Option WordBreak :=
  match name with
  | "aletter" | "le" => some aLetter
  | "cr" => some cr
  | "doublequote" | "dq" => some doubleQuote
  | "extend" => some extend
  | "extendnumlet" | "ex" => some extendNumLet
  | "format" | "fo" => some format
  | "hebrewletter" | "hl" => some hebrewLetter
  | "katakana" | "ka" => some katakana
  | "lf" => some lf
  | "midletter" | "ml" => some midLetter
  | "midnum" | "mn" => some midNum
  | "midnumlet" | "mb" => some midNumLet
  | "newline" | "nl" => some newline
  | "numeric" | "nu" => some numeric
  | "regionalindicator" | "ri" => some regionalIndicator
  | "singlequote" | "sq" => some singleQuote
  | "wsegspace" => some segmentSpace
  | "zwj" => some zwj
  | _ => none

/-- Signs that span digits and count as one of them. -/
def numericSigns : CharSet := ofText "600-605 6DD 890-891 8E2 110BD 110CD"

/-- How many steps of derivation a value is away from those that are listed. -/
def rank : WordBreak → Nat
  | aLetter => 2
  | extend => 1
  | _ => 0

/-- The characters with a value. -/
def set : WordBreak → CharSet
  | cr => ofText "D"
  | lf => ofText "A"
  | newline => ofText "B-C 85 2028-2029"
  | zwj => ofText "200D"
  | doubleQuote => ofText "22"
  | singleQuote => ofText "27"
  | segmentSpace => ofText "20 1680 2000-2006 2008-200A 205F 3000"
  | regionalIndicator => BinaryProperty.regionalIndicator.set
  | midLetter => ofText "3A B7 387 55F 5F4 2027 FE13 FE55 FF1A"
  | midNum => ofText "2C 3B 37E 589 60C-60D 66C 7F8 2044 FE10 FE14 FE50 FE54 FF0C FF1B"
  | midNumLet => ofText "2E 2018-2019 2024 FE52 FF07 FF0E"
  | extendNumLet => ofText "5F 202F 203F-2040 2054 FE33-FE34 FE4D-FE4F FF3F"
  | numeric => unionAll [ofCategories [.nd], ofText "66B", numericSigns]
  | extend =>
    (unionAll [BinaryProperty.graphemeExtend.set, ofCategories [.mc],
      BinaryProperty.emojiModifier.set]).diff zwj.set
  | format =>
    (ofCategories [.cf]).diff (unionAll [BinaryProperty.graphemeExtend.set, numericSigns,
      ofText "70F 200B-200D"])
  | hebrewLetter => (scriptSet "hebrew").inter (ofCategories [.lo])
  | katakana => (scriptSet "katakana").union (ofText "3031-3035 309B-309C 30A0 30FC FF70")
  | aLetter =>
    let others := unionAll [BinaryProperty.ideographic.set, katakana.set, hebrewLetter.set,
      extend.set, scriptSet "hiragana", ofText
        "E00-EFF 1000-109F 1780-17FF 1950-19DF 1A20-1AAF A9E0-A9FF AA60-AADF 11700-1174F"]
    (BinaryProperty.alphabetic.set.diff others).union (ofText
      "2C2-2C5 2D2-2D7 2DE-2DF 2E5-2EB 2ED 2EF-2FF 55A-55C 55E 58A 5F3 70F A708-A716 A720-A721
       A789-A78A AB5B")
termination_by b => b.rank
decreasing_by all_goals decide

end WordBreak

/-! ### Sentences -/

/-- The part that a character plays in a sentence. -/
inductive SentenceBreak where
  /-- A full stop that may also be something else. -/
  | aTerm
  /-- Carriage return. -/
  | cr
  /-- Closes, or opens, a part of a sentence. -/
  | close
  /-- Attaches to what comes before. -/
  | extend
  /-- A format control. -/
  | format
  /-- Line feed. -/
  | lf
  /-- A small letter. -/
  | lower
  /-- A digit. -/
  | numeric
  /-- A letter without case. -/
  | oLetter
  /-- Lets the sentence go on. -/
  | sContinue
  /-- Ends a sentence. -/
  | sTerm
  /-- Another end of a line. -/
  | sep
  /-- A space. -/
  | sp
  /-- A capital letter. -/
  | upper
  deriving DecidableEq

namespace SentenceBreak

/-- The value of a name, long or short, in small letters without separators. -/
def ofName? (name : String) : Option SentenceBreak :=
  match name with
  | "aterm" | "at" => some aTerm
  | "cr" => some cr
  | "close" | "cl" => some close
  | "extend" | "ex" => some extend
  | "format" | "fo" => some format
  | "lf" => some lf
  | "lower" | "lo" => some lower
  | "numeric" | "nu" => some numeric
  | "oletter" | "le" => some oLetter
  | "scontinue" | "sc" => some sContinue
  | "sterm" | "st" => some sTerm
  | "sep" | "se" => some sep
  | "sp" => some sp
  | "upper" | "up" => some upper
  | _ => none

/-- How many steps of derivation a value is away from those that are listed. -/
def rank : SentenceBreak → Nat
  | oLetter | sTerm => 1
  | _ => 0

/-- The characters with a value. -/
def set : SentenceBreak → CharSet
  | cr => ofText "D"
  | lf => ofText "A"
  | sep => ofText "85 2028-2029"
  | aTerm => ofText "2E 2024 FE52 FF0E"
  | sContinue => ofText
    "2C-2D 3A-3B 37E 55D 60C-60D 7F8 1802 1808 2013-2014 3001 FE10-FE11 FE13-FE14 FE31-FE32
     FE50-FE51 FE54-FE55 FE58 FE63 FF0C-FF0D FF1A-FF1B FF64"
  | sTerm => BinaryProperty.sentenceTerminal.set.diff aTerm.set
  | sp => BinaryProperty.whiteSpace.set.diff (ofText "A D 85 2028-2029")
  | close => (ofCategories [.ps, .pe, .pi, .pf]).union
      (ofText "22 27 275B-2760 2E00-2E01 2E06-2E08 2E0B 1F676-1F678")
  | numeric => unionAll [ofCategories [.nd], ofText "66B-66C", WordBreak.numericSigns]
  | extend => unionAll [BinaryProperty.graphemeExtend.set, ofCategories [.mc], ofText "200D"]
  | format =>
    (ofCategories [.cf]).diff (unionAll [BinaryProperty.graphemeExtend.set,
      WordBreak.numericSigns, ofText "200C-200D"])
  | lower => BinaryProperty.lowercase.set.diff
      (BinaryProperty.graphemeExtend.set.union (ofText "10D0-10FA 10FD-10FF"))
  | upper => (BinaryProperty.uppercase.set.union (ofCategories [.lt])).diff (ofText "1C90-1CBF")
  | oLetter =>
    (BinaryProperty.alphabetic.set.union (ofText "5F3")).diff
      (unionAll [lower.set, upper.set, extend.set])
termination_by b => b.rank
decreasing_by all_goals decide

end SentenceBreak

end ModalEditor.Unicode
