import ModalEditor.Unicode.CharSet
import ModalEditor.Unicode.Property

/-!
# The characters that patterns know

The rules for words and for quoted text know every assigned character. Classes in patterns are fixed
at an earlier state of the standard: the characters that came later are unassigned to them, and one
letter is of another category. This module gives the categories as sets, as patterns see them.
-/

namespace ModalEditor.Unicode

/-- The assigned characters that patterns take for unassigned. -/
def laterAdditions : CharSet := .ofText
  "88F C5C CDC 1ACF-1ADD 1AE0-1AEB 20C1 2B96 A7CE-A7CF A7D2 A7D4 A7F1 FBC3-FBD2 FD90-FD91
   FDC8-FDCE 10940-10959 10EC5-10EC7 10ED0-10ED8 10EFA-10EFB 11B60-11B67 11DB0-11DDB 11DE0-11DE9
   16EA0-16EB8 16EBB-16ED3 16FF2-16FF6 187F8-187FF 18D09-18D1E 18D80-18DF2 1CCFA-1CCFC
   1CEBA-1CED0 1CEE0-1CEF0 1E6C0-1E6DE 1E6E0-1E6F5 1E6FE-1E6FF 1F6D8 1F777-1F77A 1F8D0-1F8D8
   1FA54-1FA57 1FA8A 1FA8E 1FAC8 1FACD 1FAEA 1FAEF 1FBFA 2B73A-2B73F 2CEA2-2CEAD 323B0-33479"

/-- The pharyngeal voiced fricative, which patterns take for a small letter. -/
def pharyngealFricative : CharSet := .single '\u0295'

namespace CharSet

/-- The characters of a table, as patterns know them. -/
def ofTable {α : Type} (table : RangeTable α) : CharSet :=
  (ofRanges (table.toList.map fun e => (e.first, e.last))).diff laterAdditions

/-- Every second code point of the ranges in `letterPairs`, from the first or the second on. -/
def ofPairs (offset : Nat) : CharSet :=
  ofRanges (letterPairs.toList.flatMap fun e =>
    (List.range ((e.last - e.first + 2 - offset) / 2)).map fun i =>
      (e.first + offset + 2 * i, e.first + offset + 2 * i))

/-- The characters whose general category is among `ks`. -/
def ofCategories (ks : List Category) : CharSet :=
  let listed := categoryTables.map fun table =>
    ofTable (table.filter fun e => ks.contains e.value && e.value != .cs)
  let pairs := [(Category.lu, 0), (Category.ll, 1)].map fun (k, offset) =>
    if ks.contains k then (ofPairs offset).diff laterAdditions else empty
  let all := unionAll (listed ++ pairs)
  if ks.contains .ll then all.union pharyngealFricative else all.diff pharyngealFricative

/-- The characters that are assigned. -/
def assigned : CharSet :=
  unionAll (ofTable letterPairs :: categoryTables.map fun table =>
    ofTable (table.filter fun e => e.value != .cs))

end CharSet

end ModalEditor.Unicode
