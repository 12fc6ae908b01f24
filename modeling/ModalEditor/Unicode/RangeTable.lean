/-!
# Tables of code point ranges

A property of code points is stored as an ascending array of disjoint ranges, each with a value,
and looked up by halving.
-/

namespace ModalEditor.Unicode

/-- The code points `first` to `last`, both included, with their common value. -/
structure RangeEntry (α : Type) where
  /-- The first code point. -/
  first : Nat
  /-- The last code point. -/
  last : Nat
  /-- What holds of them. -/
  value : α

/-- Ranges in ascending order, no two of which overlap. -/
abbrev RangeTable (α : Type) := Array (RangeEntry α)

namespace RangeTable

/-- Looks for `n` among the entries with index at least `lo` and less than `hi`. -/
def search {α : Type} (table : RangeTable α) (n lo hi : Nat) : Option (RangeEntry α) :=
  if lo < hi then
    match table[(lo + hi) / 2]? with
    | none => none
    | some entry =>
      if n < entry.first then search table n lo ((lo + hi) / 2)
      else if entry.last < n then search table n ((lo + hi) / 2 + 1) hi
      else some entry
  else none
termination_by hi - lo

/-- The entry whose range holds `n`. -/
def find? {α : Type} (table : RangeTable α) (n : Nat) : Option (RangeEntry α) :=
  search table n 0 table.size

/-- Whether some range holds `n`. -/
def covers {α : Type} (table : RangeTable α) (n : Nat) : Bool :=
  (table.find? n).isSome

end RangeTable

end ModalEditor.Unicode
