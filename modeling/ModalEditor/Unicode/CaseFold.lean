import ModalEditor.Unicode.CaseFoldTable
import ModalEditor.Unicode.CharSet

/-!
# Case variants

Two characters are case variants of each other when simple case folding maps them to the same
character. A set is closed under case variants by folding its members and taking in all that folds
to the result.
-/

namespace ModalEditor.Unicode

namespace FoldRun

/-- The ranges of the code points that are folded by the run and lie from `first` to `last`, all
moved by `shift`. -/
def moved (r : FoldRun) (shift : Int) (first last : Nat) : List (Nat × Nat) :=
  let first := r.first + (Nat.max first r.first - r.first + r.step - 1) / r.step * r.step
  let last := Nat.min last r.last
  let move (n : Nat) : Nat := ((n : Int) + shift).toNat
  if last < first then []
  else if r.step = 1 then [(move first, move last)]
  else
    (List.range ((last - first) / r.step + 1)).map fun i =>
      (move (first + r.step * i), move (first + r.step * i))

/-- What folding by the run makes of the code points from `first` to `last`. -/
def image (r : FoldRun) (first last : Nat) : List (Nat × Nat) := r.moved r.shift first last

/-- What folding by the run takes to the code points from `first` to `last`. -/
def preimage (r : FoldRun) (first last : Nat) : List (Nat × Nat) :=
  r.moved 0 ((first : Int) - r.shift).toNat ((last : Int) - r.shift).toNat

end FoldRun

namespace CharSet

/-- Adds to a set what `move` makes of its ranges, run by run. -/
def withMoved (move : FoldRun → Nat → Nat → List (Nat × Nat)) (s : CharSet) : CharSet :=
  s.union (ofRanges (foldRuns.flatMap fun r => s.ranges.flatMap fun p => move r p.1 p.2))

/-- The set with the case variants of its members. -/
def foldCase (s : CharSet) : CharSet :=
  (s.withMoved FoldRun.image).withMoved FoldRun.preimage

/-- The set with the variants of its members that differ in the case of an ASCII letter. -/
def foldAscii (s : CharSet) : CharSet :=
  let moved (first last : Nat) (shift : Int) : List (Nat × Nat) :=
    (s.inter (range first last)).ranges.map fun p =>
      (((p.1 : Int) + shift).toNat, ((p.2 : Int) + shift).toNat)
  s.union (ofRanges (moved 0x41 0x5A 32 ++ moved 0x61 0x7A (-32)))

end CharSet

end ModalEditor.Unicode
