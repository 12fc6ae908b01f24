import ModalEditor.Unicode.CharSet

/-!
# Sets of characters as bytes

Text is stored as UTF-8, one to four bytes a character. A set of characters becomes a list of
sequences of byte ranges: a character is in the set just if its bytes lie in the ranges of one of
them, one by one.
-/

namespace ModalEditor.Pattern

open Unicode (CharSet)

/-- The bytes from `first` to `last`, both included. -/
structure ByteRange where
  /-- The first byte. -/
  first : Nat
  /-- The last byte. -/
  last : Nat
  deriving DecidableEq, Hashable

/-- The bytes of a code point. -/
def bytesOf (n : Nat) : List Nat := (String.utf8EncodeChar (Char.ofNat n)).map (·.toNat)

/-- The last code points that have one, two and three bytes. -/
def lengthLimits : List Nat := [0x7F, 0x7FF, 0xFFFF]

/-- What the last one, two and three bytes of a character can hold. -/
def tailMasks : List Nat := [0x3F, 0xFFF, 0x3FFFF]

/-- Where the first part of a range ends that is too wide for one sequence: at the last code point
of a length, at the end of the block of code points that the first one shares all but its last bytes
with, or before the block of the last one. -/
def cutAfter? (first last : Nat) : Option Nat :=
  match lengthLimits.find? fun m => first ≤ m && m < last with
  | some m => some m
  | none =>
    if last ≤ 0x7F then none
    else
      tailMasks.findSome? fun m =>
        let size := m + 1
        if first / size = last / size then none
        else if first % size ≠ 0 then some (first / size * size + m)
        else if last % size ≠ m then some (last / size * size - 1)
        else none

/-- The sequences of byte ranges of the code points from `first` to `last`. -/
def sequencesOf (first last : Nat) : List (List ByteRange) :=
  match cutAfter? first last with
  | none => [List.zipWith ByteRange.mk (bytesOf first) (bytesOf last)]
  | some m =>
    if first ≤ m ∧ m < last then sequencesOf first m ++ sequencesOf (m + 1) last
    else []
termination_by last - first

/-- The sequences of byte ranges of a set. The code points of surrogates have none. -/
def byteSequences (s : CharSet) : List (List ByteRange) :=
  s.ranges.flatMap fun (first, last) =>
    if first < 0xD800 && 0xDFFF < last then sequencesOf first 0xD7FF ++ sequencesOf 0xE000 last
    else sequencesOf first last

end ModalEditor.Pattern
