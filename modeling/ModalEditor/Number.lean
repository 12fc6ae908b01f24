import ModalEditor.Text.Position

/-!
# Numbers that users type

Limits and counts are at most `maxCount`. A typed number that would be larger is refused; a count
that would become larger stays at the maximum.
-/

namespace ModalEditor

/-- The largest count and the largest limit: the largest number of 64 bits. -/
def maxCount : Nat := 0xFFFFFFFFFFFFFFFF

/-- The number that decimal digits write. -/
def ofDigits (digits : Text) : Nat := digits.foldl (fun n c => 10 * n + (c.toNat - '0'.toNat)) 0

/-- Reads a number: decimal digits, at least one, after a plus sign or none. -/
def readNumber? (t : Text) : Option Nat :=
  let digits := if t.head? = some '+' then t.tail else t
  if digits.isEmpty || !digits.all Char.isDigit then none
  else if maxCount < ofDigits digits then none
  else some (ofDigits digits)

/-- The decimal digits of a number. -/
def showNumber (n : Nat) : Text := Nat.toDigits 10 n

/-- A count after one more digit. -/
def pushDigit (count digit : Nat) : Nat := min (min (count * 10) maxCount + digit) maxCount

/-- The product of two counts. -/
def mulCounts (a b : Nat) : Nat := min (a * b) maxCount

theorem pushDigit_eq (count digit : Nat) : pushDigit count digit = min (10 * count + digit) maxCount := by
  unfold pushDigit; omega

end ModalEditor
