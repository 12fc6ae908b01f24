import ModalEditor.Slots
import ModalEditor.Text.Position

/-!
# Registers

A register keeps a text under a character; ASCII letters of either case name one register. Text
that an operator takes is recorded: it goes to the unnamed register and to slot `0` of a ring of
ten, whose older texts move up one slot each. A text that ends in a newline stands for whole rows.
-/

namespace ModalEditor

/-- The register that every operator writes. -/
def unnamedRegister : Char := '"'

/-- The register with the text typed in the last insert session. -/
def lastInsertRegister : Char := '.'

/-- The register with the last committed search query. -/
def searchRegister : Char := '/'

/-- The slots of the ring, newest first. -/
def ringSlots : List Char := ['0', '1', '2', '3', '4', '5', '6', '7', '8', '9']

/-! ### Letters of either case

Batteries has the like for `Char.toLower`, in a file that none of the imported ones reaches.
-/

theorem toLower_of_not_isUpper {c : Char} (h : c.isUpper = false) : c.toLower = c :=
  dif_neg (of_decide_eq_false h)

theorem isUpper_of_isLower {c : Char} (h : c.isLower = true) : c.isUpper = false := by
  have hletter : 97 ≤ c.val.toNat := of_decide_eq_true ((Bool.and_eq_true _ _).mp h).1
  refine decide_eq_false fun hcapital => ?_
  have hle : c.val.toNat ≤ 90 := hcapital.2
  omega

/-- A capital letter has the small one 32 places behind it. -/
theorem isLower_toLower {c : Char} (h : c.isUpper = true) : c.toLower.isLower = true := by
  have hcapital : 'A'.val ≤ c.val ∧ c.val ≤ 'Z'.val := of_decide_eq_true h
  have hletter : 65 ≤ c.val.toNat ∧ c.val.toNat ≤ 90 := hcapital
  have hval : c.toLower.val.toNat = c.val.toNat + 32 := by
    rw [show c.toLower = ⟨c.val + ('a'.val - 'A'.val), _⟩ from dif_pos hcapital]
    show (c.val.toNat + 32) % 2 ^ 32 = _
    omega
  have hrange : 97 ≤ c.toLower.val.toNat ∧ c.toLower.val.toNat ≤ 122 := by omega
  exact (Bool.and_eq_true _ _).mpr ⟨decide_eq_true hrange.1, decide_eq_true hrange.2⟩

@[simp] theorem isUpper_toLower (c : Char) : c.toLower.isUpper = false := by
  cases h : c.isUpper with
  | true => exact isUpper_of_isLower (isLower_toLower h)
  | false => rw [toLower_of_not_isUpper h, h]

@[simp] theorem toLower_toLower (c : Char) : c.toLower.toLower = c.toLower :=
  toLower_of_not_isUpper (isUpper_toLower c)

/-! ### The registers -/

/-- Whether a text stands for whole rows. -/
def isLinewise (t : Text) : Bool := t.getLast? == some '\n'

/-- All registers. -/
structure RegisterFile where
  /-- The texts of the registers that are set, under lower-case names. -/
  slots : Slots Text := {}
  deriving DecidableEq, Inhabited

namespace RegisterFile

/-- The text of a register, empty if it is not set. -/
def read (r : RegisterFile) (name : Char) : Text := (r.slots.get? name.toLower).getD []

/-- Replaces the text of a register. -/
def write (r : RegisterFile) (name : Char) (t : Text) : RegisterFile :=
  ⟨r.slots.insert name.toLower t⟩

/-- Adds to the end of a register. -/
def append (r : RegisterFile) (name : Char) (t : Text) : RegisterFile :=
  r.write name (r.read name ++ t)

/-- Unsets a register. -/
def clear (r : RegisterFile) (name : Char) : RegisterFile := ⟨r.slots.erase name.toLower⟩

/-- Copies a register to another, unless it is not set. -/
def copy (r : RegisterFile) (source target : Char) : RegisterFile :=
  match r.slots.get? source with
  | some t => ⟨r.slots.insert target t⟩
  | none => r

/-- Moves every text of the ring up one slot, the oldest first. A slot that is not set leaves the
one above it as it was. -/
def shiftRing (r : RegisterFile) : RegisterFile :=
  (ringSlots.zip ringSlots.tail).foldr (fun pair acc => acc.copy pair.1 pair.2) r

/-- Records a text that an operator took. -/
def record (r : RegisterFile) (t : Text) : RegisterFile :=
  (r.shiftRing.write unnamedRegister t).write '0' t

/-- Stores a text in a register that was chosen for it: a capital ASCII letter appends, any other
name replaces. -/
def store (r : RegisterFile) (name : Char) (t : Text) : RegisterFile :=
  if name.isUpper then r.append name t else r.write name t

/-- The registers that are set, by name. -/
def entries (r : RegisterFile) : List (Char × Text) := r.slots.entries

@[simp] theorem read_write (r : RegisterFile) (name other : Char) (t : Text) :
    (r.write name t).read other = if name.toLower = other.toLower then t else r.read other := by
  simp only [read, write, Slots.get?_insert]
  split <;> rfl

@[simp] theorem read_append (r : RegisterFile) (name other : Char) (t : Text) :
    (r.append name t).read other =
      if name.toLower = other.toLower then r.read name ++ t else r.read other := by
  simp [append]

@[simp] theorem read_clear (r : RegisterFile) (name other : Char) :
    (r.clear name).read other = if name.toLower = other.toLower then [] else r.read other := by
  simp only [read, clear, Slots.get?_erase]
  split <;> rfl

@[simp] theorem read_store (r : RegisterFile) (name other : Char) (t : Text) :
    (r.store name t).read other =
      if name.toLower = other.toLower then (if name.isUpper then r.read name else []) ++ t
      else r.read other := by
  unfold store
  split <;> simp

end RegisterFile

end ModalEditor
