/-!
# Texts, positions and spans

A text is the list of its characters. A place in it is either an offset, which counts characters
from the start, or a position, which names a row and a column. All counts start at zero.
-/

namespace ModalEditor

/-- A text: its characters in order. -/
abbrev Text := List Char

/-- A place given by row and column. -/
structure Position where
  /-- The row. -/
  row : Nat
  /-- The column within the row. -/
  col : Nat
  deriving DecidableEq, Inhabited

namespace Position

/-- Row 0, column 0. -/
def origin : Position := ⟨0, 0⟩

/-- Positions are ordered by row, those of one row by column. -/
instance : LT Position where
  lt p q := p.row < q.row ∨ p.row = q.row ∧ p.col < q.col

instance : LE Position where
  le p q := p < q ∨ p = q

theorem lt_def {p q : Position} : p < q ↔ p.row < q.row ∨ p.row = q.row ∧ p.col < q.col := Iff.rfl

theorem le_def {p q : Position} : p ≤ q ↔ p < q ∨ p = q := Iff.rfl

instance (p q : Position) : Decidable (p < q) := inferInstanceAs (Decidable (_ ∨ _))

instance (p q : Position) : Decidable (p ≤ q) := inferInstanceAs (Decidable (_ ∨ _))

/-- The position as a status line shows it, counting from one. -/
def display (p : Position) : String := s!"{p.row + 1}:{p.col + 1}"

/-- The position as diagnostics show it, counting from zero. -/
def debug (p : Position) : String := s!"Pos({p.row}:{p.col})"

end Position

/-- The offsets from `start` up to but not including `stop`. -/
structure Span where
  /-- The first offset. -/
  start : Nat
  /-- The offset after the last. -/
  stop : Nat
  deriving DecidableEq, Inhabited

namespace Span

/-- The span between two offsets, whichever comes first. -/
def ordered (a b : Nat) : Span := if a ≤ b then ⟨a, b⟩ else ⟨b, a⟩

/-- Whether the span holds no offset. -/
def isEmpty (s : Span) : Bool := s.stop ≤ s.start

/-- How many offsets the span holds. -/
def length (s : Span) : Nat := s.stop - s.start

/-- The span as diagnostics show it. -/
def debug (s : Span) : String := s!"Span({s.start}..{s.stop})"

theorem ordered_start (a b : Nat) : (ordered a b).start = min a b := by
  unfold ordered; split <;> simp <;> omega

theorem ordered_stop (a b : Nat) : (ordered a b).stop = max a b := by
  unfold ordered; split <;> simp <;> omega

theorem ordered_comm (a b : Nat) : ordered a b = ordered b a := by
  unfold ordered
  split <;> split <;> simp <;> omega

theorem length_eq_zero_iff {s : Span} : s.length = 0 ↔ s.isEmpty = true := by
  simp only [length, isEmpty, decide_eq_true_eq]; omega

end Span

end ModalEditor
