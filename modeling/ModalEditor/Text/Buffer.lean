import ModalEditor.Text.Position

/-!
# Buffers

A buffer is the text being edited. It is seen as rows, which newlines separate, so that every
buffer has at least one row and a final newline is followed by an empty row. Offsets and rows that
lie outside are clamped. The conversions between offsets and positions agree with the rows:
`rowText_eq` says that row `i` is entry `i` of `rows`.
-/

namespace ModalEditor

/-- Whether a character indents: a space or a tab. -/
def isBlank (c : Char) : Bool := c == ' ' || c == '\t'

/-- The spaces and tabs that a text starts with. -/
def leadingBlanks (t : Text) : Text := t.takeWhile isBlank

/-- The parts of a text between its newlines. -/
def splitRows : Text → List Text
  | [] => [[]]
  | c :: t =>
    if c = '\n' then [] :: splitRows t
    else (splitRows t).modifyHead (c :: ·)

/-- What follows the first `n` newlines of a text. -/
def dropRows : Nat → Text → Text
  | 0, t => t
  | _ + 1, [] => []
  | n + 1, c :: t => if c = '\n' then dropRows n t else dropRows (n + 1) t

/-- The offset in a text of the row `n` rows further down, if there is one; `offset` is that of the
text itself. -/
def rowStartFrom (offset : Nat) : Nat → Text → Option Nat
  | 0, _ => some offset
  | _ + 1, [] => none
  | n + 1, c :: t =>
    if c = '\n' then rowStartFrom (offset + 1) n t else rowStartFrom (offset + 1) (n + 1) t

/-- The position `n` characters further on, at most that of the end of the text; the text itself has
position `row`, `col`. -/
def positionFrom (row col : Nat) : Nat → Text → Position
  | 0, _ => ⟨row, col⟩
  | _ + 1, [] => ⟨row, col⟩
  | n + 1, c :: t =>
    if c = '\n' then positionFrom (row + 1) 0 n t else positionFrom row (col + 1) n t

/-- A text being edited. -/
structure Buffer where
  /-- All characters in order. -/
  text : Text
  deriving DecidableEq, Inhabited

namespace Buffer

/-- How many characters the buffer holds. -/
def length (b : Buffer) : Nat := b.text.length

/-- Whether the buffer holds no text. -/
def isEmpty (b : Buffer) : Bool := b.text.isEmpty

/-- The rows, without the newlines that separate them. -/
def rows (b : Buffer) : List Text := splitRows b.text

/-- The index of the last row. -/
def lastRow (b : Buffer) : Nat := b.text.count '\n'

/-- How many rows there are: one more than newlines. -/
def lineCount (b : Buffer) : Nat := b.lastRow + 1

/-- The text of a row, empty past the last row. -/
def rowText (b : Buffer) (row : Nat) : Text := (dropRows row b.text).takeWhile (· != '\n')

/-- The length of a row, zero past the last row. -/
def rowLength (b : Buffer) (row : Nat) : Nat := (b.rowText row).length

/-- The offset at which a row starts. -/
def rowStart? (b : Buffer) (row : Nat) : Option Nat := rowStartFrom 0 row b.text

/-- The offset of the newline that ends a row, or of the end of the buffer for the last row. -/
def rowEnd? (b : Buffer) (row : Nat) : Option Nat :=
  (b.rowStart? row).map (· + b.rowLength row)

/-- The offset of the first character of a row that does not indent it, or of the end of a row that
is all blank. -/
def firstNonBlank? (b : Buffer) (row : Nat) : Option Nat :=
  (b.rowStart? row).map (· + (leadingBlanks (b.rowText row)).length)

/-- Where a row starts; zero past the last row. -/
def rowStart (b : Buffer) (row : Nat) : Nat := (b.rowStart? row).getD 0

/-- Where a row ends; the end of the buffer past the last row. -/
def rowEnd (b : Buffer) (row : Nat) : Nat := (b.rowEnd? row).getD b.length

/-- Where the indentation of a row ends; zero past the last row. -/
def firstNonBlank (b : Buffer) (row : Nat) : Nat := (b.firstNonBlank? row).getD 0

/-- The character at an offset. -/
def charAt? (b : Buffer) (offset : Nat) : Option Char := b.text[offset]?

/-- The offset of a position, the row clamped to the last and the column to the end of its row. -/
def offsetAt (b : Buffer) (p : Position) : Nat :=
  let row := min p.row b.lastRow
  b.rowStart row + min p.col (b.rowLength row)

/-- The position of an offset, clamped to the end of the buffer. -/
def positionAt (b : Buffer) (offset : Nat) : Position := positionFrom 0 0 offset b.text

/-! ### Cutting and pasting -/

/-- The text of a span. -/
def slice (b : Buffer) (s : Span) : Text := (b.text.drop s.start).take s.length

/-- The buffer with a text inserted at an offset. -/
def insert (b : Buffer) (offset : Nat) (t : Text) : Buffer :=
  ⟨b.text.take offset ++ t ++ b.text.drop offset⟩

/-- The buffer without the text of a span. -/
def remove (b : Buffer) (s : Span) : Buffer :=
  ⟨b.text.take s.start ++ b.text.drop (max s.start s.stop)⟩

/-- The buffer with the text of a span replaced. -/
def replace (b : Buffer) (s : Span) (t : Text) : Buffer := (b.remove s).insert s.start t

/-- The buffer as diagnostics show it: only its measures. -/
def debug (b : Buffer) : String :=
  "Buffer \x7b lines: " ++ toString b.lineCount ++ ", chars: " ++ toString b.length ++ " \x7d"

/-! ### The rows -/

theorem splitRows_ne_nil (t : Text) : splitRows t ≠ [] := by
  induction t with
  | nil => simp [splitRows]
  | cons c t ih =>
    unfold splitRows
    split
    · simp
    · cases h : splitRows t with
      | nil => exact absurd h ih
      | cons => simp

theorem length_splitRows (t : Text) : (splitRows t).length = t.count '\n' + 1 := by
  induction t with
  | nil => rfl
  | cons c t ih =>
    unfold splitRows
    split <;> rename_i h
    · simp [h, ih]
    · simp [h, ih]

theorem length_rows (b : Buffer) : b.rows.length = b.lineCount := length_splitRows b.text

theorem takeWhile_dropRows (n : Nat) (t : Text) :
    (dropRows n t).takeWhile (· != '\n') = (splitRows t)[n]?.getD [] := by
  induction t generalizing n with
  | nil => cases n <;> simp [dropRows, splitRows]
  | cons c t ih =>
    have hne := splitRows_ne_nil t
    by_cases hc : c = '\n'
    · cases n with
      | zero => simp [dropRows, splitRows, hc]
      | succ n => simp [dropRows, splitRows, hc, ih]
    · have h0 := ih 0
      cases hs : splitRows t with
      | nil => exact absurd hs hne
      | cons r rs =>
        cases n with
        | zero => simp_all [dropRows, splitRows]
        | succ n => simp [dropRows, splitRows, hc, hs, ih]

theorem rowText_eq (b : Buffer) (row : Nat) : b.rowText row = b.rows[row]?.getD [] :=
  takeWhile_dropRows row b.text

/-- Just the rows up to the last start somewhere. -/
theorem isSome_rowStartFrom (offset n : Nat) (t : Text) :
    (rowStartFrom offset n t).isSome = true ↔ n ≤ t.count '\n' := by
  induction t generalizing offset n with
  | nil => cases n <;> simp [rowStartFrom]
  | cons c t ih =>
    cases n with
    | zero => simp [rowStartFrom]
    | succ n =>
      unfold rowStartFrom
      split <;> rename_i h
      · simp [ih, h]
      · simp [ih, h]

/-- A row starts where the text that follows it is what the rows before leave. -/
theorem drop_rowStartFrom {offset n k : Nat} {t : Text} (h : rowStartFrom offset n t = some k) :
    offset ≤ k ∧ t.drop (k - offset) = dropRows n t := by
  induction t generalizing offset n with
  | nil =>
    cases n with
    | zero => simp_all [rowStartFrom, dropRows]
    | succ n => simp [rowStartFrom] at h
  | cons c t ih =>
    cases n with
    | zero => simp_all [rowStartFrom, dropRows]
    | succ n =>
      have step (m : Nat) (hm : rowStartFrom (offset + 1) m t = some k) :
          offset ≤ k ∧ (c :: t).drop (k - offset) = dropRows m t := by
        obtain ⟨hle, hdrop⟩ := ih hm
        refine ⟨by omega, ?_⟩
        rw [show k - offset = k - (offset + 1) + 1 by omega, List.drop_succ_cons, hdrop]
      unfold rowStartFrom at h
      unfold dropRows
      split at h <;> rename_i hc
      · rw [if_pos hc]
        exact step n h
      · rw [if_neg hc]
        exact step (n + 1) h

theorem isSome_rowStart? (b : Buffer) (row : Nat) :
    (b.rowStart? row).isSome = true ↔ row ≤ b.lastRow := isSome_rowStartFrom 0 row b.text

@[simp] theorem text_insert (b : Buffer) (offset : Nat) (t : Text) :
    (b.insert offset t).text = b.text.take offset ++ t ++ b.text.drop offset := rfl

@[simp] theorem text_remove (b : Buffer) (s : Span) :
    (b.remove s).text = b.text.take s.start ++ b.text.drop (max s.start s.stop) := rfl

theorem remove_of_isEmpty {b : Buffer} {s : Span} (h : s.isEmpty = true) : b.remove s = b := by
  simp only [Span.isEmpty, decide_eq_true_eq] at h
  cases b
  simp [remove, Nat.max_eq_left h]

/-- A text is what stands before a span, the span's text and what stands after it. -/
theorem take_append_slice (b : Buffer) {s : Span} (h : s.start ≤ s.stop) :
    b.text.take s.start ++ b.slice s ++ b.text.drop s.stop = b.text := by
  have hs : s.stop = s.start + s.length := by simp only [Span.length]; omega
  rw [slice, hs, ← List.drop_drop, List.append_assoc, List.take_append_drop,
    List.take_append_drop]

end Buffer

end ModalEditor
