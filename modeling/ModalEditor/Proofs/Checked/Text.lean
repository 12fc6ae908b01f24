import ModalEditor.Number
import ModalEditor.Proofs.Geometry

/-!
# A machine that can stop

The editor computes with numbers of any size, and asks for any row. A machine has words of 64 bits;
it stops when a sum is too large for a word, when a difference would be negative, and when it is
asked for a row, a character or a place that is not there. `Checked` are its computations. This
module has those on texts: each of them answers what the editor's own function does, as long as the
buffer is short enough that twice its length fits a word (`Buffer.Fits`).

Offsets, rows, columns and counts are words. What counts typed keys, checkpoints or the depth of
playback is left as it is.
-/

namespace ModalEditor

/-- Why a machine stops. -/
inductive Fault where
  /-- A sum is too large for a word. -/
  | overflow
  /-- A difference would be negative. -/
  | underflow
  /-- A row is past the last. -/
  | row
  /-- A character is past the end of its text. -/
  | character
  /-- A text is searched from past its end. -/
  | offset
  /-- The ends of a range are in the wrong order. -/
  | range
  deriving DecidableEq

/-- What a machine computes, unless it stops. -/
abbrev Checked : Type → Type := Except Fault

/-- Whether a buffer is as short as buffers are assumed to be, which is below `2 ^ 63`. -/
def Buffer.Fits (b : Buffer) : Prop := b.length < 0x8000000000000000

instance (b : Buffer) : Decidable b.Fits :=
  inferInstanceAs (Decidable (b.length < 0x8000000000000000))

theorem Buffer.Fits.two_mul_lt {b : Buffer} (h : b.Fits) : 2 * b.length < maxCount := by
  unfold Buffer.Fits at h
  unfold maxCount
  omega

theorem Buffer.Fits.add_two_le {b : Buffer} (h : b.Fits) : b.length + 2 ≤ maxCount := by
  unfold Buffer.Fits at h
  unfold maxCount
  omega

namespace Checked

@[simp] theorem ok_bind {α β : Type} (a : α) (f : α → Checked β) :
    (Except.ok a : Checked α) >>= f = f a := rfl

@[simp] theorem map_ok {α β : Type} (f : α → β) (a : α) :
    f <$> (Except.ok a : Checked α) = .ok (f a) := rfl

@[simp] theorem pure_eq_ok {α : Type} (a : α) : (pure a : Checked α) = .ok a := rfl

theorem mapM_ok {α β : Type} {f : α → Checked β} {g : α → β} {l : List α}
    (h : ∀ a ∈ l, f a = .ok (g a)) : l.mapM f = .ok (l.map g) := by
  induction l with
  | nil => rfl
  | cons a l ih =>
    rw [List.mapM_cons, h a List.mem_cons_self, ih fun x hx => h x (List.mem_cons_of_mem _ hx)]
    rfl

/-! ### Words of 64 bits -/

/-- A sum that must fit a word. -/
def add (m n : Nat) : Checked Nat := if m + n ≤ maxCount then .ok (m + n) else .error .overflow

/-- A difference that must not be negative. -/
def sub (m n : Nat) : Checked Nat := if n ≤ m then .ok (m - n) else .error .underflow

/-- A sum that stays at the largest word. -/
def saturatingAdd (m n : Nat) : Nat := min (m + n) maxCount

/-- A number moved into a range, whose ends must be in order. -/
def clamp (n low high : Nat) : Checked Nat :=
  if low ≤ high then .ok (min (max n low) high) else .error .range

theorem add_ok {m n : Nat} (h : m + n ≤ maxCount) : add m n = .ok (m + n) := if_pos h

theorem sub_ok {m n : Nat} (h : n ≤ m) : sub m n = .ok (m - n) := if_pos h

/-- Saturation does not show below a bound that fits a word. -/
theorem min_saturatingAdd {m n bound : Nat} (h : bound ≤ maxCount) :
    min (saturatingAdd m n) bound = min (m + n) bound := by
  unfold saturatingAdd
  omega

theorem clamp_ok {n low high : Nat} (h : low ≤ high) :
    clamp n low high = .ok (min (max n low) high) := if_pos h

/-! ### Rows -/

/-- Where a row starts. -/
def rowStart (b : Buffer) (row : Nat) : Checked Nat :=
  match b.rowStart? row with
  | some start => .ok start
  | none => .error .row

/-- The text of a row. -/
def rowText (b : Buffer) (row : Nat) : Checked Text :=
  if row < b.lineCount then .ok (b.rowText row) else .error .row

/-- The length of a row. -/
def rowLength (b : Buffer) (row : Nat) : Checked Nat :=
  if row < b.lineCount then .ok (b.rowLength row) else .error .row

/-- Where a row ends. -/
def rowEnd (b : Buffer) (row : Nat) : Checked Nat := do
  let start ← rowStart b row
  let length ← rowLength b row
  add start length

/-- Where the indentation of a row ends. -/
def firstNonBlank (b : Buffer) (row : Nat) : Checked Nat := do
  let start ← rowStart b row
  let text ← rowText b row
  add start (leadingBlanks text).length

/-- The offset of a position. -/
def offsetAt (b : Buffer) (p : Position) : Checked Nat := do
  let row := min p.row b.lastRow
  let start ← rowStart b row
  let length ← rowLength b row
  add start (min p.col length)

/-- The position of an offset: its row has the number of the newlines before, and its column counts
from the start of the row. -/
def positionAt (b : Buffer) (offset : Nat) : Checked Position := do
  let offset := min offset b.length
  let row := (b.text.take offset).count '\n'
  let start ← rowStart b row
  let col ← sub offset start
  return ⟨row, col⟩

section

variable {b : Buffer} {row : Nat}

theorem rowStart_ok (h : row ≤ b.lastRow) : rowStart b row = .ok (b.rowStart row) := by
  rw [rowStart, Buffer.rowStart?_eq h]

theorem rowText_ok (h : row ≤ b.lastRow) : rowText b row = .ok (b.rowText row) :=
  if_pos (Nat.lt_succ_of_le h)

theorem rowLength_ok (h : row ≤ b.lastRow) : rowLength b row = .ok (b.rowLength row) :=
  if_pos (Nat.lt_succ_of_le h)

theorem rowEnd_ok (hb : b.Fits) (h : row ≤ b.lastRow) : rowEnd b row = .ok (b.rowEnd row) := by
  have hend := Buffer.rowStart_add_rowLength_le h
  have hword := hb.two_mul_lt
  simp only [rowEnd, rowStart_ok h, rowLength_ok h, ok_bind, Buffer.rowEnd_eq h]
  exact add_ok (by omega)

theorem firstNonBlank_ok (hb : b.Fits) (h : row ≤ b.lastRow) :
    firstNonBlank b row = .ok (b.firstNonBlank row) := by
  have hend := Buffer.rowStart_add_rowLength_le h
  have hblanks := b.length_leadingBlanks_le row
  have hword := hb.two_mul_lt
  simp only [firstNonBlank, rowStart_ok h, rowText_ok h, ok_bind, Buffer.firstNonBlank_eq h]
  exact add_ok (by omega)

theorem offsetAt_ok (hb : b.Fits) (p : Position) : offsetAt b p = .ok (b.offsetAt p) := by
  have hrow := Nat.min_le_right p.row b.lastRow
  have hle := b.offsetAt_le_length p
  have hword := hb.two_mul_lt
  simp only [offsetAt, rowStart_ok hrow, rowLength_ok hrow, ok_bind]
  unfold Buffer.offsetAt at hle ⊢
  exact add_ok (by dsimp only at hle; omega)

theorem positionAt_ok (b : Buffer) (offset : Nat) :
    positionAt b offset = .ok (b.positionAt offset) := by
  obtain ⟨hle, hpos⟩ := b.positionAt_eq offset
  have htake : b.text.take (min offset b.length) = b.text.take offset := by
    rw [Buffer.length, ← List.take_eq_take_min]
  simp only [positionAt, htake, rowStart_ok (b.count_take_le_lastRow offset), ok_bind, sub_ok hle,
    pure_eq_ok, hpos]

end

/-! ### Words -/

/-- The tokens of a text whose first character has offset `start`. -/
def tokensFrom (kind : WordKind) (start : Nat) : Text → Checked (List WordToken)
  | [] => .ok []
  | c :: rest =>
    if Unicode.isWhiteSpace c then do
      let next ← add start 1
      tokensFrom kind next rest
    else do
      let more := runLength kind c rest
      let stop ← add start (more + 1)
      let tokens ← tokensFrom kind stop (rest.drop more)
      return ⟨c :: rest.take more, start, stop⟩ :: tokens
termination_by t => t.length
decreasing_by all_goals simp only [List.length_cons, List.length_drop]; omega

/-- A span grown over the word characters on both sides. -/
def expandWord (b : Buffer) (s : Span) : Checked Span := do
  let start ← sub s.start (b.wordBefore s.start)
  let stop ← add s.stop (b.wordAfter s.stop)
  return ⟨start, stop⟩

/-- The start of the word after the one at an offset, or the end of the buffer. -/
def nextWordStart (b : Buffer) (kind : WordKind) (offset : Nat) : Checked Nat := do
  let tokens ← tokensFrom kind 0 (b.text.drop offset)
  match tokens.find? fun t => 0 < t.start with
  | some t => add offset t.start
  | none => return b.length

/-- The end of the word that starts or goes on at an offset, if there is one. -/
def wordEndAt? (b : Buffer) (kind : WordKind) (offset : Nat) : Checked (Option Nat) := do
  match ← tokensFrom kind 0 (b.text.drop offset) with
  | t :: _ => if t.start = 0 then some <$> add offset t.stop else return none
  | [] => return none

/-- The start of the last word before an offset, or the start of the buffer. -/
def previousWordStart (b : Buffer) (kind : WordKind) (offset : Nat) : Checked Nat := do
  let tokens ← tokensFrom kind 0 (b.text.take offset)
  return (tokens.getLast?.map (·.start)).getD 0

/-- The last character of the first word after an offset, if there is one. -/
def nextWordLast? (b : Buffer) (kind : WordKind) (offset : Nat) : Checked (Option Nat) := do
  let next ← add offset 1
  match ← tokensFrom kind 0 (b.text.drop next) with
  | t :: _ => some <$> add next t.last
  | [] => return none

/-- `nextWordStart` up to `n` times, no further than the end. -/
def skipWords (b : Buffer) (kind : WordKind) : Nat → Nat → Checked Nat
  | 0, offset => .ok offset
  | n + 1, offset =>
    if b.length ≤ offset then .ok offset
    else do
      let next ← nextWordStart b kind offset
      skipWords b kind n next

/-- `previousWordStart` up to `n` times, no further than the start. -/
def backWords (b : Buffer) (kind : WordKind) : Nat → Nat → Checked Nat
  | 0, offset => .ok offset
  | n + 1, offset =>
    if offset = 0 then .ok 0
    else do
      let previous ← previousWordStart b kind offset
      backWords b kind n previous

/-- `nextWordLast?` up to `n` times, as long as there is a word. -/
def skipWordEnds (b : Buffer) (kind : WordKind) : Nat → Nat → Checked Nat
  | 0, offset => .ok offset
  | n + 1, offset => do
    match ← nextWordLast? b kind offset with
    | some last => skipWordEnds b kind n last
    | none => return offset

theorem tokensFrom_ok {kind : WordKind} {start : Nat} {t : Text} (h : start + t.length ≤ maxCount) :
    tokensFrom kind start t = .ok (ModalEditor.tokensFrom kind start t) := by
  fun_induction ModalEditor.tokensFrom kind start t with
  | case1 => rw [tokensFrom.eq_def]
  | case2 start c rest hc ih =>
    rw [List.length_cons] at h
    rw [tokensFrom.eq_def]
    dsimp only
    rw [if_pos hc, add_ok (by omega), ok_bind, ih (by omega)]
  | case3 start c rest hc more ih =>
    have hmore : more ≤ rest.length := runLength_le kind c rest
    rw [List.length_cons] at h
    rw [tokensFrom.eq_def]
    dsimp only
    rw [if_neg hc]
    simp only [show runLength kind c rest = more from rfl]
    rw [add_ok (by omega), ok_bind, ← Nat.add_assoc, ih (by rw [List.length_drop]; omega)]
    rfl

section

variable {b : Buffer} {kind : WordKind} {offset : Nat}

theorem tokensFrom_drop_ok (hb : b.Fits) (kind : WordKind) (offset : Nat) :
    tokensFrom kind 0 (b.text.drop offset) = .ok (tokenize kind (b.text.drop offset)) := by
  have hword := hb.two_mul_lt
  unfold Buffer.length at hword
  exact tokensFrom_ok (by rw [List.length_drop]; omega)

theorem expandWord_ok (hb : b.Fits) {s : Span} (hs : s.stop ≤ b.length) :
    expandWord b s = .ok (b.expandWord s) := by
  have hbefore := b.wordBefore_le s.start
  have hafter := b.wordAfter_le s.stop
  have hword := hb.two_mul_lt
  simp only [expandWord, sub_ok hbefore, ok_bind]
  rw [add_ok (by omega)]
  rfl

theorem nextWordStart_ok (hb : b.Fits) (hoffset : offset ≤ b.length) :
    nextWordStart b kind offset = .ok (b.nextWordStart kind offset) := by
  have hword := hb.two_mul_lt
  unfold nextWordStart Buffer.nextWordStart
  simp only [tokensFrom_drop_ok hb, ok_bind, tokensFrom_eq_map_tokenize, List.find?_map]
  have hpred : ((fun t : WordToken => decide (offset < t.start)) ∘ WordToken.shift offset) =
      fun t => decide (0 < t.start) := by
    funext t
    simp [WordToken.shift]
  rw [hpred]
  cases hfind : (tokenize kind (b.text.drop offset)).find? fun t => decide (0 < t.start) with
  | none => rfl
  | some w =>
    have hbounds := Buffer.bounds_of_mem_tokenize_drop hoffset (List.mem_of_find?_eq_some hfind)
    exact add_ok (by omega)

theorem wordEndAt?_ok (hb : b.Fits) (hoffset : offset ≤ b.length) :
    wordEndAt? b kind offset = .ok (b.wordEndAt? kind offset) := by
  have hword := hb.two_mul_lt
  unfold wordEndAt? Buffer.wordEndAt?
  simp only [tokensFrom_drop_ok hb, ok_bind, tokensFrom_eq_map_tokenize]
  cases htokens : tokenize kind (b.text.drop offset) with
  | nil => rfl
  | cons w tokens =>
    have hbounds := Buffer.bounds_of_mem_tokenize_drop hoffset (htokens ▸ List.mem_cons_self)
    by_cases hstart : w.start = 0
    · simp [WordToken.shift, hstart, add_ok (show offset + w.stop ≤ maxCount by omega)]
    · simp [WordToken.shift, hstart]

theorem previousWordStart_ok (hb : b.Fits) (kind : WordKind) (offset : Nat) :
    previousWordStart b kind offset = .ok (b.previousWordStart kind offset) := by
  have hword := hb.two_mul_lt
  unfold Buffer.length at hword
  unfold previousWordStart
  rw [tokensFrom_ok (by rw [List.length_take]; omega)]
  rfl

theorem nextWordLast?_ok (hb : b.Fits) (hoffset : offset ≤ b.length) :
    nextWordLast? b kind offset = .ok (b.nextWordLast? kind offset) := by
  have hword := hb.two_mul_lt
  unfold nextWordLast? Buffer.nextWordLast?
  rw [add_ok (by omega)]
  simp only [tokensFrom_drop_ok hb, ok_bind, tokensFrom_eq_map_tokenize]
  cases htokens : tokenize kind (b.text.drop (offset + 1)) with
  | nil => rfl
  | cons w tokens =>
    have hmem : w ∈ tokenize kind (b.text.drop (offset + 1)) := htokens ▸ List.mem_cons_self
    have hbounds := bounds_of_mem_tokensFrom hmem
    rw [List.length_drop, Nat.zero_add] at hbounds
    have hsum : offset + 1 + w.last ≤ maxCount := by
      unfold Buffer.length at hword hoffset
      unfold WordToken.last
      omega
    simp only [add_ok hsum, map_ok, List.map_cons, List.head?_cons, Option.map_some,
      WordToken.last_shift (show 0 < w.stop by omega)]

theorem skipWords_ok (hb : b.Fits) (n : Nat) (hoffset : offset ≤ b.length) :
    skipWords b kind n offset = .ok (b.skipWords kind n offset) := by
  induction n generalizing offset with
  | zero => rfl
  | succ n ih =>
    unfold skipWords Buffer.skipWords
    split
    · rfl
    · rw [nextWordStart_ok hb hoffset, ok_bind, ih (b.nextWordStart_le kind hoffset)]

theorem backWords_ok (hb : b.Fits) (kind : WordKind) (n offset : Nat) :
    backWords b kind n offset = .ok (b.backWords kind n offset) := by
  induction n generalizing offset with
  | zero => rfl
  | succ n ih =>
    unfold backWords Buffer.backWords
    split
    · rfl
    · rw [previousWordStart_ok hb, ok_bind, ih]

theorem skipWordEnds_ok (hb : b.Fits) (n : Nat) (hoffset : offset ≤ b.length) :
    skipWordEnds b kind n offset = .ok (b.skipWordEnds kind n offset) := by
  induction n generalizing offset with
  | zero => rfl
  | succ n ih =>
    unfold skipWordEnds Buffer.skipWordEnds
    rw [nextWordLast?_ok hb hoffset, ok_bind]
    cases hlast : b.nextWordLast? kind offset with
    | none => rfl
    | some last => exact ih (Buffer.nextWordLast?_le hlast)

end

end Checked

end ModalEditor
