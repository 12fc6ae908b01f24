/-!
# Sets of characters

A set is kept as the ascending code points at which membership changes, so that equal sets are equal
as values and every operation is one walk along the bounds. Surrogates are no characters; no bound
lies inside them. `contains_combine` says that an operation on bounds is the operation on members.
-/

namespace ModalEditor.Unicode

/-- A set of characters. -/
structure CharSet where
  /-- The code points at which membership changes; what lies before the first is outside. -/
  bounds : List Nat
  /-- The bounds ascend. -/
  ascending : bounds.Pairwise (· < ·)
  deriving DecidableEq

namespace CharSet

/-! ### Members -/

/-- Whether `n` lies inside, where `b` says what holds before the first bound. -/
def inside (n : Nat) : Bool → List Nat → Bool
  | b, [] => b
  | b, k :: ks => if n < k then b else inside n (!b) ks

/-- Whether a character is in the set. -/
def contains (s : CharSet) (c : Char) : Bool := inside c.toNat false s.bounds

/-- Where membership ends after the code point `n`: nowhere after the last character, and past the
surrogates if they follow. -/
def boundAfter (n : Nat) : List Nat :=
  if 0x10FFFF ≤ n then [] else if n = 0xD7FF then [0xE000] else [n + 1]

/-- The bounds of the characters from one code point to another, both included. -/
def rangeBounds (first last : Nat) : List Nat :=
  if first ≤ last then first :: boundAfter last else []

theorem pairwise_rangeBounds (first last : Nat) : (rangeBounds first last).Pairwise (· < ·) := by
  unfold rangeBounds boundAfter
  split
  · split
    · simp
    · split <;> (simp; omega)
  · simp

/-- The characters from one code point to another, both included. -/
def range (first last : Nat) : CharSet where
  bounds := rangeBounds first last
  ascending := pairwise_rangeBounds first last

/-- The set of one character. -/
def single (c : Char) : CharSet := range c.toNat c.toNat

/-- No character. -/
def empty : CharSet := ⟨[], .nil⟩

instance : Inhabited CharSet := ⟨empty⟩

/-- The ranges of code points that make up `bounds`, in order. -/
def rangesOf : List Nat → List (Nat × Nat)
  | [] => []
  | [a] => [(a, 0x10FFFF)]
  | a :: b :: rest => (a, if b = 0xE000 then 0xD7FF else b - 1) :: rangesOf rest

/-- The ranges of code points that make up the set, in order. -/
def ranges (s : CharSet) : List (Nat × Nat) := rangesOf s.bounds

/-- The character of a set that has just one. -/
def char? (s : CharSet) : Option Char :=
  match s.ranges with
  | [(a, b)] => if a = b then some (Char.ofNat a) else none
  | _ => none

/-- Whether the set holds ASCII characters only. -/
def isAscii (s : CharSet) : Bool := s.ranges.all fun r => r.2 < 0x80

/-! ### Operations -/

/-- What is not in the set. -/
def compl (s : CharSet) : CharSet :=
  match s with
  | ⟨0 :: ks, h⟩ => ⟨ks, h.of_cons⟩
  | ⟨[], _⟩ => ⟨[0], by simp⟩
  | ⟨(k + 1) :: ks, h⟩ => ⟨0 :: (k + 1) :: ks, by
      refine List.pairwise_cons.2 ⟨fun m hm => ?_, h⟩
      rcases List.mem_cons.1 hm with rfl | hm
      · omega
      · have := (List.pairwise_cons.1 h).1 m hm
        omega⟩

/-- Every character. -/
def full : CharSet := empty.compl

/-- Adds the bound `k` if membership changes there. -/
def crossing (before after : Bool) (k : Nat) (ks : List Nat) : List Nat :=
  if before = after then ks else k :: ks

/-- Walks along the bounds of two sets. `a` and `b` say whether the walk is inside the first and the
second, and `op` whether it is inside the result. -/
def mergeBounds (op : Bool → Bool → Bool) : Bool → Bool → List Nat → List Nat → List Nat
  | _, _, [], [] => []
  | a, b, x :: xs, [] => crossing (op a b) (op (!a) b) x (mergeBounds op (!a) b xs [])
  | a, b, [], y :: ys => crossing (op a b) (op a (!b)) y (mergeBounds op a (!b) [] ys)
  | a, b, x :: xs, y :: ys =>
    if x < y then crossing (op a b) (op (!a) b) x (mergeBounds op (!a) b xs (y :: ys))
    else if y < x then crossing (op a b) (op a (!b)) y (mergeBounds op a (!b) (x :: xs) ys)
    else crossing (op a b) (op (!a) (!b)) x (mergeBounds op (!a) (!b) xs ys)
termination_by _ _ xs ys => xs.length + ys.length

theorem mem_crossing {before after : Bool} {k m : Nat} {ks : List Nat}
    (h : m ∈ crossing before after k ks) : m = k ∨ m ∈ ks := by
  unfold crossing at h
  split at h
  · exact .inr h
  · simpa using h

theorem mem_mergeBounds {op : Bool → Bool → Bool} {a b : Bool} {xs ys : List Nat} {m : Nat}
    (h : m ∈ mergeBounds op a b xs ys) : m ∈ xs ∨ m ∈ ys := by
  fun_induction mergeBounds op a b xs ys with
  | case1 => simp at h
  | case2 a b x xs ih => rcases mem_crossing h with rfl | h <;> simp_all
  | case3 a b y ys ih => rcases mem_crossing h with rfl | h <;> simp_all
  | case4 a b x xs y ys _ ih =>
    rcases mem_crossing h with rfl | h
    · simp
    · rcases ih h with h | h <;> simp_all
  | case5 a b x xs y ys _ _ ih =>
    rcases mem_crossing h with rfl | h
    · simp
    · rcases ih h with h | h <;> simp_all
  | case6 a b x xs y ys _ _ ih =>
    rcases mem_crossing h with rfl | h
    · simp
    · rcases ih h with h | h <;> simp [h]

theorem pairwise_crossing {before after : Bool} {k : Nat} {ks : List Nat}
    (hk : ∀ m ∈ ks, k < m) (h : ks.Pairwise (· < ·)) :
    (crossing before after k ks).Pairwise (· < ·) := by
  unfold crossing
  split
  · exact h
  · exact List.pairwise_cons.2 ⟨hk, h⟩

theorem pairwise_mergeBounds (op : Bool → Bool → Bool) (a b : Bool) {xs ys : List Nat}
    (hx : xs.Pairwise (· < ·)) (hy : ys.Pairwise (· < ·)) :
    (mergeBounds op a b xs ys).Pairwise (· < ·) := by
  fun_induction mergeBounds op a b xs ys with
  | case1 => exact .nil
  | case2 a b x xs ih =>
    obtain ⟨h₁, h₂⟩ := List.pairwise_cons.1 hx
    exact pairwise_crossing (fun m hm => by rcases mem_mergeBounds hm with h | h <;> simp_all)
      (ih h₂ hy)
  | case3 a b y ys ih =>
    obtain ⟨h₁, h₂⟩ := List.pairwise_cons.1 hy
    exact pairwise_crossing (fun m hm => by rcases mem_mergeBounds hm with h | h <;> simp_all)
      (ih hx h₂)
  | case4 a b x xs y ys hlt ih =>
    obtain ⟨h₁, h₂⟩ := List.pairwise_cons.1 hx
    refine pairwise_crossing (fun m hm => ?_) (ih h₂ hy)
    rcases mem_mergeBounds hm with h | h
    · exact h₁ m h
    · rcases List.mem_cons.1 h with rfl | h
      · exact hlt
      · exact Nat.lt_trans hlt ((List.pairwise_cons.1 hy).1 m h)
  | case5 a b x xs y ys _ hlt ih =>
    obtain ⟨h₁, h₂⟩ := List.pairwise_cons.1 hy
    refine pairwise_crossing (fun m hm => ?_) (ih hx h₂)
    rcases mem_mergeBounds hm with h | h
    · rcases List.mem_cons.1 h with rfl | h
      · exact hlt
      · exact Nat.lt_trans hlt ((List.pairwise_cons.1 hx).1 m h)
    · exact h₁ m h
  | case6 a b x xs y ys h₁ h₂ ih =>
    obtain rfl : x = y := by omega
    obtain ⟨hx₁, hx₂⟩ := List.pairwise_cons.1 hx
    obtain ⟨hy₁, hy₂⟩ := List.pairwise_cons.1 hy
    refine pairwise_crossing (fun m hm => ?_) (ih hx₂ hy₂)
    rcases mem_mergeBounds hm with h | h
    · exact hx₁ m h
    · exact hy₁ m h

/-- The characters whose membership in two sets `op` accepts. What is in neither set has to be
outside. -/
def combine (op : Bool → Bool → Bool) (s t : CharSet) : CharSet where
  bounds := mergeBounds op false false s.bounds t.bounds
  ascending := pairwise_mergeBounds op false false s.ascending t.ascending

/-- What is in one set or the other. -/
def union : CharSet → CharSet → CharSet := combine (· || ·)

/-- What is in both sets. -/
def inter : CharSet → CharSet → CharSet := combine (· && ·)

/-- What is in the first set and not in the second. -/
def diff : CharSet → CharSet → CharSet := combine fun a b => a && !b

/-- What is in one of the sets and not in the other. -/
def symmDiff : CharSet → CharSet → CharSet := combine (· != ·)

/-- The union of sets, taken half by half. -/
def unionAll (sets : List CharSet) : CharSet :=
  match sets with
  | [] => empty
  | [s] => s
  | s :: t :: rest =>
    let half := (rest.length + 2) / 2
    union (unionAll ((s :: t :: rest).take half)) (unionAll ((s :: t :: rest).drop half))
termination_by sets.length
decreasing_by
  · simp only [List.length_take, List.length_cons]; omega
  · simp only [List.length_drop, List.length_cons]; omega

/-- The characters of some ranges of code points. -/
def ofRanges (rs : List (Nat × Nat)) : CharSet := unionAll (rs.map fun r => range r.1 r.2)

/-! ### Written sets

Long sets are written as text: code points and ranges in hexadecimal digits, with blanks between
them. A slash after a range comes before the distance from one member to the next. -/

/-- The number that hexadecimal digits write. -/
def hexNumber (digits : List Char) : Nat :=
  let value (c : Char) : Nat := if c.isDigit then c.toNat - '0'.toNat else c.toNat - 'A'.toNat + 10
  digits.foldl (fun n c => 16 * n + value c) 0

/-- The pieces of a text between separators. -/
def pieces (isSeparator : Char → Bool) (t : List Char) : List (List Char) :=
  t.foldr (fun c ps => if isSeparator c then [] :: ps else (c :: ps.headD []) :: ps.tail) [[]]

/-- The ranges that one piece of a written set stands for. -/
def readRanges (piece : List Char) : List (Nat × Nat) :=
  match (pieces (fun c => c == '-' || c == '/') piece).map hexNumber with
  | [n] => [(n, n)]
  | [first, last] => [(first, last)]
  | [first, last, step] =>
    (List.range ((last - first) / step + 1)).map fun i => (first + step * i, first + step * i)
  | _ => []

/-- The set that a text writes. -/
def ofText (t : String) : CharSet :=
  ofRanges (((pieces Char.isWhitespace t.toList).filter (!·.isEmpty)).flatMap readRanges)

/-! ### Laws -/

theorem inside_of_lt {n : Nat} {b : Bool} {ks : List Nat} (h : ∀ k ∈ ks, n < k) :
    inside n b ks = b := by
  cases ks with
  | nil => rfl
  | cons k ks => simp [inside, h k]

theorem inside_crossing {n k : Nat} {before after : Bool} {ks : List Nat}
    (h : ∀ m ∈ ks, k < m) :
    inside n before (crossing before after k ks) = if n < k then before else inside n after ks := by
  unfold crossing
  split
  · next he =>
    subst he
    split
    · exact inside_of_lt fun m hm => by have := h m hm; omega
    · rfl
  · next he =>
    have : after = !before := by cases before <;> cases after <;> simp_all
    simp [inside, this]

/-- Walking along two lists of bounds decides members by the operation. -/
theorem inside_mergeBounds (op : Bool → Bool → Bool) (n : Nat) (a b : Bool) {xs ys : List Nat}
    (hx : xs.Pairwise (· < ·)) (hy : ys.Pairwise (· < ·)) :
    inside n (op a b) (mergeBounds op a b xs ys) = op (inside n a xs) (inside n b ys) := by
  fun_induction mergeBounds op a b xs ys with
  | case1 => rfl
  | case2 a b x xs ih =>
    obtain ⟨h₁, h₂⟩ := List.pairwise_cons.1 hx
    rw [inside_crossing fun m hm => by rcases mem_mergeBounds hm with h | h <;> simp_all,
      ih h₂ hy]
    simp only [inside]
    split <;> rfl
  | case3 a b y ys ih =>
    obtain ⟨h₁, h₂⟩ := List.pairwise_cons.1 hy
    rw [inside_crossing fun m hm => by rcases mem_mergeBounds hm with h | h <;> simp_all,
      ih hx h₂]
    simp only [inside]
    split <;> rfl
  | case4 a b x xs y ys hlt ih =>
    obtain ⟨h₁, h₂⟩ := List.pairwise_cons.1 hx
    rw [inside_crossing, ih h₂ hy]
    · simp only [inside]
      split
      · rw [if_pos (by omega)]
      · rfl
    · intro m hm
      rcases mem_mergeBounds hm with h | h
      · exact h₁ m h
      · rcases List.mem_cons.1 h with rfl | h
        · exact hlt
        · exact Nat.lt_trans hlt ((List.pairwise_cons.1 hy).1 m h)
  | case5 a b x xs y ys _ hlt ih =>
    obtain ⟨h₁, h₂⟩ := List.pairwise_cons.1 hy
    rw [inside_crossing, ih hx h₂]
    · simp only [inside]
      split
      · rw [if_pos (by omega)]
      · rfl
    · intro m hm
      rcases mem_mergeBounds hm with h | h
      · rcases List.mem_cons.1 h with rfl | h
        · exact hlt
        · exact Nat.lt_trans hlt ((List.pairwise_cons.1 hx).1 m h)
      · exact h₁ m h
  | case6 a b x xs y ys h₁ h₂ ih =>
    obtain rfl : x = y := by omega
    obtain ⟨hx₁, hx₂⟩ := List.pairwise_cons.1 hx
    obtain ⟨hy₁, hy₂⟩ := List.pairwise_cons.1 hy
    rw [inside_crossing, ih hx₂ hy₂]
    · simp only [inside]
      split <;> rfl
    · intro m hm
      rcases mem_mergeBounds hm with h | h
      · exact hx₁ m h
      · exact hy₁ m h

/-- An operation on sets is the operation on their members. -/
theorem contains_combine {op : Bool → Bool → Bool} (hop : op false false = false) (s t : CharSet)
    (c : Char) : (combine op s t).contains c = op (s.contains c) (t.contains c) := by
  have h := inside_mergeBounds op c.toNat false false s.ascending t.ascending
  rwa [hop] at h

@[simp] theorem contains_union (s t : CharSet) (c : Char) :
    (s.union t).contains c = (s.contains c || t.contains c) := contains_combine rfl s t c

@[simp] theorem contains_inter (s t : CharSet) (c : Char) :
    (s.inter t).contains c = (s.contains c && t.contains c) := contains_combine rfl s t c

@[simp] theorem contains_diff (s t : CharSet) (c : Char) :
    (s.diff t).contains c = (s.contains c && !t.contains c) := contains_combine rfl s t c

@[simp] theorem contains_symmDiff (s t : CharSet) (c : Char) :
    (s.symmDiff t).contains c = (s.contains c != t.contains c) := contains_combine rfl s t c

theorem inside_not (n : Nat) (b : Bool) (ks : List Nat) : inside n (!b) ks = !inside n b ks := by
  induction ks generalizing b with
  | nil => rfl
  | cons k ks ih =>
    simp only [inside]
    split
    · rfl
    · exact ih (!b)

@[simp] theorem contains_compl (s : CharSet) (c : Char) : s.compl.contains c = !s.contains c := by
  rcases s with ⟨ks, h⟩
  rcases ks with _ | ⟨_ | k, ks⟩
  · simp [compl, contains, inside]
  · simp only [compl, contains, inside, Nat.not_lt_zero, if_false, Bool.not_false]
    exact inside_not _ true ks
  · simp only [compl, contains]
    rw [← inside_not]
    simp [inside]

@[simp] theorem contains_empty (c : Char) : empty.contains c = false := rfl

@[simp] theorem contains_full (c : Char) : full.contains c = true := by
  simp [full]

/-- A set of one character holds that character alone. -/
@[simp] theorem contains_single (c d : Char) : (single c).contains d = (d == c) := by
  have hc : c.toNat < 0xD800 ∨ 0xDFFF < c.toNat ∧ c.toNat < 0x110000 := c.valid
  have hd : d.toNat < 0xD800 ∨ 0xDFFF < d.toNat ∧ d.toNat < 0x110000 := d.valid
  rw [Bool.eq_iff_iff, beq_iff_eq, ← Char.toNat_inj]
  simp only [contains, single, range, rangeBounds, Nat.le_refl, if_true, inside, boundAfter]
  by_cases h₁ : d.toNat < c.toNat
  · simp [h₁]; omega
  · rw [if_neg h₁]
    split
    · simp [inside]; omega
    · split
      · simp [inside]; omega
      · simp [inside]; omega

end CharSet

end ModalEditor.Unicode
