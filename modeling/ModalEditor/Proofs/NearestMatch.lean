import Mathlib.Order.Bounds.Basic
import ModalEditor.Proofs.Geometry

/-!
# The nearest match

Of an engine that searches texts no more is assumed than that it finds the leftmost match: from an
offset on the one with the least start, and none only if there is none (`Engine.Leftmost`). The last
match is found by going from match to match, each time from one character after the start of the
match before (`Engine.scan`). No start is passed over, since the match found is the leftmost; and
every round begins further on than the one before, so that there is at most one round more than there
are characters, also where matches are empty or overlap (`Engine.Leftmost.scan_eq_some`).

`nearest_match` is the result for any such engine. The editor searches in this way with an engine of
its own.
-/

namespace ModalEditor

/-! ### What is looked for -/

/-- A search engine: the match that it finds in a text from an offset on. -/
abbrev Engine := Text → Nat → Option Span

section Matches

variable (matchAt : Text → Nat → Option Span) (t : Text)

/-- The places of a text at which a match starts. -/
def matchStarts : Set Nat := {o | o ≤ t.length ∧ matchAt t o ≠ none}

/-- The match with the least start from an offset on; none if no match starts there. -/
def IsFirstMatch (offset : Nat) : Option Span → Prop
  | some m => IsLeast {o | o ∈ matchStarts matchAt t ∧ offset ≤ o} m.start ∧ matchAt t m.start = some m
  | none => ∀ o ∈ matchStarts matchAt t, o < offset

/-- The match with the greatest start; none if there is no match. -/
def IsLastMatch : Option Span → Prop
  | some m => IsGreatest (matchStarts matchAt t) m.start ∧ matchAt t m.start = some m
  | none => matchStarts matchAt t = ∅

end Matches

/-- **A search that may start over**: the near match if there is one, or else the far one, which is
noted as wrapped. -/
inductive StartsOver (near far : Option Span → Prop) : Option SearchHit → Prop where
  /-- There is a near match. -/
  | near {m : Span} (h : near (some m)) : StartsOver near far (some ⟨m, false⟩)
  /-- There is only a far one. -/
  | far {m : Span} (hnear : near none) (h : far (some m)) : StartsOver near far (some ⟨m, true⟩)
  /-- There is none. -/
  | none (hnear : near none) (hfar : far none) : StartsOver near far none

section Searches

variable (matchAt : Text → Nat → Option Span) (t : Text) (offset : Nat)

/-- **The next match**: the first from an offset on, which is clamped to the end of the text, or else
the first of all. -/
def IsNextMatch : Option SearchHit → Prop :=
  StartsOver (IsFirstMatch matchAt t (min offset t.length)) (IsFirstMatch matchAt t 0)

/-- **The previous match**: the last in the text before an offset, or else the last of all. -/
def IsPreviousMatch : Option SearchHit → Prop :=
  StartsOver (IsLastMatch matchAt (t.take offset)) (IsLastMatch matchAt t)

variable {matchAt t offset}

theorem IsNextMatch.isMatch {hit : SearchHit} (h : IsNextMatch matchAt t offset (some hit)) :
    hit.span.start ∈ matchStarts matchAt t ∧ matchAt t hit.span.start = some hit.span := by
  cases h with
  | near h | far _ h => exact ⟨h.1.1.1, h.2⟩

end Searches

/-! ### Searches with an engine -/

namespace Engine

/-- **All that is known of an engine**: from an offset in the text on it finds the match with the
least start, and none only if there is none. -/
def Leftmost (find : Engine) (matchAt : Text → Nat → Option Span) : Prop :=
  ∀ t pos, pos ≤ t.length → IsFirstMatch matchAt t pos (find t pos)

/-- The search forward. -/
def next (find : Engine) (t : Text) (offset : Nat) : Option SearchHit :=
  match find t (min offset t.length) with
  | some m => some ⟨m, false⟩
  | none => (find t 0).map (⟨·, true⟩)

/-- The scan for the last match: from an offset on, with the last match so far, and with a number of
rounds that it may take. There is no answer if they do not suffice. -/
def scan (find : Engine) (t : Text) : Nat → Nat → Option Span → Option (Option Span)
  | 0, _, _ => none
  | rounds + 1, pos, last =>
    match find t pos with
    | none => some last
    | some m =>
      if m.start < t.length then find.scan t rounds (m.start + 1) (some m) else some (some m)

/-- The search backward, with a number of rounds that each scan may take. -/
def previous (find : Engine) (rounds : Nat) (t : Text) (offset : Nat) :
    Option (Option SearchHit) := do
  match ← find.scan (t.take offset) rounds 0 none with
  | some m => return some ⟨m, false⟩
  | none => return (← find.scan t rounds 0 none).map (⟨·, true⟩)

variable {find : Engine} {matchAt : Text → Nat → Option Span} {t : Text}

/-- The search forward finds the next match. -/
theorem Leftmost.isNextMatch (h : find.Leftmost matchAt) (t : Text) (offset : Nat) :
    IsNextMatch matchAt t offset (find.next t offset) := by
  have hnear := h t (min offset t.length) (Nat.min_le_right _ _)
  have hfar := h t 0 (Nat.zero_le _)
  unfold next
  cases hfind : find t (min offset t.length) with
  | some m =>
    rw [hfind] at hnear
    exact .near hnear
  | none =>
    rw [hfind] at hnear
    cases hall : find t 0 with
    | some m =>
      rw [hall] at hfar
      exact .far hnear hfar
    | none =>
      rw [hall] at hfar
      exact .none hnear hfar

/-- **The scan reaches the last match from an offset on**, or keeps the one that it has. The
induction is on the rounds, of which one more is left than places. -/
theorem Leftmost.scan_eq_some (h : find.Leftmost matchAt) {rounds pos : Nat} (last : Option Span)
    (hpos : pos ≤ t.length) (hrounds : t.length < rounds + pos) :
    ∃ last', find.scan t rounds pos last = some last' ∧
      ((∀ o ∈ matchStarts matchAt t, o < pos) ∧ last' = last ∨
        last' ≠ none ∧ IsLastMatch matchAt t last') := by
  induction rounds generalizing pos last with
  | zero => omega
  | succ rounds ih =>
    have hfirst := h t pos hpos
    unfold scan
    cases hfind : find t pos with
    | none =>
      rw [hfind] at hfirst
      exact ⟨last, rfl, .inl ⟨hfirst, rfl⟩⟩
    | some m =>
      rw [hfind] at hfirst
      obtain ⟨⟨⟨hstart, hle⟩, -⟩, hmatch⟩ := hfirst
      have hgreatest (hall : ∀ o ∈ matchStarts matchAt t, o < m.start + 1) :
          IsLastMatch matchAt t (some m) :=
        ⟨⟨hstart, fun o ho => Nat.le_of_lt_succ (hall o ho)⟩, hmatch⟩
      dsimp only
      split
      · rename_i hlt
        obtain ⟨last', hscan, ⟨hall, rfl⟩ | hlast⟩ := ih (some m) hlt (by omega)
        · exact ⟨some m, hscan, .inr ⟨by simp, hgreatest hall⟩⟩
        · exact ⟨last', hscan, .inr hlast⟩
      · rename_i hlt
        refine ⟨some m, rfl, .inr ⟨by simp, hgreatest fun o ho => ?_⟩⟩
        have hend : o ≤ t.length := ho.1
        omega

/-- The scan of a whole text ends, and reaches its last match. -/
theorem Leftmost.scan_zero (h : find.Leftmost matchAt) {rounds : Nat} (hrounds : t.length < rounds) :
    ∃ last, find.scan t rounds 0 none = some last ∧ IsLastMatch matchAt t last := by
  obtain ⟨last, hscan, ⟨hall, rfl⟩ | ⟨-, hlast⟩⟩ :=
    h.scan_eq_some (t := t) none (Nat.zero_le _) hrounds
  · refine ⟨none, hscan, Set.eq_empty_of_forall_notMem fun o ho => ?_⟩
    exact Nat.not_lt_zero o (hall o ho)
  · exact ⟨last, hscan, hlast⟩

/-- The search backward ends, and finds the previous match. -/
theorem Leftmost.previous_eq_some (h : find.Leftmost matchAt) (offset : Nat) {rounds : Nat}
    (hrounds : t.length < rounds) :
    ∃ hit?, find.previous rounds t offset = some hit? ∧ IsPreviousMatch matchAt t offset hit? := by
  have hbefore : (t.take offset).length < rounds :=
    Nat.lt_of_le_of_lt (List.length_take_le' _ _) hrounds
  obtain ⟨near, hscan, hnear⟩ := h.scan_zero hbefore
  obtain ⟨far, hall, hfar⟩ := h.scan_zero hrounds
  unfold previous
  rw [hscan, hall]
  cases near with
  | some m => exact ⟨_, rfl, .near hnear⟩
  | none =>
    cases far with
    | some m => exact ⟨_, rfl, .far hnear hfar⟩
    | none => exact ⟨_, rfl, .none hnear hfar⟩

end Engine

/-! ### The engine of the editor -/

namespace Pattern.Regex

variable {r : Regex} {t : Text} {pos : Nat}

theorem start_of_matchAt? {m : Span} (h : r.matchAt? t pos = some m) : m.start = pos := by
  obtain ⟨n, -, rfl⟩ := Option.map_eq_some_iff.1 h
  rfl

/-- A match at the very place is the first from there on. -/
theorem isFirstMatch_of_matchAt? (hpos : pos ≤ t.length) {m : Span} (h : r.matchAt? t pos = some m) :
    IsFirstMatch r.matchAt? t pos (some m) := by
  obtain rfl := start_of_matchAt? h
  exact ⟨⟨⟨⟨hpos, by simp [h]⟩, Nat.le_refl _⟩, fun o ho => ho.2⟩, h⟩

/-- Where no match starts, the first is that from one place further on. -/
theorem isFirstMatch_of_succ (hnone : r.matchAt? t pos = none) {m? : Option Span}
    (h : IsFirstMatch r.matchAt? t (pos + 1) m?) : IsFirstMatch r.matchAt? t pos m? := by
  have hne {o : Nat} (ho : o ∈ matchStarts r.matchAt? t) : o ≠ pos := by
    rintro rfl
    exact ho.2 hnone
  cases m? with
  | none => exact fun o ho => Nat.lt_of_le_of_ne (Nat.le_of_lt_succ (h o ho)) (hne ho)
  | some m =>
    obtain ⟨⟨⟨hstart, hle⟩, hleast⟩, hmatch⟩ := h
    refine ⟨⟨⟨hstart, Nat.le_of_succ_le hle⟩, ?_⟩, hmatch⟩
    rintro o ⟨ho, hpos⟩
    exact hleast ⟨ho, Nat.lt_of_le_of_ne hpos (hne ho).symm⟩

/-- **The engine is leftmost.** The induction is on the places that are left. -/
theorem leftmost_find? (r : Regex) : Engine.Leftmost r.find? r.matchAt? := by
  intro t pos hpos
  induction hn : t.length - pos generalizing pos with
  | zero =>
    obtain rfl : pos = t.length := by omega
    rw [find?_length]
    cases hm : r.matchAt? t t.length with
    | some m => exact isFirstMatch_of_matchAt? hpos hm
    | none =>
      intro o ho
      refine Nat.lt_of_le_of_ne ho.1 ?_
      rintro rfl
      exact ho.2 hm
  | succ n ih =>
    have hlt : pos < t.length := by omega
    rw [find?_eq_or hlt]
    cases hm : r.matchAt? t pos with
    | some m => exact isFirstMatch_of_matchAt? hpos hm
    | none => exact isFirstMatch_of_succ hm (ih (pos + 1) hlt (by omega))

/-- **The scan is the last match from an offset on**, or the one that it has. -/
theorem scan_find? (r : Regex) {rounds : Nat} (last : Option Span) (hpos : pos ≤ t.length)
    (hrounds : t.length < rounds + pos) :
    Engine.scan r.find? t rounds pos last = some ((r.lastFrom t pos).or last) := by
  induction rounds generalizing pos last with
  | zero => omega
  | succ rounds ih =>
    unfold Engine.scan
    rw [lastFrom_eq_of_find? hpos]
    cases hfind : r.find? t pos with
    | none => rfl
    | some m =>
      have hstart := find?_start hpos hfind
      dsimp only
      split
      · rename_i hlt
        rw [ih (some m) hlt (by omega), Option.or_assoc, Option.some_or]
      · rfl

end Pattern.Regex

namespace Buffer

theorem findNext_eq (b : Buffer) (p : SearchPattern) (offset : Nat) :
    b.findNext p offset = Engine.next p.regex.find? b.text offset := rfl

/-- The scans of the search backward end, and it finds what the editor finds. -/
theorem previous_find? (b : Buffer) (p : SearchPattern) (offset : Nat) {rounds : Nat}
    (hrounds : b.length < rounds) :
    Engine.previous p.regex.find? rounds b.text offset = some (b.findPrevious p offset) := by
  have hscan (t : Text) (ht : t.length < rounds) :
      Engine.scan p.regex.find? t rounds 0 none = some (p.regex.findLast? t) := by
    rw [Pattern.Regex.scan_find? p.regex none (Nat.zero_le _) ht, Option.or_none]
    rfl
  have hbefore : (b.text.take offset).length < rounds :=
    Nat.lt_of_le_of_lt (List.length_take_le' _ _) hrounds
  unfold Engine.previous findPrevious
  rw [hscan _ hbefore, hscan _ hrounds]
  cases p.regex.findLast? (b.text.take offset) <;> rfl

theorem isNextMatch_findNext (b : Buffer) (p : SearchPattern) (offset : Nat) :
    IsNextMatch p.regex.matchAt? b.text offset (b.findNext p offset) :=
  (Pattern.Regex.leftmost_find? p.regex).isNextMatch b.text offset

theorem isPreviousMatch_findPrevious (b : Buffer) (p : SearchPattern) (offset : Nat) :
    IsPreviousMatch p.regex.matchAt? b.text offset (b.findPrevious p offset) := by
  have hrounds := Nat.lt_succ_self b.length
  obtain ⟨hit?, hprevious, hit⟩ :=
    (Pattern.Regex.leftmost_find? p.regex).previous_eq_some offset hrounds
  rw [b.previous_find? p offset hrounds] at hprevious
  obtain rfl := Option.some.inj hprevious
  exact hit

end Buffer

/-- **Searches find the nearest match**, with any engine that is leftmost: forward the first from the
offset on, backward the last in the text before it, or else the first or the last of all, noted as
wrapped; and none only if there is none. The scans for the last match end, whatever the pattern,
within one round more than the text has characters. The searches of the editor are these with its
own engine, which is leftmost. -/
theorem nearest_match {find : Engine} {matchAt : Text → Nat → Option Span}
    (h : find.Leftmost matchAt) (b : Buffer) (offset : Nat) :
    IsNextMatch matchAt b.text offset (find.next b.text offset) ∧
      (∀ rounds, b.length < rounds →
        ∃ hit?, find.previous rounds b.text offset = some hit? ∧
          IsPreviousMatch matchAt b.text offset hit?) ∧
      ∀ p : SearchPattern,
        b.findNext p offset = Engine.next p.regex.find? b.text offset ∧
          IsNextMatch p.regex.matchAt? b.text offset (b.findNext p offset) ∧
          (∀ rounds, b.length < rounds →
            Engine.previous p.regex.find? rounds b.text offset = some (b.findPrevious p offset)) ∧
          IsPreviousMatch p.regex.matchAt? b.text offset (b.findPrevious p offset) := by
  refine ⟨h.isNextMatch b.text offset, fun rounds => h.previous_eq_some offset, fun p => ?_⟩
  exact ⟨b.findNext_eq p offset, b.isNextMatch_findNext p offset,
    fun rounds => b.previous_find? p offset, b.isPreviousMatch_findPrevious p offset⟩

/-- A pattern that matches the empty text, searched for from behind the end, and backward from inside
the one match that is not empty. -/
theorem nearest_match_empty :
    let p : SearchPattern :=
      ⟨['a', '*'], false, .rep (.set (.single 'a')) 0 none true, by decide +kernel⟩
    let b : Buffer := ⟨['b', 'a', 'a']⟩
    Engine.Leftmost p.regex.find? p.regex.matchAt? ∧
      IsNextMatch p.regex.matchAt? b.text 9 (some ⟨⟨3, 3⟩, false⟩) ∧
      Engine.previous p.regex.find? 4 b.text 2 = some (some ⟨⟨2, 2⟩, false⟩) ∧
      IsPreviousMatch p.regex.matchAt? b.text 2 (some ⟨⟨2, 2⟩, false⟩) := by
  intro p b
  have hown := Pattern.Regex.leftmost_find? p.regex
  have hnext : b.findNext p 9 = some ⟨⟨3, 3⟩, false⟩ := by decide +kernel
  have hprevious : b.findPrevious p 2 = some ⟨⟨2, 2⟩, false⟩ := by decide +kernel
  obtain ⟨-, -, hforward⟩ := nearest_match hown b 9
  obtain ⟨-, -, hbackward⟩ := nearest_match hown b 2
  obtain ⟨-, hnext', -⟩ := hforward p
  obtain ⟨-, -, hscan, hprevious'⟩ := hbackward p
  rw [hnext] at hnext'
  rw [hprevious] at hprevious'
  exact ⟨hown, hnext', (hscan 4 (by decide)).trans (congrArg some hprevious), hprevious'⟩

end ModalEditor
