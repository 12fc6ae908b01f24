import ModalEditor.Pattern.Regex

/-!
# Matching

A match at a place is found by following all ways through the expression at once. A way is the list
of what is still to be matched; the ways are kept in order of preference. Every part of the
expression has an address, repetitions being written out, and a way that comes to an address where
a preferred one has been is dropped, since it can do no better. The match is the one that the most
preferred way reaches, and `Regex.find?` answers the first place that has one.
-/

namespace ModalEditor.Pattern

open Unicode (CharSet)

/-- How many addresses the expression has once its repetitions are written out. -/
def Regex.span : Regex → Nat
  | .empty | .set _ | .look _ => 1
  | .group _ r => r.span + 1
  | .cat r s | .alt r s => r.span + s.span + 1
  | .rep r min none _ => (Nat.max min 1 - 1) * (r.span + 1) + r.span + 2
  | .rep r _ (some max) _ => max * (r.span + 1) + 1

/-- One thing still to be matched, and its address. -/
inductive Goal where
  /-- An expression, whose parts have the addresses after its own. -/
  | expr (address : Nat) (r : Regex)
  /-- The end of a round of an unbounded repetition, whose body has the next address. -/
  | again (address : Nat) (r : Regex) (greedy : Bool)
  deriving DecidableEq

/-- The address of a goal. -/
def Goal.address : Goal → Nat
  | expr a _ | again a _ _ => a

/-- A way: what is still to be matched, in order. -/
abbrev Way := List Goal

/-- Two ways in order of preference. -/
def preferring (greedy : Bool) (more stop : Way) : List Way :=
  if greedy then [more, stop] else [stop, more]

/-- A way that starts with an expression, between two characters: the set whose character it waits
for, or the ways that it opens, most preferred first. -/
def Regex.step (before after : Option Char) (a : Nat) (k : Way) : Regex → CharSet ⊕ List Way
  | .empty => .inr [k]
  | .set s => .inl s
  | .look l => .inr (if l.holds before after then [k] else [])
  | .group _ r => .inr [.expr (a + 1) r :: k]
  | .cat r s => .inr [.expr (a + 1) r :: .expr (a + 1 + r.span) s :: k]
  | .alt r s => .inr [.expr (a + 1) r :: k, .expr (a + 1 + r.span) s :: k]
  | .rep r 0 none greedy => .inr [.again (a + 1) r greedy :: k]
  | .rep r 1 none greedy => .inr [.expr (a + 2) r :: .again (a + 1) r greedy :: k]
  | .rep _ 0 (some 0) _ => .inr [k]
  | .rep r 0 (some (n + 1)) greedy =>
    let rest := Goal.expr (a + 1 + r.span) (.rep r 0 (some n) greedy)
    .inr (preferring greedy (.expr (a + 1) r :: rest :: k) k)
  | .rep r (n + 1) max greedy =>
    let rest := Goal.expr (a + 1 + r.span) (.rep r n (max.map (· - 1)) greedy)
    .inr [.expr (a + 1) r :: rest :: k]

/-- Where the ways stand between two characters. -/
structure Front where
  /-- The ways that wait for a character, most preferred first. -/
  waiting : List (CharSet × Way)
  /-- Whether a match is complete. The ways after the complete one are dropped. -/
  complete : Bool

/-- Follows ways between two characters until they wait for a character. `seen` marks the addresses
that were met before, `waiting` holds the ways that wait, last first, and `fuel` bounds the number
of steps. -/
def follow (before after : Option Char) :
    Nat → Array Bool → List Way → List (CharSet × Way) → Front
  | 0, _, _, waiting => ⟨waiting.reverse, false⟩
  | _ + 1, _, [], waiting => ⟨waiting.reverse, false⟩
  | _ + 1, _, [] :: _, waiting => ⟨waiting.reverse, true⟩
  | fuel + 1, seen, (goal :: k) :: ways, waiting =>
    if seen[goal.address]?.getD false then follow before after fuel seen ways waiting
    else
      let seen := seen.setIfInBounds goal.address true
      match goal with
      | .again a r greedy =>
        let more := Goal.expr (a + 1) r :: .again a r greedy :: k
        follow before after fuel seen (preferring greedy more k ++ ways) waiting
      | .expr a r =>
        match r.step before after a k with
        | .inl s => follow before after fuel seen ways ((s, k) :: waiting)
        | .inr opened => follow before after fuel seen (opened ++ ways) waiting

/-- Where ways through an expression of `span` addresses stand between two characters. Each address
is passed once and opens at most two ways, which bounds the number of steps. -/
def front (span : Nat) (before after : Option Char) (ways : List Way) : Front :=
  follow before after (4 * span + 4) (Array.replicate span false) ways []

/-- Follows ways through a text. `taken` counts the characters behind, and `best` is the length of
the best match so far; a match that is found later belongs to a more preferred way. -/
def advance (span : Nat) (before : Option Char) (ways : List Way) (taken : Nat)
    (best : Option Nat) : Text → Option Nat
  | [] => if (front span before none ways).complete then some taken else best
  | c :: rest =>
    let f := front span before (some c) ways
    let best := if f.complete then some taken else best
    match f.waiting.filterMap fun (s, k) => if s.contains c then some k else none with
    | [] => best
    | ways => advance span (some c) ways (taken + 1) best rest

namespace Regex

/-- The length of the match at the start of `rest`, where `before` is the character in front. -/
def matchLength? (r : Regex) (before : Option Char) (rest : Text) : Option Nat :=
  advance r.span before [[.expr 0 r]] 0 none rest

/-- The first match in `rest`, whose first character has offset `start`. -/
def findFrom (r : Regex) (start : Nat) (before : Option Char) : Text → Option Span
  | [] => (r.matchLength? before []).map fun n => ⟨start, start + n⟩
  | c :: rest =>
    match r.matchLength? before (c :: rest) with
    | some n => some ⟨start, start + n⟩
    | none => r.findFrom (start + 1) (some c) rest

/-- The last match in `rest`, whose first character has offset `start`. -/
def findLastFrom (r : Regex) (start : Nat) (before : Option Char) : Text → Option Span
  | [] => (r.matchLength? before []).map fun n => ⟨start, start + n⟩
  | c :: rest =>
    match r.findLastFrom (start + 1) (some c) rest with
    | some s => some s
    | none => (r.matchLength? before (c :: rest)).map fun n => ⟨start, start + n⟩

/-- The character in front of an offset. -/
def charBefore (t : Text) (offset : Nat) : Option Char :=
  if offset = 0 then none else t[offset - 1]?

/-- The match at an offset of a text. -/
def matchAt? (r : Regex) (t : Text) (offset : Nat) : Option Span :=
  (r.matchLength? (charBefore t offset) (t.drop offset)).map fun n => ⟨offset, offset + n⟩

/-- The first match that starts at an offset or after it. What stands before the offset is seen by
assertions. -/
def find? (r : Regex) (t : Text) (offset : Nat) : Option Span :=
  r.findFrom offset (charBefore t offset) (t.drop offset)

/-- The match with the last start. -/
def findLast? (r : Regex) (t : Text) : Option Span := r.findLastFrom 0 none t

end Regex

end ModalEditor.Pattern
