import ModalEditor.Pattern.Property

/-!
# Patterns as trees

A pattern is a regular expression with assertions about the place. Where several ways to match
exist, the tree says which comes first: the left branch of an alternative, and one more round of a
greedy repetition. Expressions are put together by `sequence`, `choice` and `repeated`, which bring
them into a normal form: the form decides which ways count as the same while matching, and how much
memory the expression takes.
-/

namespace ModalEditor.Pattern

open Unicode (CharSet)

/-! ### Assertions -/

/-- What the rules of a word boundary take for a word. -/
inductive WordRule where
  /-- Word characters of any script. -/
  | unicode
  /-- ASCII word characters. -/
  | ascii
  deriving DecidableEq

/-- The word characters of a rule. -/
def WordRule.set : WordRule → CharSet
  | unicode => wordSet
  | ascii => asciiWordSet

/-- Whether a character is a word character under a rule. -/
def WordRule.isWord (rule : WordRule) (c : Char) : Bool := rule.set.contains c

/-- An assertion about the place between two characters. -/
inductive Look where
  /-- The start of the text. -/
  | textStart
  /-- The end of the text. -/
  | textEnd
  /-- The start of a line. -/
  | lineStart
  /-- The end of a line. -/
  | lineEnd
  /-- The start of a line, where a carriage return and a newline end one line together. -/
  | lineStartCrlf
  /-- The end of a line, where a carriage return and a newline end one line together. -/
  | lineEndCrlf
  /-- The edge of a word. -/
  | boundary (rule : WordRule)
  /-- No edge of a word. -/
  | notBoundary (rule : WordRule)
  /-- The start of a word. -/
  | wordStart (rule : WordRule)
  /-- The end of a word. -/
  | wordEnd (rule : WordRule)
  /-- No word before. -/
  | wordStartHalf (rule : WordRule)
  /-- No word after. -/
  | wordEndHalf (rule : WordRule)
  deriving DecidableEq

/-- Whether an assertion holds between two characters; none stands for the edge of the text. -/
def Look.holds (l : Look) (before after : Option Char) : Bool :=
  match l with
  | textStart => before.isNone
  | textEnd => after.isNone
  | lineStart => before.all (· == '\n')
  | lineEnd => after.all (· == '\n')
  | lineStartCrlf => before.all fun c => c == '\n' || (c == '\r' && after != some '\n')
  | lineEndCrlf => after.all fun c => c == '\r' || (c == '\n' && before != some '\r')
  | boundary rule => before.any rule.isWord != after.any rule.isWord
  | notBoundary rule => before.any rule.isWord == after.any rule.isWord
  | wordStart rule => !before.any rule.isWord && after.any rule.isWord
  | wordEnd rule => before.any rule.isWord && !after.any rule.isWord
  | wordStartHalf rule => !before.any rule.isWord
  | wordEndHalf rule => !after.any rule.isWord

/-! ### Expressions -/

/-- A regular expression. -/
inductive Regex where
  /-- The empty text. -/
  | empty
  /-- One character of a set. -/
  | set (s : CharSet)
  /-- An assertion. -/
  | look (l : Look)
  /-- A group with a number of its own. -/
  | group (index : Nat) (r : Regex)
  /-- One after the other. -/
  | cat (r s : Regex)
  /-- The first or else the second. -/
  | alt (r s : Regex)
  /-- Repeated at least `min` times, at most `max` times if that is given. A greedy repetition tries
  one more round first. -/
  | rep (r : Regex) (min : Nat) (max : Option Nat) (greedy : Bool)
  deriving DecidableEq

namespace Regex

/-- The character that the expression matches, if it matches just one and says so plainly. -/
def char? : Regex → Option Char
  | set s => s.char?
  | _ => none

/-- Whether the expression takes no character in any match. -/
def takesNothing : Regex → Bool
  | empty | look _ => true
  | set _ => false
  | group _ r => r.takesNothing
  | cat r s | alt r s => r.takesNothing && s.takesNothing
  | rep r _ max _ => max == some 0 || r.takesNothing

/-- The least number of characters that a match takes; none if a set without members leaves that
open. -/
def minLength? : Regex → Option Nat
  | empty | look _ => some 0
  | set s => if s = .empty then none else some 1
  | group _ r => r.minLength?
  | cat r s => do return (← r.minLength?) + (← s.minLength?)
  | alt r s => do return Nat.min (← r.minLength?) (← s.minLength?)
  | rep r min _ _ => r.minLength?.map (min * ·)

/-- Whether every match surely takes a character. -/
def takesSomething (r : Regex) : Bool := r.minLength?.any (0 < ·)

/-! ### Sequences -/

/-- The expressions that follow each other in an expression, without those for the empty text. -/
def items : Regex → List Regex
  | empty => []
  | cat r s => r.items ++ s.items
  | r => [r]

/-- Expressions one after the other, as they are. -/
def join : List Regex → Regex
  | [] => empty
  | [r] => r
  | r :: rs => cat r (join rs)

/-- Expressions one after the other, in normal form. -/
def sequence (rs : List Regex) : Regex := join (rs.flatMap items)

/-- The expression that matches a text and nothing else. -/
def literal (t : Text) : Regex := join (t.map fun c => set (.single c))

/-- Items in runs: characters that follow each other are one run, any other item is one of its own.
-/
def runs : List Regex → List (List Regex)
  | [] => []
  | r :: rs =>
    match runs rs with
    | (s :: run) :: more =>
      if r.char?.isSome && s.char?.isSome then (r :: s :: run) :: more else [r] :: (s :: run) :: more
    | more => [r] :: more

/-! ### Alternatives -/

/-- The alternatives of an expression, in order. -/
def branches : Regex → List Regex
  | alt r s => r.branches ++ s.branches
  | r => [r]

/-- Alternatives in order, as they are. -/
def select : List Regex → Regex
  | [] => empty
  | [r] => r
  | r :: rs => alt r (select rs)

/-- The sets of alternatives that are single characters, or that are sets of more than one, if all
of them are of the same kind. -/
def mergeable? (rs : List Regex) : Option (List CharSet) := do
  let sets ← rs.mapM fun r => match r with
    | set s => some s
    | _ => none
  if sets.all (·.char?.isSome) || sets.all (·.char?.isNone) then some sets else none

/-- The part at the front that two lists have in common. -/
def commonFront : List (List Regex) → List (List Regex) → List (List Regex)
  | x :: xs, y :: ys => if x = y then x :: commonFront xs ys else []
  | _, _ => []

/-- The runs that all alternatives start with, and what is left of each. Only alternatives of at
least two runs are taken apart. -/
def factor? (rs : List Regex) : Option (List Regex × List Regex) :=
  match rs.map fun r => runs r.items with
  | first :: others =>
    let front := others.foldl commonFront first
    if front.isEmpty || (first :: others).any (·.length < 2) then none
    else some (front.flatten, (first :: others).map fun x => join (x.drop front.length).flatten)
  | [] => none

/-- The first of some alternatives that matches, in normal form: nested alternatives are
flattened, single characters or sets become one set, and what all alternatives start with is taken
out in front. `fuel` bounds how often that can happen. -/
def choiceWith : Nat → List Regex → Regex
  | 0, rs => select rs
  | fuel + 1, rs =>
    let rs := rs.flatMap branches
    match rs with
    | [] => empty
    | [r] => r
    | _ =>
      match mergeable? rs with
      | some sets => set (.unionAll sets)
      | none =>
        match factor? rs with
        | some (front, rests) => sequence (front ++ [choiceWith fuel rests])
        | none => select rs

/-- How many nodes an expression has. -/
def nodes : Regex → Nat
  | empty | set _ | look _ => 1
  | group _ r | rep r _ _ _ => r.nodes + 1
  | cat r s | alt r s => r.nodes + s.nodes + 1

/-- The first of some alternatives that matches, in normal form. -/
def choice (rs : List Regex) : Regex := choiceWith ((rs.headD empty).nodes + 1) rs

/-! ### Repetitions -/

/-- A repetition in normal form. What takes no character is repeated at most once, as more rounds
take no more. An unbounded repetition of what may be empty is one round or more, or none. -/
def repeated (r : Regex) (min : Nat) (max : Option Nat) (greedy : Bool) : Regex :=
  let (min, max) :=
    if r.takesNothing then (Nat.min min 1, some (Nat.min (max.getD 1) 1)) else (min, max)
  match min, max with
  | 0, some 0 => empty
  | 1, some 1 => r
  | 0, none =>
    if r.takesSomething then rep r 0 none greedy
    else rep (rep r 1 none greedy) 0 (some 1) greedy
  | min, max => rep r min max greedy

end Regex

end ModalEditor.Pattern
