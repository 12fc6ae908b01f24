import ModalEditor.Pattern.Bytes
import ModalEditor.Pattern.Regex
import Std.Data.HashMap

/-!
# The size of a pattern

A pattern may not take more than ten mebibytes, either as the automaton that reads the bytes of a
text forward or as the one that reads them backward. This module counts the states of the two
automata and what they hold, part by part in the order in which the states are made. Equal tails of
a set of characters share their states as long as a memo table of limited size still knows them.
-/

namespace ModalEditor.Pattern

open Unicode (CharSet)

/-- Which way an automaton reads. -/
inductive Reading where
  /-- From the first byte to the last. -/
  | forward
  /-- From the last byte to the first. -/
  | backward
  deriving DecidableEq

/-- The states made so far and the bytes they hold beyond their own size. -/
structure Footprint where
  /-- The number of states, which is also the number of the next one. -/
  states : Nat
  /-- The bytes of their lists of successors. -/
  held : Nat

namespace Footprint

/-- The bytes of a state. -/
def stateSize : Nat := 32

/-- The largest number of bytes of an automaton. -/
def limit : Nat := 10 * 0x100000

/-- The bytes of an automaton. -/
def bytes (f : Footprint) : Nat := stateSize * f.states + f.held

/-- Whether the automaton is too large. -/
def isOver (f : Footprint) : Bool := limit < f.bytes

/-- Adds states. -/
def addStates (f : Footprint) (n : Nat) : Footprint := { f with states := f.states + n }

/-- Adds a state with `n` labelled transitions. -/
def addLabelled (f : Footprint) (n : Nat) : Footprint := ⟨f.states + 1, f.held + 8 * n⟩

/-- Adds a state that branches `n` ways. -/
def addBranching (f : Footprint) (n : Nat) : Footprint := ⟨f.states + 1, f.held + 4 * n⟩

/-- Does something `n` times, unless the automaton gets too large before. -/
def times : Nat → (Footprint → Footprint) → Footprint → Footprint
  | 0, _, f => f
  | n + 1, add, f => if f.isOver then f else times n add (add f)

end Footprint

/-! ### Sets of characters -/

/-- A table of limited size that remembers states by what they lead to. A new entry takes the place
of an older one that falls on the same slot. -/
structure Memo (κ : Type) where
  /-- The number of slots. -/
  size : Nat
  /-- What the slots hold. -/
  slots : Std.HashMap Nat (κ × Nat)

namespace Memo

/-- Mixes a number into a hash value. -/
def mix (h : UInt64) (n : Nat) : UInt64 := (h ^^^ n.toUInt64) * 1099511628211

/-- The slot of a list of numbers. -/
def slot {κ : Type} (m : Memo κ) (ns : List Nat) : Nat :=
  (ns.foldl mix 14695981039346656037).toNat % m.size

/-- The state that a slot remembers for a key. -/
def find? {κ : Type} [DecidableEq κ] (m : Memo κ) (slot : Nat) (key : κ) : Option Nat :=
  match m.slots[slot]? with
  | some (k, state) => if k = key then some state else none
  | none => none

/-- Remembers a state. -/
def insert {κ : Type} (m : Memo κ) (slot : Nat) (key : κ) (state : Nat) : Memo κ :=
  { m with slots := m.slots.insert slot (key, state) }

end Memo

/-- A transition: the bytes it accepts and the state it leads to. -/
abbrev Transition := ByteRange × Nat

/-- Neighbouring sequences that start with the same range, as this range with what is left of each.
-/
def bundles (sequences : List (List ByteRange)) : List (ByteRange × List (List ByteRange)) :=
  sequences.foldr (fun s bs =>
    match s, bs with
    | [], _ => bs
    | r :: rest, (r', rests) :: more =>
      if r = r' then (r', rest :: rests) :: more else (r, [rest]) :: bs
    | r :: rest, [] => [(r, [rest])]) []

/-- Adds the states that accept some byte sequences and then go on to the state `target`, and
answers the first of them. `depth` is the length of the longest sequence. -/
def addTails (target : Nat) : Nat → List (List ByteRange) → Footprint × Memo (List Transition) →
    Nat × Footprint × Memo (List Transition)
  | 0, _, acc => (target, acc)
  | depth + 1, sequences, acc =>
    if sequences.all (·.isEmpty) then (target, acc)
    else
      let (transitions, acc) := (bundles sequences).foldl (fun (done, acc) (r, rests) =>
        let (state, acc) := addTails target depth rests acc
        ((r, state) :: done, acc)) ([], acc)
      let transitions := transitions.reverse
      let (f, memo) := acc
      let slot := memo.slot (transitions.flatMap fun (r, state) => [r.first, r.last, state])
      match memo.find? slot transitions with
      | some state => (state, f, memo)
      | none =>
        (f.states, f.addLabelled transitions.length, memo.insert slot transitions f.states)

/-- Adds the states that accept one byte sequence backward before `state`, and answers the last. -/
def addBackward : List ByteRange → Nat → Footprint × Memo (Nat × ByteRange) →
    Nat × Footprint × Memo (Nat × ByteRange)
  | [], state, acc => (state, acc)
  | r :: rest, state, (f, memo) =>
    let slot := memo.slot [state, r.first, r.last]
    match memo.find? slot (state, r) with
    | some s => addBackward rest s (f, memo)
    | none =>
      addBackward rest f.states (f.addStates 1, memo.insert slot (state, r) f.states)

/-- Adds the states of a set of characters. -/
def addSet (dir : Reading) (s : CharSet) (f : Footprint) : Footprint :=
  match s.char? with
  | some c => f.addStates c.utf8Size
  | none =>
    if s.isAscii then (f.addStates 1).addLabelled s.ranges.length
    else
      let sequences := byteSequences s
      match dir with
      | .forward => (addTails f.states 4 sequences (f.addStates 1, ⟨10000, ∅⟩)).2.1
      | .backward =>
        let (f, _) := sequences.foldl (fun acc sequence =>
          (addBackward sequence (f.states + 1) acc).2) (f.addStates 2, ⟨1000, ∅⟩)
        { f with held := f.held + 4 * sequences.length }

/-! ### Alternatives of texts -/

/-- The bytes of an expression that is a text. -/
def textBytes? (r : Regex) : Option (List Nat) :=
  match r.items with
  | [] => none
  | items => (items.mapM Regex.char?).map fun cs => cs.flatMap fun c => bytesOf c.toNat

/-- The edges of a node of a tree of texts between two places where a text ends: each first byte with
what is left of the texts that start with it. -/
abbrev Edges := List (Nat × List (List Nat))

/-- Adds a text to the edges. -/
def Edges.insert (b : Nat) (rest : List Nat) : Edges → Edges
  | [] => [(b, [rest])]
  | (b', rests) :: edges =>
    if b = b' then (b', rests ++ [rest]) :: edges else (b', rests) :: Edges.insert b rest edges

/-- The edges of a node, divided where a text ends at it, last part first. A text that ends where
another has ended before, with nothing in between, divides nothing. -/
def divide (texts : List (List Nat)) : List Edges :=
  texts.foldl (fun parts t =>
    match t, parts with
    | [], [[], []] => [[], []]
    | [], parts => [] :: parts
    | b :: rest, part :: parts => Edges.insert b rest part :: parts
    | b :: rest, [] => [Edges.insert b rest []]) [[]]

/-- Adds the states of a tree of texts, one below the other. `depth` is more than the length of the
longest text. -/
def addTree : Nat → List (List Nat) → Footprint → Footprint
  | 0, _, f => f
  | depth + 1, texts, f =>
    let parts := divide texts
    if parts.all (·.isEmpty) then f
    else
      let f := parts.flatten.foldl (fun f edge => addTree depth edge.2 f) f
      let f := parts.foldl (fun f part =>
        match part with
        | [] => f
        | [_] => f.addStates 1
        | _ => f.addLabelled part.length) f
      let ways := (parts.filter (!·.isEmpty)).length + (parts.length - 1)
      if ways = 1 then f else f.addBranching ways

/-! ### Expressions -/

namespace Regex

/-- Whether every match starts at the start of the text. -/
def startsAtStart : Regex → Bool
  | look l => l == .textStart
  | group _ r => r.startsAtStart
  | cat r s => r.startsAtStart || (r.takesNothing && s.startsAtStart)
  | alt r s => r.startsAtStart && s.startsAtStart
  | rep r min _ _ => 0 < min && r.startsAtStart
  | _ => false

/-- Whether every match ends at the end of the text. -/
def endsAtEnd : Regex → Bool
  | look l => l == .textEnd
  | group _ r => r.endsAtEnd
  | cat r s => s.endsAtEnd || (s.takesNothing && r.endsAtEnd)
  | alt r s => r.endsAtEnd && s.endsAtEnd
  | rep r min _ _ => 0 < min && r.endsAtEnd
  | _ => false

/-- Adds what an alternative takes beside its own states, where `earlier` alternatives come before
it: the state that branches and the one where the alternatives meet are made after the second. -/
def addBranch (earlier : Nat) (f : Footprint) : Footprint :=
  if earlier = 0 then f
  else if earlier = 1 then (f.addBranching 2).addStates 1
  else { f with held := f.held + 4 }

/-- The texts of the alternatives of an expression, in the order of reading, if all are texts. -/
def texts? (dir : Reading) (r : Regex) : Option (List (List Nat)) :=
  (r.branches.mapM textBytes?).map fun ts => match dir with
    | .forward => ts
    | .backward => ts.map List.reverse

/-- Adds the states of an expression that is an alternative, or the last ones, after `earlier`
others. -/
def footprint (dir : Reading) (earlier : Nat) : Regex → Footprint → Footprint
  | empty, f | look _, f => addBranch earlier (f.addStates 1)
  | set s, f => addBranch earlier (addSet dir s f)
  | group _ r, f =>
    addBranch earlier <| match dir with
      | .forward => (r.footprint dir 0 (f.addStates 1)).addStates 1
      | .backward => r.footprint dir 0 f
  | cat r s, f =>
    addBranch earlier <| match dir with
      | .forward => s.footprint dir 0 (r.footprint dir 0 f)
      | .backward => r.footprint dir 0 (s.footprint dir 0 f)
  | alt r s, f =>
    match if earlier = 0 then texts? dir (alt r s) else none with
    | some texts =>
      addTree ((texts.map List.length).foldl Nat.max 0 + 1) texts (f.addStates 1)
    | none => s.footprint dir (earlier + 1) (addBranch earlier (r.footprint dir 0 f))
  | rep r min max _, f =>
    addBranch earlier <| match min, max with
      | 0, some 1 => (r.footprint dir 0 (f.addBranching 2)).addStates 1
      | 0, none => r.footprint dir 0 (f.addBranching 2)
      | min, none => (Footprint.times min (fun f => r.footprint dir 0 f) f).addBranching 2
      | min, some max =>
        let f := if min = 0 then f.addStates 1
          else Footprint.times min (fun f => r.footprint dir 0 f) f
        if min = max then f
        else
          Footprint.times (max - min) (fun f => r.footprint dir 0 (f.addBranching 2))
            (f.addStates 1)

/-- The automaton of a pattern. It also reads what comes before a match, unless every match starts
where the reading starts, and it marks the ends of the match when it reads forward. -/
def automaton (dir : Reading) (r : Regex) : Footprint :=
  let anchored := match dir with
    | .forward => r.startsAtStart
    | .backward => r.endsAtEnd
  let start : Footprint :=
    if anchored then ⟨1, 0⟩ else ((Footprint.mk 0 0).addBranching 2 |>.addStates 1).addLabelled 1
  match dir with
  | .forward => (r.footprint dir 0 (start.addStates 1)).addStates 2
  | .backward => (r.footprint dir 0 start).addStates 1

/-- Whether the pattern is small enough. -/
def fits (r : Regex) : Bool := !(r.automaton .forward).isOver && !(r.automaton .backward).isOver

end Regex

end ModalEditor.Pattern
