import ModalEditor.Editor.Press

/-!
# Playback

A macro may play macros. The keys still to be played are kept as a stack of frames, one for each
macro under way, and are played one at a time until the stack is empty or the allowance is spent.
Every played key costs one of the allowance, so playback ends however macros play each other.
-/

namespace ModalEditor

/-- How much playback one run may still do. -/
structure Allowance where
  /-- The deepest nesting of macros. -/
  maxDepth : Nat
  /-- How many more keys may be played. -/
  remaining : Nat
  /-- Whether playback has been cut short. -/
  truncated : Bool := false
  deriving DecidableEq

namespace Allowance

/-- What the settings allow for one run. -/
def ofSettings (s : Settings) : Allowance := ⟨s.macroDepth, s.macroBudget, false⟩

/-- Whether macros may be nested to a depth; a macro that a typed key plays has depth one. -/
def permits (a : Allowance) (depth : Nat) : Bool := depth ≤ a.maxDepth

/-- Spends one key, if one remains. -/
def spend? (a : Allowance) : Option Allowance :=
  match a.remaining with
  | 0 => none
  | n + 1 => some { a with remaining := n }

/-- Notes that playback has been cut short. -/
def markTruncated (a : Allowance) : Allowance := { a with truncated := true }

theorem remaining_of_spend {a a' : Allowance} (h : a.spend? = some a') :
    a.remaining = a'.remaining + 1 := by
  unfold spend? at h
  split at h
  · simp at h
  · obtain rfl := Option.some.inj h
    assumption

@[simp] theorem remaining_markTruncated (a : Allowance) :
    a.markTruncated.remaining = a.remaining := rfl

end Allowance

/-- A macro under way. -/
structure Frame where
  /-- What is left of this round. -/
  rest : List Key
  /-- The keys of every round. -/
  keys : List Key
  /-- How many rounds follow. -/
  rounds : Nat
  deriving DecidableEq

/-- A macro about to be played a number of times. -/
def Frame.fresh (keys : List Key) (times : Nat) : Frame := ⟨[], keys, times⟩

/-- The next key of a stack of frames and what is left of the stack; the innermost macro comes
first. Macros that are through are dropped. -/
def nextKey? : List Frame → Option (Key × List Frame)
  | [] => none
  | ⟨key :: rest, keys, rounds⟩ :: frames => some (key, ⟨rest, keys, rounds⟩ :: frames)
  | ⟨[], key :: keys, rounds + 1⟩ :: frames => some (key, ⟨keys, key :: keys, rounds⟩ :: frames)
  | ⟨[], [], _⟩ :: frames => nextKey? frames
  | ⟨[], _, 0⟩ :: frames => nextKey? frames

namespace Editor

/-- Plays the keys of a stack of frames. The cursor is put in order after every key; for a key that
plays a macro that is when the macro is through. -/
def replay (settings : Settings) (a : Allowance) (frames : List Frame) (e : Editor) :
    Editor × Allowance :=
  match nextKey? frames with
  | none => (e.clampCursor, a)
  | some (key, frames) =>
    match _hspend : a.spend? with
    | none => (e.clampCursor, a.markTruncated)
    | some a' =>
      match e.press settings key with
      | .done e' => replay settings a' frames e'.clampCursor
      | .play e' keys times =>
        if a'.permits (frames.length + 1) then
          replay settings a' (.fresh keys times :: frames) e'
        else replay settings a'.markTruncated frames e'.clampCursor
termination_by a.remaining
decreasing_by all_goals simp [Allowance.remaining_of_spend _hspend]

/-- A typed key, and the macros it plays. -/
def typeKey (settings : Settings) (a : Allowance) (e : Editor) (key : Key) : Editor × Allowance :=
  match (e.capture key).press settings key with
  | .done e' => (e'.clampCursor, a)
  | .play e' keys times =>
    if a.permits 1 then replay settings a [.fresh keys times] e'
    else (e'.clampCursor, a.markTruncated)

/-- Typed keys, one after the other. -/
def typeKeys (settings : Settings) (a : Allowance) (e : Editor) : List Key → Editor × Allowance
  | [] => (e, a)
  | key :: keys =>
    let (e, a) := e.typeKey settings a key
    e.typeKeys settings a keys

theorem typeKeys_append (settings : Settings) (a : Allowance) (e : Editor) (ks ls : List Key) :
    e.typeKeys settings a (ks ++ ls) =
      (e.typeKeys settings a ks).1.typeKeys settings (e.typeKeys settings a ks).2 ls := by
  induction ks generalizing a e with
  | nil => rfl
  | cons key ks ih => simp only [List.cons_append, typeKeys, ih]

end Editor

end ModalEditor
