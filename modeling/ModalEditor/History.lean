import ModalEditor.Text.Buffer

/-!
# History

The history is a line of checkpoints, one of which is current. A checkpoint pairs a buffer with
whatever else undo brings back. Checkpoints are taken before an edit; one taken after an undo drops
those that redo could have reached. `entries` lists the line from the oldest checkpoint to the
newest and `index?` says where the current one stands.
-/

namespace ModalEditor

/-- A buffer and what belongs to it. -/
structure Checkpoint (σ : Type) where
  /-- The text at that moment. -/
  buffer : Buffer
  /-- What else is brought back. -/
  snapshot : σ
  deriving DecidableEq

/-- A line of checkpoints with a current one. -/
inductive History (σ : Type) where
  /-- No checkpoint has been taken. -/
  | empty
  /-- The checkpoints before the current one, nearest first, the current one, and those after it,
  nearest first. -/
  | line (before : List (Checkpoint σ)) (current : Checkpoint σ) (after : List (Checkpoint σ))
  deriving DecidableEq

namespace History

variable {σ : Type}

instance : Inhabited (History σ) := ⟨empty⟩

/-- All checkpoints, oldest first. -/
def entries : History σ → List (Checkpoint σ)
  | empty => []
  | line before current after => before.reverse ++ current :: after

/-- How many checkpoints there are. -/
def size : History σ → Nat
  | empty => 0
  | line before _ after => before.length + 1 + after.length

/-- Where the current checkpoint stands among the entries. -/
def index? : History σ → Option Nat
  | empty => none
  | line before _ _ => some before.length

/-- The current checkpoint. -/
def current? : History σ → Option (Checkpoint σ)
  | empty => none
  | line _ current _ => some current

/-- The newest checkpoint. -/
def newest? : History σ → Option (Checkpoint σ)
  | empty => none
  | line _ current after => some (after.getLast?.getD current)

/-- Takes a checkpoint after the current one and drops those that followed it. Nothing happens if
the newest checkpoint is the same. -/
def checkpoint [DecidableEq σ] (h : History σ) (c : Checkpoint σ) : History σ :=
  if h.newest? = some c then h
  else
    match h with
    | empty => line [] c []
    | line before current _ => line (current :: before) c []

/-- Makes the checkpoint `n` places back the current one, or the oldest. -/
def back : Nat → History σ → History σ
  | n + 1, line (c :: before) current after => back n (line before c (current :: after))
  | _, h => h

/-- Makes the checkpoint `n` places on the current one, or the newest. -/
def forth : Nat → History σ → History σ
  | n + 1, line before current (c :: after) => forth n (line (current :: before) c after)
  | _, h => h

/-- The history before an undo: an edited buffer is kept as a checkpoint, so that redo can return
to it. -/
def keepLive [DecidableEq σ] (h : History σ) (live : Checkpoint σ) : History σ :=
  match h.current? with
  | some c => if c.buffer = live.buffer then h else h.checkpoint live
  | none => h

/-- The checkpoint to bring back after a move from `h` to `h'`, if the move led anywhere. -/
def arrival? (h h' : History σ) : Option (Checkpoint σ) :=
  if h.index? = h'.index? then none else h'.current?

/-- Goes back `count` checkpoints from the live state. Answers the checkpoint to bring back, unless
the first one was current already. -/
def undo [DecidableEq σ] (h : History σ) (live : Checkpoint σ) (count : Nat) :
    History σ × Option (Checkpoint σ) :=
  let kept := h.keepLive live
  let moved := kept.back count
  (moved, kept.arrival? moved)

/-- Goes on `count` checkpoints. Answers the checkpoint to bring back, unless the last one was
current already. -/
def redo (h : History σ) (count : Nat) : History σ × Option (Checkpoint σ) :=
  let moved := h.forth count
  (moved, h.arrival? moved)

/-! ### The line -/

theorem length_entries (h : History σ) : h.entries.length = h.size := by
  cases h <;> simp [entries, size]
  omega

/-- The current checkpoint is the entry at the index. -/
theorem getElem?_index {h : History σ} {i : Nat} (hi : h.index? = some i) :
    h.entries[i]? = h.current? := by
  cases h with
  | empty => simp [index?] at hi
  | line before current after =>
    obtain rfl := Option.some.inj hi
    simp [entries, current?]

@[simp] theorem entries_back (n : Nat) (h : History σ) : (h.back n).entries = h.entries := by
  fun_induction back n h with
  | case1 n c before current after ih => simpa [entries] using ih
  | case2 => rfl

@[simp] theorem entries_forth (n : Nat) (h : History σ) : (h.forth n).entries = h.entries := by
  fun_induction forth n h with
  | case1 n before current c after ih => simpa [entries] using ih
  | case2 => rfl

/-- Going back moves the index down by the count, at most to the first checkpoint. -/
@[simp] theorem index?_back (n : Nat) (h : History σ) :
    (h.back n).index? = h.index?.map (· - n) := by
  fun_induction back n h with
  | case1 n c before current after ih =>
    rw [ih]
    simp [index?]
  | case2 n h hne =>
    cases h with
    | empty => rfl
    | line before current after =>
      cases before with
      | nil => simp [index?]
      | cons c before =>
        cases n with
        | zero => simp [index?]
        | succ n => exact absurd rfl (hne n c before current after rfl)

end History

end ModalEditor
