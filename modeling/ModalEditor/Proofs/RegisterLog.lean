import Mathlib.Data.List.Induction
import ModalEditor.Macro
import ModalEditor.Proofs.RegisterRing

/-!
# Registers as a log

What the registers hold after any sequence of operations, as a function of the sequence alone. A
register named by an operation holds what was set last under either case of the name and what was
added since; the ring and the unnamed register hold the newest recorded texts (`foldl_apply_holds`).
The ring is filled from slot `0` on, so a slot that is not set has nothing above it, and the
exception of `record_shifts_iff` does not arise. One operation is `Represents.apply`.
-/

namespace ModalEditor

/-! ### Operations -/

/-- An operation on the registers. -/
inductive RegisterOp where
  /-- Replaces the text of a register. -/
  | write (name : Char) (t : Text)
  /-- Adds to a register. -/
  | append (name : Char) (t : Text)
  /-- Stores a text that an operator took in the register chosen for it. -/
  | store (name : Char) (t : Text)
  /-- Unsets a register. -/
  | clear (name : Char)
  /-- Records a text that an operator took. -/
  | record (t : Text)
  /-- Records a key of a macro. -/
  | capture (name : Char) (key : Key)
  /-- Ends the recording of a macro. -/
  | finish (name : Char)

/-- What an operation does to the register it names. -/
inductive Change where
  /-- The register has this text from now on, or is not set. -/
  | set (t? : Option Text)
  /-- The text goes to the end of the register. -/
  | add (t : Text)
  /-- One final `q` goes. -/
  | dropQ

namespace Change

/-- What a register holds after a change. -/
def apply (old : Option Text) : Change → Option Text
  | set t? => t?
  | add t => some (old.getD [] ++ t)
  | dropQ => old.map fun t => if t.getLast? = some 'q' then t.dropLast else t

theorem foldl_apply_add (old : Option Text) (texts : List Text) :
    ((texts.map add).foldl apply old).getD [] = old.getD [] ++ texts.flatten := by
  induction texts generalizing old with
  | nil => simp
  | cons t texts ih => simp [ih, apply]

end Change

namespace RegisterOp

/-- The registers after an operation. -/
def apply (r : RegisterFile) : RegisterOp → RegisterFile
  | write name t => r.write name t
  | append name t => r.append name t
  | store name t => r.store name t
  | clear name => r.clear name
  | record t => r.record t
  | capture name key => r.capture name key
  | finish name => r.finish name

/-- The register that an operation names, and what it does to it. -/
def change? : RegisterOp → Option (Char × Change)
  | write name t => some (name, .set (some t))
  | append name t => some (name, .add t)
  | store name t => some (name, if name.isUpper then .add t else .set (some t))
  | clear name => some (name, .set none)
  | record _ => none
  | capture name key => some (name, .add key.write)
  | finish name => some (name, .dropQ)

/-- The register that an operation names. -/
def name? (op : RegisterOp) : Option Char := op.change?.map (·.1)

/-- The text that an operation records. -/
def recorded? : RegisterOp → Option Text
  | record t => some t
  | _ => none

end RegisterOp

/-- The recorded texts, newest first. -/
def recorded (ops : List RegisterOp) : List Text := (ops.filterMap RegisterOp.recorded?).reverse

/-- What is done to a register under either case of its name, in order. -/
def changesOf (ops : List RegisterOp) (name : Char) : List Change :=
  ops.filterMap fun op =>
    op.change?.bind fun (named, change) =>
      if named.toLower = name.toLower then some change else none

/-- What a register holds after all that was done to it. -/
def held (ops : List RegisterOp) (name : Char) : Option Text :=
  (changesOf ops name).foldl Change.apply none

section Sequences

variable {ops : List RegisterOp} {op : RegisterOp} {named name : Char} {change : Change}

theorem recorded_concat (ops : List RegisterOp) (op : RegisterOp) :
    recorded (ops ++ [op]) = op.recorded?.toList ++ recorded ops := by
  cases hop : op.recorded? <;> simp [recorded, hop]

theorem held_concat_of_change (h : op.change? = some (named, change)) :
    held (ops ++ [op]) name =
      if named.toLower = name.toLower then change.apply (held ops name) else held ops name := by
  unfold held changesOf
  split
  · rename_i heq
    simp [h, heq]
  · rename_i hne
    simp [h, hne]

theorem held_concat_of_record (t : Text) : held (ops ++ [.record t]) name = held ops name := by
  simp [held, changesOf, RegisterOp.change?]

theorem recorded?_of_change (h : op.change? = some (named, change)) : op.recorded? = none := by
  cases op with
  | record t => cases h
  | _ => rfl

end Sequences

/-! ### One operation -/

namespace RegisterFile

variable {r : RegisterFile} {ops : List RegisterOp} {op : RegisterOp} {named name : Char}
  {change : Change}

theorem get?_append (r : RegisterFile) (name other : Char) (t : Text) :
    (r.append name t).slots.get? other =
      if name.toLower = other then some ((r.slots.get? other).getD [] ++ t)
      else r.slots.get? other := by
  rw [append, get?_write]
  split
  · rename_i heq
    rw [read, heq]
  · rfl

theorem get?_finish (r : RegisterFile) (name other : Char) :
    (r.finish name).slots.get? other =
      if name.toLower = other then Change.dropQ.apply (r.slots.get? other)
      else r.slots.get? other := by
  unfold finish read
  by_cases heq : name.toLower = other
  · subst heq
    cases hget : r.slots.get? name.toLower with
    | none => simp [hget, Change.apply]
    | some t =>
      by_cases hlast : t.getLast? = some 'q'
      · simp [hlast, get?_write, Change.apply]
      · simp [hlast, hget, Change.apply]
  · rw [if_neg heq]
    split
    · rw [get?_write, if_neg heq]
    · rfl

/-- An operation changes the register that it names, and no other. -/
theorem get?_apply (h : op.change? = some (named, change)) :
    (op.apply r).slots.get? name =
      if named.toLower = name then change.apply (r.slots.get? name) else r.slots.get? name := by
  cases op with
  | record t => cases h
  | write written t =>
    obtain ⟨rfl, rfl⟩ := Prod.mk.inj (Option.some.inj h)
    exact get?_write ..
  | append added t =>
    obtain ⟨rfl, rfl⟩ := Prod.mk.inj (Option.some.inj h)
    exact get?_append ..
  | store stored t =>
    obtain ⟨rfl, rfl⟩ := Prod.mk.inj (Option.some.inj h)
    unfold RegisterOp.apply store
    by_cases hupper : stored.isUpper = true
    · simp only [if_pos hupper]
      exact get?_append ..
    · simp only [if_neg hupper]
      exact get?_write ..
  | clear cleared =>
    obtain ⟨rfl, rfl⟩ := Prod.mk.inj (Option.some.inj h)
    exact Slots.get?_erase ..
  | capture captured key =>
    obtain ⟨rfl, rfl⟩ := Prod.mk.inj (Option.some.inj h)
    exact get?_append ..
  | finish finished =>
    obtain ⟨rfl, rfl⟩ := Prod.mk.inj (Option.some.inj h)
    exact get?_finish ..

/-- So operations on one register never change what another reads. -/
theorem read_apply_of_ne (h : op.name? = some named) (hne : name.toLower ≠ named.toLower) :
    (op.apply r).read name = r.read name := by
  obtain ⟨⟨_, change⟩, hchange, rfl⟩ := Option.map_eq_some_iff.1 h
  rw [read, get?_apply hchange, if_neg (Ne.symm hne)]
  rfl

/-! ### The registers and the log -/

/-- The registers hold what the log says: the ring and the unnamed register the newest recorded
texts, any other what was done to it, all under lower-case names. -/
structure Represents (ops : List RegisterOp) (r : RegisterFile) : Prop where
  slot : ∀ i : Fin 10, r.slots.get? (ringSlot i) = (recorded ops)[i.val]?
  unnamed : r.slots.get? unnamedRegister = (recorded ops).head?
  other : ∀ name, name ∉ ringSlots → name ≠ unnamedRegister →
    r.slots.get? name = if name.isUpper then none else held ops name

/-- Only recording touches the ring and the unnamed register. -/
abbrev OnlyRecorded (ops : List RegisterOp) : Prop :=
  ∀ op ∈ ops, ∀ name ∈ op.name?, name ∉ ringSlots ∧ name ≠ unnamedRegister

theorem Represents.empty : Represents [] {} where
  slot _ := rfl
  unnamed := rfl
  other name _ _ := by
    change none = _
    split <;> rfl

/-- Recording moves the log up by one text. An unset slot has nothing above it. -/
theorem Represents.record (h : Represents ops r) (t : Text) :
    Represents (ops ++ [.record t]) (r.record t) := by
  have hrecorded : recorded (ops ++ [.record t]) = t :: recorded ops := recorded_concat ops _
  refine ⟨fun i => ?_, ?_, fun name hring hunnamed => ?_⟩
  · rw [hrecorded]
    cases i using Fin.cases with
    | zero => rw [get?_record, if_pos (.inl rfl)]; rfl
    | succ i =>
      rw [get?_record_succ, h.slot, h.slot, Fin.val_succ, List.getElem?_cons_succ]
      cases hbelow : (recorded ops)[i.castSucc.val]? with
      | some below => simpa using hbelow.symm
      | none =>
        have hlength : (recorded ops).length ≤ i.val := List.getElem?_eq_none_iff.1 hbelow
        simp [hlength, Nat.le_succ_of_le hlength]
  · rw [get?_record, if_pos (.inr rfl), hrecorded, List.head?_cons]
  · rw [get?_record_of_notMem t hring hunnamed, h.other name hring hunnamed, held_concat_of_record]

theorem Represents.applyChange (h : Represents ops r) (hchange : op.change? = some (named, change))
    (hring : named ∉ ringSlots) (hunnamed : named ≠ unnamedRegister) :
    Represents (ops ++ [op]) (op.apply r) := by
  have hrecorded : recorded (ops ++ [op]) = recorded ops := by
    rw [recorded_concat, recorded?_of_change hchange, Option.toList_none, List.nil_append]
  refine ⟨fun i => ?_, ?_, fun name hother hname => ?_⟩
  · have hne : named.toLower ≠ ringSlot i := fun heq =>
      toLower_notMem_ringSlots hring (heq ▸ List.get_mem ringSlots i)
    rw [get?_apply hchange, if_neg hne, h.slot, hrecorded]
  · rw [get?_apply hchange, if_neg (toLower_ne_unnamedRegister hunnamed), h.unnamed, hrecorded]
  · rw [get?_apply hchange, h.other name hother hname, held_concat_of_change hchange]
    by_cases hupper : name.isUpper = true
    · have hne : named.toLower ≠ name := fun heq => by
        simp [← heq] at hupper
      rw [if_neg hne, if_pos hupper, if_pos hupper]
    · rw [if_neg hupper, if_neg hupper, toLower_of_not_isUpper (Bool.eq_false_of_not_eq_true hupper)]

/-- **One operation** keeps the registers and the log together. -/
theorem Represents.apply (h : Represents ops r)
    (hop : ∀ name ∈ op.name?, name ∉ ringSlots ∧ name ≠ unnamedRegister) :
    Represents (ops ++ [op]) (op.apply r) := by
  cases hchange : op.change? with
  | some pair =>
    obtain ⟨hring, hunnamed⟩ := hop pair.1 (Option.map_eq_some_iff.2 ⟨pair, hchange, rfl⟩)
    exact h.applyChange hchange hring hunnamed
  | none =>
    cases op with
    | record t => exact h.record t
    | _ => cases hchange

/-- A sequence of operations, by induction on the last one. -/
theorem represents_foldl (h : OnlyRecorded ops) :
    Represents ops (ops.foldl (fun r op => op.apply r) {}) := by
  induction ops using List.reverseRecOn with
  | nil => exact .empty
  | append_singleton ops op ih =>
    rw [List.foldl_concat]
    exact (ih fun op hop => h op (List.mem_append_left _ hop)).apply (h op (by simp))

/-- A register holds a text, and is listed with it, or it is not set: it reads empty and is not
listed. -/
def Holds (r : RegisterFile) (name : Char) (t? : Option Text) : Prop :=
  r.read name = t?.getD [] ∧ ∀ t, (name.toLower, t) ∈ r.entries ↔ t? = some t

theorem holds_of_get?_toLower {t? : Option Text} (h : r.slots.get? name.toLower = t?) :
    r.Holds name t? := by
  refine ⟨by rw [read, h], fun t => ?_⟩
  rw [entries, Slots.mem_entries_iff, h]

theorem held_toLower (ops : List RegisterOp) (name : Char) :
    held ops name.toLower = held ops name := by
  simp [held, changesOf]

/-- The registers that are set are under lower-case names. -/
theorem Represents.isUpper_of_mem (h : Represents ops r) {entry : Char × Text}
    (hmem : entry ∈ r.entries) : entry.1.isUpper = false := by
  by_contra hupper
  have hupper : entry.1.isUpper = true := Bool.eq_true_of_not_eq_false hupper
  have halpha : entry.1.isAlpha = true := (Bool.or_eq_true _ _).mpr (.inl hupper)
  have hring : entry.1 ∉ ringSlots := fun hin => by
    rw [isAlpha_of_mem_ringSlots hin] at halpha
    cases halpha
  have hunnamed : entry.1 ≠ unnamedRegister := fun heq => by
    rw [heq] at halpha
    exact absurd halpha (by decide)
  have hget : r.slots.get? entry.1 = some entry.2 := Slots.mem_entries_iff.1 hmem
  rw [h.other _ hring hunnamed, if_pos hupper] at hget
  cases hget

/-- **The registers are a log.** After any operations on empty registers of which only recording
touches the ring and the unnamed register: slot `i` holds the text recorded `i` texts before the
newest, the unnamed register the newest, and any other register what was set last under either
case of its name (the start counts as a clearing) with what was added since behind it. What names
one register changes no other, and the registers that are set are listed once each, in order,
under lower-case names. -/
theorem foldl_apply_holds (h : OnlyRecorded ops) :
    let r := ops.foldl (fun r op => op.apply r) {}
    (∀ i : Fin 10, r.Holds (ringSlot i) (recorded ops)[i.val]?) ∧
      r.Holds unnamedRegister (recorded ops).head? ∧
      (∀ name, name ∉ ringSlots → name ≠ unnamedRegister →
        r.Holds name (held ops name) ∧
          ∀ (before : List Change) (last : Option Text) (since : List Text),
            .set none :: changesOf ops name = before ++ .set last :: since.map .add →
              r.read name = last.getD [] ++ since.flatten) ∧
      (∀ op ∈ ops, ∀ named ∈ op.name?, ∀ (file : RegisterFile) (name : Char),
        name.toLower ≠ named.toLower → (op.apply file).read name = file.read name) ∧
      Ascending r.entries ∧ ∀ entry ∈ r.entries, entry.1.isUpper = false := by
  intro r
  have hr : Represents ops r := represents_foldl h
  have hother {name : Char} (hring : name ∉ ringSlots) (hname : name ≠ unnamedRegister) :
      r.Holds name (held ops name) := by
    refine holds_of_get?_toLower ?_
    rw [hr.other _ (toLower_notMem_ringSlots hring) (toLower_ne_unnamedRegister hname),
      if_neg (by simp), held_toLower]
  refine ⟨fun i => ?_, ?_, fun name hring hname => ⟨hother hring hname, ?_⟩, ?_,
    r.slots.ascending, fun entry hmem => hr.isUpper_of_mem hmem⟩
  · refine holds_of_get?_toLower ?_
    rw [(toLower_eq_iff (isAlpha_ringSlot i)).2 rfl, hr.slot]
  · refine holds_of_get?_toLower ?_
    rw [(toLower_eq_iff (c := unnamedRegister) (by decide)).2 rfl, hr.unnamed]
  · intro before last since hchanges
    have hheld : held ops name =
        (before ++ Change.set last :: since.map Change.add).foldl Change.apply none := by
      rw [← hchanges]
      rfl
    rw [(hother hring hname).1, hheld, List.foldl_append, List.foldl_cons,
      Change.foldl_apply_add]
    rfl
  · intro op hop named hnamed file name hne
    exact read_apply_of_ne hnamed hne

/-- A capital letter adds, `finish` takes back the key that stopped a macro, and the second text
recorded moves the first to slot `1`. -/
theorem foldl_apply_holds_nine :
    let ops : List RegisterOp :=
      [.store 'a' ['x'], .record ['z'], .store 'A' ['y'], .capture 'b' (.char 'd'),
        .capture 'B' (.char 'q'), .finish 'b', .write 'c' ['w'], .clear 'C', .record ['v']]
    let r := ops.foldl (fun r op => op.apply r) {}
    OnlyRecorded ops ∧ r.read 'a' = ['x', 'y'] ∧ r.read 'B' = ['d'] ∧ r.read 'c' = [] ∧
      r.read (ringSlot 1) = ['z'] ∧ r.read unnamedRegister = ['v'] := by
  intro ops r
  have h : OnlyRecorded ops := by
    simp [ops, OnlyRecorded, RegisterOp.name?, RegisterOp.change?, ringSlots, unnamedRegister]
  obtain ⟨hslot, hunnamed, hother, -, -, -⟩ := foldl_apply_holds h
  refine ⟨h, (hother 'a' (by decide) (by decide)).1.1, (hother 'B' (by decide) (by decide)).1.1,
    (hother 'c' (by decide) (by decide)).1.1, (hslot 1).1, hunnamed.1⟩

end RegisterFile

end ModalEditor
