import Mathlib.Data.Char
import Mathlib.Data.List.Nodup
import Mathlib.Data.List.Sort
import ModalEditor.Register

/-!
# The ring of recorded texts

Recording a text moves what the ring holds up one slot, and every slot reads as the one below it
did before (`record_shifts_iff`), with one exception. A slot that is not set is not copied, so it
leaves the slot above it as it was: the text that stood there stays, instead of giving way to
nothing. In one pass from the oldest slot down each slot is read before it is written
(`get?_shiftAlong`), which carries the result.
-/

namespace ModalEditor

/-- The name of a slot of the ring. -/
def ringSlot (i : Fin 10) : Char := ringSlots.get i

/-! ### Entries of a store -/

theorem Slots.mem_entries_iff {α : Type} {s : Slots α} {name : Char} {value : α} :
    (name, value) ∈ s.entries ↔ s.get? name = some value := by
  have hnodup : (s.entries.map Prod.fst).Nodup :=
    List.pairwise_map.2 (s.ascending.imp fun hlt => Char.ne_of_lt hlt)
  constructor
  · intro hmem
    have hfound : (s.entries.find? fun entry => entry.1 == name).isSome :=
      List.find?_isSome.2 ⟨_, hmem, by simp⟩
    obtain ⟨entry, hentry⟩ := Option.isSome_iff_exists.1 hfound
    have hname : entry.1 = name := by simpa using List.find?_some hentry
    have heq : entry = (name, value) :=
      List.inj_on_of_nodup_map hnodup (List.mem_of_find?_eq_some hentry) hmem hname
    simp [get?, hentry, heq]
  · intro hget
    obtain ⟨entry, hentry, hvalue⟩ := Option.map_eq_some_iff.1 hget
    have hname : entry.1 = name := by simpa using List.find?_some hentry
    have hmem := List.mem_of_find?_eq_some hentry
    rwa [← hname, ← hvalue]

/-- A store is told by the values under its names. -/
theorem Slots.ext_get? {α : Type} {s s' : Slots α} (h : ∀ name, s.get? name = s'.get? name) :
    s = s' := by
  have : Std.Irrefl fun x y : Char × α => x.1 < y.1 := ⟨fun x => lt_irrefl x.1⟩
  have : Std.Antisymm fun x y : Char × α => x.1 < y.1 :=
    ⟨fun _ _ hlt hgt => absurd hgt (lt_asymm hlt)⟩
  have hentries : s.entries = s'.entries :=
    s.ascending.eq_of_mem_iff s'.ascending fun (name, value) => by
      rw [mem_entries_iff, mem_entries_iff, h]
  obtain ⟨entries, hascending⟩ := s
  obtain ⟨entries', hascending'⟩ := s'
  subst hentries
  rfl

theorem RegisterFile.ext_get? {r r' : RegisterFile}
    (h : ∀ name, r.slots.get? name = r'.slots.get? name) : r = r' :=
  congrArg RegisterFile.mk (Slots.ext_get? h)

namespace RegisterFile

variable {r : RegisterFile} {name : Char} {names : List Char}

/-! ### One copy, and a pass of copies -/

theorem get?_copy (r : RegisterFile) (source target name : Char) :
    (r.copy source target).slots.get? name =
      if target = name then (r.slots.get? source).or (r.slots.get? name)
      else r.slots.get? name := by
  unfold copy
  split
  · rename_i t hset
    by_cases h : target = name
    · simp [h, hset]
    · simp [h]
  · rename_i hunset
    simp [hunset]

/-- Copies every register of a list to the one behind it, the last first. -/
def shiftAlong (names : List Char) (r : RegisterFile) : RegisterFile :=
  (names.zip names.tail).foldr (fun pair acc => acc.copy pair.1 pair.2) r

theorem shiftAlong_cons_cons (first second : Char) (rest : List Char) (r : RegisterFile) :
    shiftAlong (first :: second :: rest) r =
      (shiftAlong (second :: rest) r).copy first second := rfl

/-- The first register of the list, and those that are not in it, stay as they are. -/
theorem get?_shiftAlong_of_notMem (h : name ∉ names.tail) :
    (shiftAlong names r).slots.get? name = r.slots.get? name := by
  induction names with
  | nil => rfl
  | cons first rest ih =>
    cases rest with
    | nil => rfl
    | cons second rest =>
      obtain ⟨hne, hrest⟩ := not_or.1 (mt List.mem_cons.2 h)
      rw [shiftAlong_cons_cons, get?_copy, if_neg (Ne.symm hne)]
      exact ih hrest

/-- Any other register takes the text of the one before it, or keeps its own if that is not set. -/
theorem get?_shiftAlong (h : names.Nodup) {pair : Char × Char}
    (hmem : pair ∈ names.zip names.tail) :
    (shiftAlong names r).slots.get? pair.2 =
      (r.slots.get? pair.1).or (r.slots.get? pair.2) := by
  induction names with
  | nil => cases hmem
  | cons first rest ih =>
    cases rest with
    | nil => cases hmem
    | cons second rest =>
      obtain ⟨hfirst, hnodup⟩ := List.nodup_cons.1 h
      have hunread : first ∉ rest := fun hin => hfirst (List.mem_cons_of_mem _ hin)
      have hsecond : second ∉ rest := (List.nodup_cons.1 hnodup).1
      rw [shiftAlong_cons_cons, get?_copy]
      rcases List.mem_cons.1 hmem with rfl | hmem
      · -- the passes before this one have changed neither register
        rw [if_pos rfl, get?_shiftAlong_of_notMem hunread, get?_shiftAlong_of_notMem hsecond]
      · have hin : pair.2 ∈ rest := (List.of_mem_zip hmem).2
        rw [if_neg fun heq : second = pair.2 => hsecond (heq ▸ hin)]
        exact ih hnodup hmem

/-! ### Recording a text -/

theorem get?_write (r : RegisterFile) (name other : Char) (t : Text) :
    (r.write name t).slots.get? other =
      if name.toLower = other then some t else r.slots.get? other :=
  Slots.get?_insert ..

theorem shiftRing_eq (r : RegisterFile) : r.shiftRing = shiftAlong ringSlots r := rfl

theorem get?_record (r : RegisterFile) (t : Text) (name : Char) :
    (r.record t).slots.get? name =
      if name = '0' ∨ name = unnamedRegister then some t
      else (shiftAlong ringSlots r).slots.get? name := by
  have hlower : ('0').toLower = '0' ∧ unnamedRegister.toLower = unnamedRegister := by decide
  rw [record, shiftRing_eq, get?_write, get?_write, hlower.1, hlower.2]
  by_cases hzero : name = '0'
  · simp [hzero]
  · by_cases hunnamed : name = unnamedRegister
    · simp [hunnamed]
    · simp [hzero, hunnamed, Ne.symm hzero, Ne.symm hunnamed]

theorem get?_record_of_notMem (t : Text) (hring : name ∉ ringSlots)
    (hunnamed : name ≠ unnamedRegister) :
    (r.record t).slots.get? name = r.slots.get? name := by
  have hzero : name ≠ '0' := fun heq => hring (heq ▸ List.mem_cons_self)
  rw [get?_record, if_neg (not_or.2 ⟨hzero, hunnamed⟩),
    get?_shiftAlong_of_notMem fun hin => hring (List.mem_of_mem_tail hin)]

/-- A slot takes the text of the one below it, or keeps its own if that is not set. -/
theorem get?_record_succ (r : RegisterFile) (t : Text) (i : Fin 9) :
    (r.record t).slots.get? (ringSlot i.succ) =
      (r.slots.get? (ringSlot i.castSucc)).or (r.slots.get? (ringSlot i.succ)) := by
  have hpair : ∀ i : Fin 9,
      (ringSlot i.castSucc, ringSlot i.succ) ∈ ringSlots.zip ringSlots.tail := by decide +kernel
  have hnames : ∀ i : Fin 9, ringSlot i.succ ≠ '0' ∧ ringSlot i.succ ≠ unnamedRegister := by
    decide +kernel
  have hshift := get?_shiftAlong (r := r) (by decide) (hpair i)
  rw [get?_record, if_neg (not_or.2 (hnames i)), hshift]

/-- A name that is no letter is the lower case of itself alone. -/
theorem toLower_eq_iff {c : Char} (hc : c.isAlpha = false) : name.toLower = c ↔ name = c := by
  have hcase : c.isUpper = false ∧ c.isLower = false := (Bool.or_eq_false_iff ..).1 hc
  constructor
  · rintro rfl
    cases hname : name.isUpper with
    | true => simp [isLower_toLower hname] at hcase
    | false => exact (toLower_of_not_isUpper hname).symm
  · rintro rfl
    exact toLower_of_not_isUpper hcase.1

theorem isAlpha_ringSlot : ∀ i : Fin 10, (ringSlot i).isAlpha = false := by decide +kernel

theorem isAlpha_of_mem_ringSlots (h : name ∈ ringSlots) : name.isAlpha = false := by
  obtain ⟨i, rfl⟩ := List.mem_iff_get.1 h
  exact isAlpha_ringSlot i

theorem toLower_notMem_ringSlots (h : name ∉ ringSlots) : name.toLower ∉ ringSlots :=
  fun hin => h ((toLower_eq_iff (isAlpha_of_mem_ringSlots hin)).1 rfl ▸ hin)

theorem toLower_ne_unnamedRegister (h : name ≠ unnamedRegister) :
    name.toLower ≠ unnamedRegister :=
  fun heq => h ((toLower_eq_iff (by decide)).1 heq)

theorem read_ringSlot (r : RegisterFile) (i : Fin 10) :
    r.read (ringSlot i) = (r.slots.get? (ringSlot i)).getD [] := by
  have hlower : (ringSlot i).toLower = ringSlot i :=
    (toLower_eq_iff (isAlpha_ringSlot i)).2 rfl
  rw [read, hlower]

/-- **What recording does**: slot `0` and the unnamed register read the text, every register that
is neither unnamed nor in the ring reads as before, and a slot reads as the one below it did
before exactly if that one was set, or there was nothing in the slot to give way. -/
theorem record_shifts_iff (r : RegisterFile) (t : Text) :
    (r.record t).read '0' = t ∧ (r.record t).read unnamedRegister = t ∧
      (∀ name, name ∉ ringSlots → name ≠ unnamedRegister →
        (r.record t).read name = r.read name) ∧
      ∀ i : Fin 9, (r.record t).read (ringSlot i.succ) = r.read (ringSlot i.castSucc) ↔
        (r.slots.get? (ringSlot i.castSucc)).isSome ∨ r.read (ringSlot i.succ) = [] := by
  refine ⟨?_, ?_, fun name hring hunnamed => ?_, fun i => ?_⟩
  · simp [read, get?_record, (toLower_eq_iff (c := '0') (by decide)).2 rfl]
  · simp [read, get?_record, (toLower_eq_iff (c := unnamedRegister) (by decide)).2 rfl]
  · rw [read, get?_record_of_notMem t (toLower_notMem_ringSlots hring)
      (toLower_ne_unnamedRegister hunnamed)]
    rfl
  · rw [read_ringSlot, read_ringSlot, read_ringSlot, get?_record_succ]
    cases hbelow : r.slots.get? (ringSlot i.castSucc) with
    | some below => simp
    | none => simp

/-- With nothing in slot `2`, slot `3` keeps its text, and slot `4` takes it too. -/
theorem record_keeps_above_unset :
    let r := ({} : RegisterFile).write '3' ['a']
    r.read '2' = [] ∧ (r.record ['b']).read '3' = ['a'] ∧ (r.record ['b']).read '4' = ['a'] := by
  decide +kernel

end RegisterFile

end ModalEditor
