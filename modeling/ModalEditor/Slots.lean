/-!
# Values under character names

Registers and marks are kept under single characters. The entries are held in ascending order of
name, so two stores with the same content are equal. `get?_insert` and `get?_erase` say how a
change shows.
-/

namespace ModalEditor

/-- The entries with `value` under `name`, in place of what stood there. -/
def insertEntry {α : Type} (name : Char) (value : α) : List (Char × α) → List (Char × α)
  | [] => [(name, value)]
  | entry :: rest =>
    if name < entry.1 then (name, value) :: entry :: rest
    else if name = entry.1 then (name, value) :: rest
    else entry :: insertEntry name value rest

/-- Entries in ascending order of name, no name twice. -/
abbrev Ascending {α : Type} (entries : List (Char × α)) : Prop :=
  entries.Pairwise fun x y => x.1 < y.1

theorem mem_insertEntry {α : Type} {name : Char} {value : α} {x : Char × α}
    {entries : List (Char × α)} (h : x ∈ insertEntry name value entries) :
    x = (name, value) ∨ x ∈ entries := by
  induction entries with
  | nil => simpa [insertEntry] using h
  | cons entry rest ih =>
    unfold insertEntry at h
    split at h
    · simpa using h
    · split at h
      · simp only [List.mem_cons] at h ⊢
        exact h.imp_right .inr
      · simp only [List.mem_cons] at h ⊢
        rcases h with h | h
        · exact .inr (.inl h)
        · exact (ih h).imp_right .inr

theorem Ascending.insertEntry {α : Type} {entries : List (Char × α)} (h : Ascending entries)
    (name : Char) (value : α) : Ascending (insertEntry name value entries) := by
  induction entries with
  | nil => simp [ModalEditor.insertEntry]
  | cons entry rest ih =>
    obtain ⟨hentry, hrest⟩ := List.pairwise_cons.1 h
    unfold ModalEditor.insertEntry
    split
    · rename_i hlt
      refine List.pairwise_cons.2 ⟨fun x hx => ?_, h⟩
      rcases List.mem_cons.1 hx with rfl | hx
      · exact hlt
      · exact Char.lt_trans hlt (hentry x hx)
    · rename_i hlt
      split
      · rename_i heq
        exact List.pairwise_cons.2 ⟨fun x hx => heq ▸ hentry x hx, hrest⟩
      · rename_i hne
        refine List.pairwise_cons.2 ⟨fun x hx => ?_, ih hrest⟩
        rcases mem_insertEntry hx with rfl | hx
        · exact Std.lt_of_le_of_ne (Char.not_lt.1 hlt) (Ne.symm hne)
        · exact hentry x hx

/-- Values kept under character names. -/
structure Slots (α : Type) where
  /-- The names with their values. -/
  entries : List (Char × α) := []
  /-- The names ascend. -/
  ascending : Ascending entries := by simp
  deriving DecidableEq

namespace Slots

variable {α : Type}

instance : Inhabited (Slots α) := ⟨{}⟩

/-- The value under a name. -/
def get? (s : Slots α) (name : Char) : Option α :=
  (s.entries.find? fun entry => entry.1 == name).map (·.2)

/-- Puts a value under a name, in place of what stood there. -/
def insert (s : Slots α) (name : Char) (value : α) : Slots α :=
  ⟨insertEntry name value s.entries, s.ascending.insertEntry name value⟩

/-- Drops a name. -/
def erase (s : Slots α) (name : Char) : Slots α :=
  ⟨s.entries.filter fun entry => entry.1 != name, s.ascending.filter _⟩

/-- How many names have a value. -/
def size (s : Slots α) : Nat := s.entries.length

/-- Whether no name has a value. -/
def isEmpty (s : Slots α) : Bool := s.entries.isEmpty

/-- What a change of one entry shows at every name. -/
theorem find?_insertEntry (entries : List (Char × α)) (name other : Char) (value : α) :
    (insertEntry name value entries).find? (fun entry => entry.1 == other) =
      if name = other then some (name, value)
      else entries.find? fun entry => entry.1 == other := by
  induction entries with
  | nil => by_cases h : name = other <;> simp [insertEntry, h]
  | cons entry rest ih =>
    unfold insertEntry
    split
    · by_cases h : name = other <;> simp [h]
    · split
      · rename_i heq
        by_cases h : name = other
        · simp [h]
        · have : ¬ entry.1 = other := fun e => h (heq.trans e)
          simp [h, this]
      · rename_i hne
        by_cases h : name = other
        · subst h
          have : ¬ entry.1 = name := fun e => hne e.symm
          simp [ih, this]
        · simp [List.find?_cons, ih, h]

@[simp] theorem get?_insert (s : Slots α) (name other : Char) (value : α) :
    (s.insert name value).get? other = if name = other then some value else s.get? other := by
  unfold get? insert
  simp only [find?_insertEntry]
  split <;> rfl

@[simp] theorem get?_erase (s : Slots α) (name other : Char) :
    (s.erase name).get? other = if name = other then none else s.get? other := by
  simp only [get?, erase, List.find?_filter]
  by_cases h : name = other
  · subst h
    simp
  · rw [if_neg h]
    congr 2
    funext entry
    by_cases he : entry.1 = other
    · simp [he, Ne.symm h]
    · simp [he]

end Slots

end ModalEditor
