import ModalEditor.Proofs.Notation

/-!
# The grammar of key notation

A text is read piece by piece. A piece is the name of a key between brackets, in any case, or a
character that stands for itself; and an opening bracket stands for itself just when what follows it
up to the next closing bracket is no name (`IsSplit`). No name holds an opening bracket, so one that
is found in a text always begins a piece, and the text behind it decides which
(`readBracket?_eq_some_iff`, `Begins.unique`).

`readAll_split` says that these rules leave one way to split a text, and that the text is read as
the keys of its pieces.
-/

namespace ModalEditor.Key

/-! ### Names -/

/-- A name names a key. Its letters may have either case. -/
def Names (name : Text) (key : Key) : Prop := (name.map Char.toLower, key) ∈ bracketNames

instance (name : Text) (key : Key) : Decidable (Names name key) :=
  inferInstanceAs (Decidable (_ ∈ _))

/-- What follows an opening bracket is a name, up to the first closing bracket. -/
def NameFollows (t : Text) : Prop :=
  ∃ name key rest, t = name ++ '>' :: rest ∧ '>' ∉ name ∧ Names name key

theorem lookup_bracketNames : ∀ p ∈ bracketNames, bracketNames.lookup p.1 = some p.2 := by decide

theorem brackets_notMem_bracketNames : ∀ p ∈ bracketNames, '<' ∉ p.1 ∧ '>' ∉ p.1 := by decide

section Names

variable {name t : Text} {key : Key} {n : Nat}

/-- No two keys have the same name. -/
theorem names_iff_lookup :
    Names name key ↔ bracketNames.lookup (name.map Char.toLower) = some key :=
  ⟨lookup_bracketNames _, fun h => by
    obtain ⟨before, after, heq, -⟩ := List.lookup_eq_some_iff.1 h
    show _ ∈ bracketNames
    rw [heq]
    exact List.mem_append_right _ List.mem_cons_self⟩

theorem Names.open_notMem (h : Names name key) : '<' ∉ name := fun hmem =>
  (brackets_notMem_bracketNames _ h).1 (List.mem_map_of_mem (f := Char.toLower) hmem)

theorem Names.close_notMem (h : Names name key) : '>' ∉ name := fun hmem =>
  (brackets_notMem_bracketNames _ h).2 (List.mem_map_of_mem (f := Char.toLower) hmem)

/-- **A bracket is read as a key just when its name follows**, up to the closing bracket. -/
theorem readBracket?_eq_some_iff :
    readBracket? t = some (key, n) ↔
      ∃ name rest, t = name ++ '>' :: rest ∧ Names name key ∧ n = name.length + 1 := by
  constructor
  · intro h
    unfold readBracket? at h
    dsimp only at h
    split at h
    · rename_i hlt
      obtain ⟨key', hkey, heq⟩ := Option.map_eq_some_iff.1 h
      obtain ⟨rfl, rfl⟩ := Prod.mk.inj heq
      have hcut := List.takeWhile_append_dropWhile (p := (· != '>')) (l := t)
      cases hrest : t.dropWhile (· != '>') with
      | nil =>
        rw [hrest, List.append_nil] at hcut
        rw [hcut] at hlt
        exact absurd hlt (Nat.lt_irrefl _)
      | cons c rest =>
        have hc : c = '>' := by
          have hhead := List.head?_dropWhile_not (· != '>') t
          rw [hrest] at hhead
          simpa using hhead
        rw [hrest, hc] at hcut
        exact ⟨_, rest, hcut.symm, names_iff_lookup.2 hkey, rfl⟩
    · simp at h
  · rintro ⟨name, rest, rfl, hname, rfl⟩
    exact readBracket?_of_lookup hname.close_notMem (names_iff_lookup.1 hname) rest

theorem readBracket?_eq_none_iff : readBracket? t = none ↔ ¬ NameFollows t := by
  rw [Option.eq_none_iff_forall_ne_some]
  constructor
  · rintro h ⟨name, key, rest, rfl, -, hname⟩
    exact h _ (readBracket?_eq_some_iff.2 ⟨name, rest, rfl, hname, rfl⟩)
  · rintro h ⟨key, n⟩ hread
    obtain ⟨name, rest, rfl, hname, -⟩ := readBracket?_eq_some_iff.1 hread
    exact h ⟨name, key, rest, rfl, hname.close_notMem, hname⟩

end Names

/-! ### Pieces -/

/-- A piece of a text and the key that it stands for. -/
structure Piece where
  /-- The characters. -/
  text : Text
  /-- The key. -/
  key : Key

/-- An opening bracket that stands for itself. -/
def Piece.bracket : Piece := ⟨['<'], char '<'⟩

/-- **The pieces of the notation.** -/
inductive IsPiece : Piece → Prop where
  /-- A name between brackets. -/
  | named {name : Text} {key : Key} (h : Names name key) : IsPiece ⟨'<' :: (name ++ ['>']), key⟩
  /-- A character. -/
  | single (c : Char) : IsPiece ⟨[c], char c⟩

/-- The text that pieces make up. -/
def textOf (ps : List Piece) : Text := ps.flatMap (·.text)

/-- After a text comes an opening bracket that is a piece of its own. -/
def BracketAfter (u : Text) (ps : List Piece) : Prop :=
  ∃ l r, ps = l ++ .bracket :: r ∧ textOf l = u

/-- **A text split by the rules of the notation**: pieces make it up, and an opening bracket is a
piece of its own just when no name follows. -/
structure IsSplit (t : Text) (ps : List Piece) : Prop where
  /-- All are pieces. -/
  pieces : ∀ p ∈ ps, IsPiece p
  /-- Nothing is lost or read twice. -/
  text : textOf ps = t
  /-- Opening brackets. -/
  bracket : ∀ u v, t = u ++ '<' :: v → (BracketAfter u ps ↔ ¬ NameFollows v)

/-- **A piece that a text begins with**, and the rest. -/
structure Begins (t : Text) (p : Piece) (rest : Text) : Prop where
  /-- The text is both. -/
  text : t = p.text ++ rest
  /-- It is a piece. -/
  piece : IsPiece p
  /-- A bracket that stands for itself has no name behind it. -/
  bracket : p = .bracket → ¬ NameFollows rest

section Pieces

variable {t u v rest rest' : Text} {p p' : Piece} {ps qs : List Piece}

/-- A piece is not empty, and only its first character may be an opening bracket. -/
theorem IsPiece.exists_cons (h : IsPiece p) : ∃ c cs, p.text = c :: cs ∧ '<' ∉ cs := by
  cases h with
  | named h => exact ⟨'<', _, rfl, by simp [h.open_notMem]⟩
  | single c => exact ⟨c, [], rfl, by simp⟩

theorem IsPiece.text_ne_nil (h : IsPiece p) : p.text ≠ [] := by
  obtain ⟨c, cs, hcons, -⟩ := h.exists_cons
  simp [hcons]

theorem textOf_cons (p : Piece) (ps : List Piece) : textOf (p :: ps) = p.text ++ textOf ps := rfl

theorem bracketAfter_cons_iff (hp : p.text ≠ []) :
    BracketAfter (p.text ++ u) (p :: ps) ↔ BracketAfter u ps := by
  constructor
  · rintro ⟨l, r, heq, htext⟩
    cases l with
    | nil => exact absurd (List.append_eq_nil_iff.1 htext.symm).1 hp
    | cons q l =>
      obtain ⟨rfl, rfl⟩ := List.cons.inj heq
      exact ⟨l, r, rfl, List.append_cancel_left htext⟩
  · rintro ⟨l, r, rfl, rfl⟩
    exact ⟨p :: l, r, rfl, rfl⟩

theorem bracketAfter_nil_iff (hp : p.text ≠ []) : BracketAfter [] (p :: ps) ↔ p = .bracket := by
  constructor
  · rintro ⟨l, r, heq, htext⟩
    cases l with
    | nil => exact (List.cons.inj heq).1
    | cons q l =>
      obtain ⟨rfl, rfl⟩ := List.cons.inj heq
      exact absurd (List.append_eq_nil_iff.1 htext).1 hp
  · rintro rfl
    exact ⟨[], ps, rfl, rfl⟩

/-- An opening bracket behind the first character of a piece is behind the piece. -/
theorem exists_of_append_eq {cs : Text} (hcs : '<' ∉ cs) (h : cs ++ rest = u ++ '<' :: v) :
    ∃ w, u = cs ++ w ∧ rest = w ++ '<' :: v := by
  rcases List.append_eq_append_iff.1 h with ⟨w, rfl, hrest⟩ | ⟨w, rfl, hv⟩
  · exact ⟨w, rfl, hrest⟩
  · cases w with
    | nil => exact ⟨[], by simp, by simpa using hv.symm⟩
    | cons c w =>
      obtain ⟨rfl, -⟩ := List.cons.inj hv
      exact absurd (List.mem_append_right u List.mem_cons_self) hcs

/-- **A text is split into its first piece and those of the rest.** -/
theorem isSplit_cons_iff : IsSplit t (p :: ps) ↔ ∃ rest, Begins t p rest ∧ IsSplit rest ps := by
  constructor
  · intro h
    have hpiece : IsPiece p := h.pieces p List.mem_cons_self
    have htext : t = p.text ++ textOf ps := h.text.symm
    refine ⟨textOf ps, ⟨htext, hpiece, ?_⟩, fun q hq => h.pieces q (List.mem_cons_of_mem p hq), rfl,
      fun u v heq => ?_⟩
    · rintro rfl
      exact (h.bracket [] (textOf ps) htext).1 ((bracketAfter_nil_iff hpiece.text_ne_nil).2 rfl)
    · have hafter := h.bracket (p.text ++ u) v (by rw [htext, heq, List.append_assoc])
      rwa [bracketAfter_cons_iff hpiece.text_ne_nil] at hafter
  · rintro ⟨rest, hbegins, hrest⟩
    have hne := hbegins.piece.text_ne_nil
    refine ⟨List.forall_mem_cons.2 ⟨hbegins.piece, hrest.pieces⟩, ?_, fun u v heq => ?_⟩
    · rw [textOf_cons, hrest.text, hbegins.text]
    · rw [hbegins.text] at heq
      obtain ⟨c, cs, hcons, hcs⟩ := hbegins.piece.exists_cons
      rw [hcons, List.cons_append] at heq
      cases u with
      | nil =>
        -- The bracket is that of the first piece.
        obtain ⟨rfl, rfl⟩ := List.cons.inj heq
        rw [bracketAfter_nil_iff hne]
        cases hbegins.piece with
        | @named name key h =>
          obtain rfl : name ++ ['>'] = cs := (List.cons.inj hcons).2
          refine iff_of_false (by simp [Piece.bracket]) (not_not_intro ?_)
          exact ⟨name, key, rest, by simp, h.close_notMem, h⟩
        | single c =>
          obtain ⟨rfl, rfl⟩ := List.cons.inj hcons
          exact iff_of_true rfl (hbegins.bracket rfl)
      | cons d u =>
        obtain ⟨rfl, htail⟩ := List.cons.inj heq
        obtain ⟨w, rfl, hw⟩ := exists_of_append_eq hcs htail
        rw [← List.cons_append, ← hcons, bracketAfter_cons_iff hne]
        exact hrest.bracket w v hw

/-- **A text begins with one piece**: behind a bracket, a name decides. -/
theorem Begins.unique (h : Begins t p rest) (h' : Begins t p' rest') : p = p' ∧ rest = rest' := by
  have hsame : p.text ++ rest = p'.text ++ rest' := h.text.symm.trans h'.text
  cases h.piece with
  | @named name key hname =>
    have hnamed : NameFollows (name ++ '>' :: rest) :=
      ⟨name, key, rest, rfl, hname.close_notMem, hname⟩
    cases h'.piece with
    | @named name' key' hname' =>
      have hbehind : name ++ '>' :: rest = name' ++ '>' :: rest' := by simpa using hsame
      have hread := readBracket?_eq_some_iff.2 ⟨name, rest, rfl, hname, rfl⟩
      rw [hbehind, readBracket?_eq_some_iff.2 ⟨name', rest', rfl, hname', rfl⟩] at hread
      obtain ⟨rfl, hlength⟩ := Prod.mk.inj (Option.some.inj hread)
      obtain ⟨rfl, hrest⟩ := List.append_inj hbehind (Nat.succ.inj hlength).symm
      exact ⟨rfl, (List.cons.inj hrest).2⟩
    | single c =>
      obtain ⟨rfl, rfl⟩ : '<' = c ∧ name ++ '>' :: rest = rest' := by simpa using hsame
      exact absurd hnamed (h'.bracket rfl)
  | single c =>
    cases h'.piece with
    | @named name key hname =>
      obtain ⟨rfl, rfl⟩ : c = '<' ∧ rest = name ++ '>' :: rest' := by simpa using hsame
      exact absurd ⟨name, key, rest', rfl, hname.close_notMem, hname⟩ (h.bracket rfl)
    | single c' =>
      obtain ⟨rfl, rfl⟩ : c = c' ∧ rest = rest' := by simpa using hsame
      exact ⟨rfl, rfl⟩

/-- So a text that begins with a piece is split there. -/
theorem Begins.isSplit_iff (h : Begins t p rest) :
    IsSplit t qs ↔ ∃ ps, qs = p :: ps ∧ IsSplit rest ps := by
  constructor
  · intro hsplit
    cases qs with
    | nil =>
      have hnil : p.text ++ rest = [] := h.text.symm.trans hsplit.text.symm
      exact absurd (List.append_eq_nil_iff.1 hnil).1 h.piece.text_ne_nil
    | cons q qs =>
      obtain ⟨rest', hbegins, hrest⟩ := isSplit_cons_iff.1 hsplit
      obtain ⟨rfl, rfl⟩ := h.unique hbegins
      exact ⟨qs, rfl, hrest⟩
  · rintro ⟨ps, rfl, hrest⟩
    exact isSplit_cons_iff.2 ⟨rest, h, hrest⟩

theorem isSplit_nil_iff : IsSplit [] ps ↔ ps = [] := by
  constructor
  · intro h
    cases ps with
    | nil => rfl
    | cons p ps =>
      have hne := (h.pieces p List.mem_cons_self).text_ne_nil
      exact absurd (List.append_eq_nil_iff.1 h.text).1 hne
  · rintro rfl
    exact ⟨by simp, rfl, fun u v h => by simp at h⟩

end Pieces

/-! ### Reading -/

/-- **Reading goes by the rules of the notation.** Every text is split in just one way into pieces
that make it up, each of them a name between brackets or a character, with an opening bracket for a
piece of its own just where no name follows; and it is read as the keys of the pieces, one for each
and in order. -/
theorem readAll_split (t : Text) :
    ∃ ps, (∀ qs, IsSplit t qs ↔ qs = ps) ∧ (∀ p ∈ ps, p.text ≠ []) ∧
      readAll t = ps.map (·.key) := by
  -- One piece more in front of those of the rest.
  have step {t rest : Text} {p : Piece} (hbegins : Begins t p rest)
      (hrest : ∃ ps, (∀ qs, IsSplit rest qs ↔ qs = ps) ∧ (∀ p ∈ ps, p.text ≠ []) ∧
        readAll rest = ps.map (·.key)) :
      ∃ ps, (∀ qs, IsSplit t qs ↔ qs = ps) ∧ (∀ p ∈ ps, p.text ≠ []) ∧
        p.key :: readAll rest = ps.map (·.key) := by
    obtain ⟨ps, hsplit, hne, hread⟩ := hrest
    refine ⟨p :: ps, fun qs => ?_, List.forall_mem_cons.2 ⟨hbegins.piece.text_ne_nil, hne⟩, ?_⟩
    · rw [hbegins.isSplit_iff]
      simp only [hsplit, exists_eq_right]
    · rw [hread, List.map_cons]
  fun_induction readAll t with
  | case1 => exact ⟨[], fun qs => isSplit_nil_iff, by simp, rfl⟩
  | case2 rest key n hread ih =>
    obtain ⟨name, rest, rfl, hname, rfl⟩ := readBracket?_eq_some_iff.1 hread
    have hdrop : (name ++ '>' :: rest).drop (name.length + 1) = rest := by simp
    rw [hdrop] at ih ⊢
    exact step ⟨by simp, .named hname, fun h => by simp [Piece.bracket] at h⟩ ih
  | case3 rest hread ih =>
    exact step ⟨rfl, .single '<', fun _ => readBracket?_eq_none_iff.1 hread⟩ ih
  | case4 c rest hc ih =>
    refine step ⟨rfl, .single c, fun h => ?_⟩ ih
    simp [Piece.bracket, hc] at h

/-- A bracket that no name follows up to the next closing one, and a name in capitals. -/
example : readAll ['<', 'a', '<', 'L', 'T', '>'] = [char '<', char 'a', char '<'] := by cbv

end ModalEditor.Key
