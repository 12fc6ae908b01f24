import ModalEditor.Proofs.NotationGrammar
import ModalEditor.Proofs.TypedMotions

/-!
# Macros that are added to

A recording under a capital letter puts the notation of its keys behind what the register holds. The
register is text, whoever wrote it, and is read as a whole. Its two parts are read one after the
other unless a name is begun in the first and ended in the second (`readAll_append`). Recorded keys
write an opening bracket as `<lt>`, so only plain characters can end such a name (`SpellsAcross`).

`keysOf_appended` says that a macro is lengthened by just the keys that are recorded, but for the
one that such a name stands for.
-/

namespace ModalEditor

namespace Key

/-! ### Where two texts meet -/

/-- **A name is begun in one text and ended in the next**: what stands before its bracket, its key,
and what follows it. -/
def Straddles (u s before : Text) (key : Key) (rest : Text) : Prop :=
  ∃ y p, u = before ++ '<' :: y ∧ s = p ++ '>' :: rest ∧ Names (y ++ p) key

section Seam

variable {u s before rest : Text} {key : Key}

theorem Straddles.of_append {l : Text} (h : Straddles u s before key rest) :
    Straddles (l ++ u) s (l ++ before) key rest := by
  obtain ⟨y, p, rfl, rfl, hname⟩ := h
  exact ⟨y, p, (List.append_assoc l before _).symm, rfl, hname⟩

theorem not_straddles_of_append {l : Text}
    (h : ¬ ∃ before key rest, Straddles (l ++ u) s before key rest) :
    ¬ ∃ before key rest, Straddles u s before key rest := by
  rintro ⟨before, key, rest, hs⟩
  exact h ⟨l ++ before, key, rest, hs.of_append⟩

/-- A name that follows where two texts meet follows in the first, unless it goes on across. -/
theorem straddles_of_nameFollows (h : NameFollows (u ++ s)) (hu : ¬ NameFollows u) :
    ∃ key rest, Straddles ('<' :: u) s [] key rest := by
  obtain ⟨name, key, rest, heq, -, hname⟩ := h
  rcases List.append_eq_append_iff.1 heq with ⟨p, rfl, rfl⟩ | ⟨w, rfl, hw⟩
  · exact ⟨key, rest, u, p, rfl, rfl, hname⟩
  · cases w with
    | nil => exact ⟨key, rest, name, [], by simp, hw.symm, by simpa using hname⟩
    | cons c w =>
      obtain ⟨rfl, -⟩ := List.cons.inj hw
      exact absurd ⟨name, key, w, rfl, hname.close_notMem, hname⟩ hu

/-- **Two texts are read one after the other**, unless a name straddles them. -/
theorem readAll_append (h : ¬ ∃ before key rest, Straddles u s before key rest) :
    readAll (u ++ s) = readAll u ++ readAll s := by
  fun_induction readAll u with
  | case1 => rfl
  | case2 t key n hread ih =>
    obtain ⟨name, t, rfl, hname, rfl⟩ := readBracket?_eq_some_iff.1 hread
    have hdrop : (name ++ '>' :: t).drop (name.length + 1) = t := by simp
    rw [hdrop] at ih ⊢
    have hrest := not_straddles_of_append (l := '<' :: (name ++ ['>'])) (by simpa using h)
    have hbracket := readAll_bracket name hname.close_notMem (names_iff_lookup.1 hname) (t ++ s)
    rw [List.cons_append, List.append_assoc, List.cons_append, hbracket, ih hrest,
      List.cons_append]
  | case3 t hread ih =>
    have hrest := not_straddles_of_append (l := ['<']) h
    have hnone : readBracket? (t ++ s) = none := by
      refine readBracket?_eq_none_iff.2 fun hfollows => ?_
      obtain ⟨key, rest, hs⟩ :=
        straddles_of_nameFollows hfollows (readBracket?_eq_none_iff.1 hread)
      exact h ⟨[], key, rest, hs⟩
    rw [List.cons_append, readAll, if_pos rfl, hnone]
    dsimp only
    rw [ih hrest, List.cons_append]
  | case4 c t hc ih =>
    have hrest := not_straddles_of_append (l := [c]) h
    rw [List.cons_append, readAll_cons hc, ih hrest, List.cons_append]

/-- No name straddles a place right before an opening bracket. -/
theorem readAll_append_bracket (u s : Text) :
    readAll (u ++ '<' :: s) = readAll u ++ readAll ('<' :: s) := by
  refine readAll_append ?_
  rintro ⟨before, key, rest, y, p, -, hs, hname⟩
  cases p with
  | nil => simp at hs
  | cons c p =>
    obtain ⟨rfl, -⟩ := List.cons.inj hs
    exact hname.open_notMem (List.mem_append_right y List.mem_cons_self)

/-- A name that straddles two texts is read as its key. -/
theorem Straddles.readAll_append (h : Straddles u s before key rest) :
    readAll (u ++ s) = readAll before ++ key :: readAll rest := by
  obtain ⟨y, p, rfl, rfl, hname⟩ := h
  have hbracket := readAll_bracket (y ++ p) hname.close_notMem (names_iff_lookup.1 hname) rest
  rw [List.append_assoc, List.cons_append, readAll_append_bracket, ← hbracket, List.append_assoc]

theorem readAll_cons_ne_nil (c : Char) (t : Text) : readAll (c :: t) ≠ [] := by
  rw [readAll]
  split
  · split <;> simp
  · simp

end Seam

/-! ### Keys that end a name -/

/-- **The end of a text and the first of some keys spell a name**: the text breaks off in it, and
the keys are the characters that are missing. -/
def SpellsAcross (x : Text) (keys : List Key) (before : Text) (key : Key) (rest : List Key) :
    Prop :=
  ∃ y p, x = before ++ '<' :: y ∧ keys = p.map char ++ char '>' :: rest ∧ Names (y ++ p) key

section Spelling

variable {x before t p : Text} {keys rest : List Key} {key : Key} {c : Char}

/-- What is written with a character other than the opening bracket first, begins with its key. -/
theorem exists_of_writeAll_eq_cons (hc : c ≠ '<') (h : writeAll keys = c :: t) :
    ∃ rest, keys = char c :: rest ∧ t = writeAll rest := by
  cases keys with
  | nil => simp at h
  | cons key keys =>
    rw [writeAll_cons] at h
    cases key with
    | char d =>
      by_cases hd : d = '<'
      · simp only [write, hd, if_true, List.cons_append] at h
        exact absurd (List.cons.inj h).1.symm hc
      · simp only [write, hd, if_false, List.singleton_append] at h
        obtain ⟨rfl, rfl⟩ := List.cons.inj h
        exact ⟨keys, rfl, rfl⟩
    | _ => exact absurd (List.cons.inj h).1.symm hc

theorem exists_of_writeAll_eq_append (hp : '<' ∉ p) (h : writeAll keys = p ++ '>' :: t) :
    ∃ rest, keys = p.map char ++ char '>' :: rest ∧ t = writeAll rest := by
  induction p generalizing keys with
  | nil => exact exists_of_writeAll_eq_cons (by decide) h
  | cons c p ih =>
    rw [List.mem_cons, not_or] at hp
    obtain ⟨rest, rfl, hrest⟩ := exists_of_writeAll_eq_cons (Ne.symm hp.1) h
    obtain ⟨rest', rfl, ht⟩ := ih hp.2 hrest.symm
    exact ⟨rest', rfl, ht⟩

theorem writeAll_chars (hp : '<' ∉ p) : writeAll (p.map char) = p := by
  induction p with
  | nil => rfl
  | cons c p ih =>
    rw [List.mem_cons, not_or] at hp
    rw [List.map_cons, writeAll_cons, write, if_neg (Ne.symm hp.1), ih hp.2, List.singleton_append]

theorem SpellsAcross.straddles (h : SpellsAcross x keys before key rest) :
    Straddles x (writeAll keys) before key (writeAll rest) := by
  obtain ⟨y, p, rfl, rfl, hname⟩ := h
  have hp : '<' ∉ p := fun hmem => hname.open_notMem (List.mem_append_right y hmem)
  refine ⟨y, p, rfl, ?_, hname⟩
  rw [writeAll_append, writeAll_chars hp]
  rfl

/-- **Only such keys end a name** that a text breaks off in. -/
theorem Straddles.exists_spellsAcross (h : Straddles x (writeAll keys) before key t) :
    ∃ rest, SpellsAcross x keys before key rest := by
  obtain ⟨y, p, rfl, hkeys, hname⟩ := h
  have hp : '<' ∉ p := fun hmem => hname.open_notMem (List.mem_append_right y hmem)
  obtain ⟨rest, rfl, -⟩ := exists_of_writeAll_eq_append hp hkeys
  exact ⟨rest, y, p, rfl, rfl, hname⟩

/-- Then less is read than the keys of the text and these. -/
theorem SpellsAcross.readAll_ne (h : SpellsAcross x keys before key rest) :
    readAll before ++ key :: rest ≠ readAll x ++ keys := by
  obtain ⟨y, p, rfl, rfl, -⟩ := h
  rw [readAll_append_bracket]
  intro heq
  have hlength := congrArg List.length heq
  have hpos := List.length_pos_iff.2 (readAll_cons_ne_nil '<' y)
  simp only [List.length_append, List.length_cons, List.length_map] at hlength
  omega

/-- **Keys written behind a text are read behind it**, just when they spell no name with its end. -/
theorem readAll_append_writeAll_iff :
    readAll (x ++ writeAll keys) = readAll x ++ keys ↔
      ¬ ∃ before key rest, SpellsAcross x keys before key rest := by
  constructor
  · rintro heq ⟨before, key, rest, h⟩
    rw [h.straddles.readAll_append, readAll_writeAll] at heq
    exact h.readAll_ne heq
  · intro h
    rw [readAll_append, readAll_writeAll]
    rintro ⟨before, key, t, hs⟩
    obtain ⟨rest, hspell⟩ := hs.exists_spellsAcross
    exact h ⟨before, key, rest, hspell⟩

end Spelling

end Key

namespace Editor

section Recording

variable {e : Editor} {name : Char}

theorem foldl_capture (e : Editor) (keys : List Key) : keys.foldl capture e = e.captured keys := by
  induction keys generalizing e with
  | nil => exact (captured_nil e).symm
  | cons key keys ih =>
    rw [List.foldl_cons, capture_eq, ih, captured_append, List.singleton_append]

/-- Keys recorded under a name, from the start of the recording to the `q` that ends it. What the
keys do meanwhile is left out. -/
def recordInto (e : Editor) (name : Char) (keys : List Key) : Editor :=
  ((keys ++ [Key.char 'q']).foldl capture (e.startRecording name)).toggleRecording

/-- Under a capital letter the notation of the keys is added to what is there, without the `q`. -/
theorem read_recordInto (e : Editor) (hname : name.isUpper = true) (keys : List Key) :
    (e.recordInto name keys).registers.read name =
      e.registers.read name ++ Key.writeAll keys := by
  let e₁ : Editor := (e.startRecording name).captured (keys ++ [.char 'q'])
  have hrec : e₁.recording = some name := rfl
  have hregisters : (e.startRecording name).registers = e.registers := by
    simp [startRecording, hname]
  have hcaptured : e₁.registers.read name =
      e.registers.read name ++ Key.writeAll keys ++ ['q'] := by
    have hread : e₁.registers.read name = (e.startRecording name).registers.read name ++
        Key.writeAll (keys ++ [.char 'q']) := RegisterFile.read_capture_foldl _ name _
    have hlast : Key.writeAll (keys ++ [.char 'q']) = Key.writeAll keys ++ ['q'] :=
      Key.writeAll_append keys [.char 'q']
    rw [hread, hregisters, hlast, List.append_assoc]
  rw [recordInto, foldl_capture, toggleRecording_of_some hrec]
  show (e₁.registers.finish name).read name = _
  rw [RegisterFile.read_finish, hcaptured, List.getLast?_concat, if_pos rfl, List.dropLast_concat]

/-- **A recording under a capital letter lengthens a macro by the keys that are recorded**, whatever
the register held, just when they spell no name with its end. Where they do, that one key is read
for the name, between the keys of what stands before it and the keys that follow it. What the
register holds of recorded keys never ends so. -/
theorem keysOf_appended (e : Editor) (hname : name.isUpper = true) (keys : List Key) :
    ((e.recordInto name keys).registers.keysOf name = e.registers.keysOf name ++ keys ↔
      ¬ ∃ before key rest, Key.SpellsAcross (e.registers.read name) keys before key rest) ∧
    (∀ before key rest, Key.SpellsAcross (e.registers.read name) keys before key rest →
      (e.recordInto name keys).registers.keysOf name = Key.readAll before ++ key :: rest) ∧
    ∀ recorded, e.registers.read name = Key.writeAll recorded →
      (e.recordInto name keys).registers.keysOf name = recorded ++ keys := by
  unfold RegisterFile.keysOf
  rw [e.read_recordInto hname keys]
  refine ⟨Key.readAll_append_writeAll_iff, fun before key rest h => ?_, fun recorded h => ?_⟩
  · rw [h.straddles.readAll_append, Key.readAll_writeAll]
  · rw [h, Key.readAll_writeAll_append, Key.readAll_writeAll]

/-- A register that a broken-off name was yanked into is added to twice: the keys that do not go on
with the name are read behind it, and those that do give an escape. -/
theorem keysOf_appended_yanked :
    ∃ e : Editor, Reachable ⟨['x', '<', 'e', 's']⟩ e ∧ Char.isUpper 'A' = true ∧
      e.registers.read 'a' = ['x', '<', 'e', 's'] ∧
      (e.recordInto 'A' [.char '<', .char 'c', .char '>']).registers.keysOf 'A' =
        e.registers.keysOf 'A' ++ [.char '<', .char 'c', .char '>'] ∧
      (e.recordInto 'A' [.char 'C', .char '>', .enter]).registers.keysOf 'A' =
        [.char 'x', .escape, .enter] := by
  obtain ⟨e, he, hread⟩ : ∃ e : Editor, Reachable ⟨['x', '<', 'e', 's']⟩ e ∧
      e.registers.read 'A' = ['x', '<', 'e', 's'] :=
    ⟨_, .first {} [.char '"', .char 'a', .char 'y', .char '$'], by decide +kernel⟩
  have hupper : Char.isUpper 'A' = true := rfl
  refine ⟨e, he, hupper, hread, ?_, ?_⟩
  · refine (keysOf_appended e hupper _).1.2 ?_
    rintro ⟨before, key, rest, y, p, -, hkeys, hname⟩
    cases p with
    | nil => simp at hkeys
    | cons c p =>
      obtain rfl : '<' = c := by simpa using (List.cons.inj hkeys).1
      exact hname.open_notMem (List.mem_append_right y List.mem_cons_self)
  · have hspell : Key.SpellsAcross (e.registers.read 'A') [.char 'C', .char '>', .enter] ['x']
        .escape [.enter] := ⟨['e', 's'], ['C'], hread, rfl, by decide⟩
    rw [(keysOf_appended e hupper _).2.1 _ _ _ hspell, Key.readAll_cons (by decide),
      Key.readAll]
    rfl

/-- Keys added to a yanked text make one key with its end: the four characters and the closing
bracket are not read. -/
theorem appended_keys_spell_escape :
    ∃ e : Editor, Reachable ⟨['<', 'e', 's']⟩ e ∧ e.registers.read 'a' = ['<', 'e', 's'] ∧
      (e.recordInto 'A' [.char 'c', .char '>']).registers.keysOf 'a' = [.escape] ∧
      (e.recordInto 'A' [.char 'c', .char '>']).registers.keysOf 'a' ≠
        e.registers.keysOf 'a' ++ [.char 'c', .char '>'] := by
  obtain ⟨e, he, hread, hrecorded⟩ : ∃ e : Editor, Reachable ⟨['<', 'e', 's']⟩ e ∧
      e.registers.read 'a' = ['<', 'e', 's'] ∧
      (e.recordInto 'A' [.char 'c', .char '>']).registers.read 'a' =
        ['<', 'e', 's', 'c', '>'] :=
    ⟨_, .first {} [.char '"', .char 'a', .char 'y', .char '$'], by decide +kernel⟩
  have hkeys : (e.recordInto 'A' [.char 'c', .char '>']).registers.keysOf 'a' = [.escape] := by
    have hescape := Key.readAll_write_append .escape []
    rw [Key.readAll] at hescape
    unfold RegisterFile.keysOf
    rw [hrecorded]
    exact hescape
  refine ⟨e, he, hread, hkeys, fun heq => ?_⟩
  rw [hkeys] at heq
  have hlength := congrArg List.length heq
  simp at hlength

end Recording

end Editor

end ModalEditor
