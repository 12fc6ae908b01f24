import Mathlib.Data.List.Infix
import ModalEditor.Proofs.LeftoverCounts
import ModalEditor.Proofs.PutRows
import ModalEditor.Proofs.TypedText

/-!
# The record of an insert session

In an insert session the text before the cursor is made up of what was found there, of what has been
typed, and of the indentation that new rows have been given (`Trail`). The register of the session
is to hold the typed part, and it does until a backspace takes a blank of an indentation: the record
then loses the character that was typed last, although that is still in the text
(`session_record_iff`). Typing only adds at the end of the trail and a backspace only takes from
there, so an indentation has the newline that was typed for it somewhere before it
(`Trail.Rooted`); this is what makes the record wrong at once.
-/

namespace ModalEditor

/-- A key that types in a session: a character other than a newline, the key that starts a new row,
or a backspace. -/
def Key.types : Key → Bool
  | .char c => c != '\n'
  | .enter | .backspace => true
  | _ => false

/-! ### The text before the cursor -/

/-- Where a character of the text is from. -/
inductive Origin where
  /-- It was there when the session started. -/
  | found
  /-- It was typed in the session. -/
  | typed
  /-- It indents a row that was started in the session. -/
  | indent
  deriving DecidableEq

/-- The text before the cursor, with where it is from. -/
abbrev Trail := List (Char × Origin)

namespace Trail

variable {s : Text} {t : Trail}

/-- The characters. -/
def text (t : Trail) : Text := t.map (·.1)

/-- Those that were typed. -/
def typed (t : Trail) : Text := text (t.filter (·.2 = .typed))

/-- The trail at the start of a session. -/
def found (p : Text) : Trail := p.map (·, .found)

/-- The indentation of the row that the trail ends in, with the text behind the cursor. -/
def indentation (s : Text) (t : Trail) : Text :=
  leadingBlanks ((⟨t.text ++ s⟩ : Buffer).rowText (t.text.count '\n'))

/-- The trail after a key. -/
def press (s : Text) (t : Trail) : Key → Trail
  | .char c => t ++ [(c, .typed)]
  | .enter => t ++ ('\n', .typed) :: (t.indentation s).map (·, .indent)
  | .backspace => t.dropLast
  | _ => t

/-- The trail after keys. -/
def after (s : Text) (t : Trail) (keys : List Key) : Trail := keys.foldl (press s) t

/-- What the record of the session becomes with a key. -/
def record (t : Trail) (old : Text) : Key → Text
  | .char c => old ++ [c]
  | .enter => old ++ ['\n']
  | .backspace => if t = [] then old else old.dropLast
  | _ => old

/-- The trail ends in a blank of an indentation. -/
def EndsInIndent (t : Trail) : Prop := ∃ c, t.getLast? = some (c, .indent)

@[simp] theorem text_append (t t' : Trail) : (t ++ t').text = t.text ++ t'.text := List.map_append

@[simp] theorem typed_append (t t' : Trail) : (t ++ t').typed = t.typed ++ t'.typed := by
  simp [typed]

@[simp] theorem text_found (p : Text) : (found p).text = p := by
  simp [text, found, Function.comp_def]

@[simp] theorem typed_found (p : Text) : (found p).typed = [] := by
  simp [typed, found, text]

@[simp] theorem typed_singleton (c : Char) (o : Origin) :
    typed [(c, o)] = if o = .typed then [c] else [] := by
  cases o <;> rfl

theorem typed_indent (blanks : Text) : typed (blanks.map (·, .indent)) = [] := by
  simp [typed, text]

theorem after_concat (s : Text) (t : Trail) (keys : List Key) (key : Key) :
    after s t (keys ++ [key]) = (after s t keys).press s key := List.foldl_concat ..

theorem press_backspace_concat (s : Text) (t : Trail) (x : Char × Origin) :
    press s (t ++ [x]) .backspace = t := List.dropLast_concat ..

theorem record_backspace_concat (t : Trail) (x : Char × Origin) (old : Text) :
    record (t ++ [x]) old .backspace = old.dropLast := if_neg (by simp)

/-! ### What is typed comes behind what was found -/

/-- What was found comes first, and of the rest the first character was typed. -/
def Rooted (t : Trail) : Prop :=
  ∃ p session, t = found p ++ session ∧ (∀ x ∈ session, x.2 ≠ .found) ∧
    ∀ x ∈ session.head?, x.2 = .typed

theorem rooted_found (p : Text) : (found p).Rooted :=
  ⟨p, [], (List.append_nil _).symm, by simp, by simp⟩

/-- More may come behind if it starts with what was typed. -/
theorem Rooted.append (h : t.Rooted) {c : Char} {more : Trail} (hmore : ∀ x ∈ more, x.2 ≠ .found) :
    (t ++ (c, .typed) :: more).Rooted := by
  obtain ⟨p, session, rfl, hsession, hhead⟩ := h
  refine ⟨p, session ++ (c, .typed) :: more, List.append_assoc .., ?_, ?_⟩
  · intro x hx
    rcases List.mem_append.1 hx with hx | hx
    · exact hsession x hx
    · rcases List.mem_cons.1 hx with rfl | hx
      · simp
      · exact hmore x hx
  · cases session with
    | nil => simp
    | cons first session => simpa using hhead

theorem Rooted.dropLast (h : t.Rooted) : Rooted (List.dropLast t) := by
  obtain ⟨p, session, rfl, hsession, hhead⟩ := h
  by_cases hnil : session = []
  · refine ⟨p.dropLast, [], ?_, by simp, by simp⟩
    rw [hnil, List.append_nil, List.append_nil, found, found, List.map_dropLast]
  · refine ⟨p, List.dropLast session, List.dropLast_append_of_ne_nil hnil,
      fun x hx => hsession x (List.mem_of_mem_dropLast hx), fun x hx => hhead x ?_⟩
    have hne : session.dropLast ≠ [] := fun heq => by simp [heq] at hx
    rwa [← List.dropLast_append_getLast hnil, List.head?_append_of_ne_nil _ hne]

theorem Rooted.press (h : t.Rooted) (s : Text) (key : Key) : (t.press s key).Rooted := by
  cases key with
  | char c => exact h.append (by simp)
  | enter => exact h.append (by simp)
  | backspace => exact h.dropLast
  | _ => exact h

theorem Rooted.after (h : t.Rooted) (s : Text) (keys : List Key) : (t.after s keys).Rooted := by
  induction keys generalizing t with
  | nil => exact h
  | cons key keys ih => exact ih (h.press s key)

/-- Where the last character was found, nothing is typed before it. -/
theorem Rooted.typed_eq_nil {c : Char} (h : Rooted (t ++ [(c, .found)])) : t.typed = [] := by
  obtain ⟨p, session, heq, hsession, -⟩ := h
  cases session using List.reverseRecOn with
  | nil =>
    have hall : (t ++ [(c, .found)] : Trail).typed = [] := by
      rw [heq, List.append_nil, typed_found]
    exact (List.append_eq_nil_iff.1 ((typed_append _ _).symm.trans hall)).1
  | append_singleton session x =>
    rw [← List.append_assoc] at heq
    obtain ⟨-, hx⟩ := List.append_inj' heq rfl
    exact absurd (congrArg Prod.snd (List.singleton_inj.1 hx)).symm (hsession x (by simp))

/-- **An indentation follows a newline that was typed.** -/
theorem Rooted.typed_ne_nil (h : t.Rooted) (hlast : t.EndsInIndent) : t.typed ≠ [] := by
  obtain ⟨p, session, rfl, -, hhead⟩ := h
  obtain ⟨c, hlast⟩ := hlast
  cases session with
  | nil => simp [found] at hlast
  | cons first session =>
    have hfirst : first.2 = .typed := hhead first rfl
    simp [typed, text, hfirst]

/-! ### The record of a trail -/

/-- **A key keeps the record right**, unless it is a backspace that takes a blank of an
indentation. -/
theorem Rooted.typed_press (h : t.Rooted) (s : Text) {key : Key}
    (hkey : key = .backspace → ¬ t.EndsInIndent) :
    (t.press s key).typed = t.record t.typed key := by
  cases key with
  | char c => exact typed_append t [(c, .typed)]
  | enter =>
    show (t ++ ([('\n', .typed)] ++ (t.indentation s).map (·, .indent)) : Trail).typed = _
    rw [typed_append, typed_append, typed_indent, List.append_nil]
    rfl
  | backspace =>
    cases t using List.reverseRecOn with
    | nil => rfl
    | append_singleton t x =>
      obtain ⟨c, o⟩ := x
      rw [press_backspace_concat, record_backspace_concat, typed_append, typed_singleton]
      cases o with
      | typed => simp
      | found => simp [h.typed_eq_nil]
      | indent => exact absurd ⟨c, by simp⟩ (hkey rfl)
  | _ => rfl

/-- **Such a backspace makes it wrong**: what is lost from the record is still there. -/
theorem Rooted.typed_press_ne (h : t.Rooted) (s : Text) (hlast : t.EndsInIndent) :
    (t.press s .backspace).typed ≠ t.record t.typed .backspace := by
  have hne := h.typed_ne_nil hlast
  obtain ⟨c, hlast⟩ := hlast
  cases t using List.reverseRecOn with
  | nil => simp at hlast
  | append_singleton t x =>
    obtain rfl : x = (c, .indent) := by simpa using hlast
    have htyped : typed (t ++ [(c, .indent)]) = typed t := by simp
    rw [htyped] at hne
    rw [press_backspace_concat, record_backspace_concat, htyped]
    intro heq
    have hlength := congrArg List.length heq
    rw [List.length_dropLast] at hlength
    have hpos := List.length_pos_iff.2 hne
    omega

/-- **A record that is kept key by key** is what was typed and is still there, all along, exactly if
no backspace takes a blank of an indentation. -/
theorem Rooted.record_eq_iff (h : t.Rooted) (s : Text) (keys : List Key) (r : List Key → Text)
    (hstart : r [] = t.typed)
    (hstep : ∀ before key, before ++ [key] <+: keys →
      r (before ++ [key]) = (t.after s before).record (r before) key) :
    (∀ before, before <+: keys → r before = (t.after s before).typed) ↔
      ∀ before, before ++ [.backspace] <+: keys → ¬ (t.after s before).EndsInIndent := by
  constructor
  · intro hall before hbefore hlast
    have hshorter : before <+: keys := (List.prefix_append ..).trans hbefore
    have hlonger := hall _ hbefore
    rw [hstep _ _ hbefore, hall _ hshorter, after_concat] at hlonger
    exact (h.after s before).typed_press_ne s hlast hlonger.symm
  · intro hkeys before hbefore
    induction before using List.reverseRecOn with
    | nil => exact hstart
    | append_singleton before key ih =>
      have hshorter : before <+: keys := (List.prefix_append ..).trans hbefore
      rw [hstep _ _ hbefore, ih hshorter, after_concat]
      refine ((h.after s before).typed_press s ?_).symm
      rintro rfl
      exact hkeys before hbefore

end Trail

/-! ### A new row -/

theorem positionFrom_append {t : Text} (ht : '\n' ∉ t) (row col : Nat) (s : Text) :
    positionFrom row col t.length (t ++ s) = ⟨row, col + t.length⟩ := by
  induction t generalizing col with
  | nil => cases s <;> rfl
  | cons c t ih =>
    obtain ⟨hc, ht⟩ := not_or.1 (mt List.mem_cons.2 ht)
    simp only [List.cons_append, List.length_cons, positionFrom, if_neg (Ne.symm hc), ih ht]
    congr 1
    omega

theorem positionFrom_append_newline {t : Text} (ht : '\n' ∉ t) (row col : Nat) (p s : Text) :
    positionFrom row col (p ++ '\n' :: t).length (p ++ '\n' :: t ++ s) =
      ⟨row + p.count '\n' + 1, t.length⟩ := by
  induction p generalizing row col with
  | nil => simp [positionFrom, positionFrom_append ht]
  | cons c p ih =>
    simp only [List.cons_append, List.length_cons, positionFrom]
    split
    · rename_i hc
      rw [ih, hc, List.count_cons_self]
      congr 1
      omega
    · rename_i hc
      rw [ih, List.count_cons_of_ne hc]

theorem newline_notMem_leadingBlanks (t : Text) : '\n' ∉ leadingBlanks t :=
  fun hmem => absurd (List.mem_takeWhile_imp hmem) (by decide)

namespace Editor

variable {e : Editor} {p s : Text} {t : Trail} {key : Key}

/-- **A new row** goes between the two parts, with the indentation of the row of the cursor. -/
theorem Inserting.typeNewline (h : Inserting p s e) :
    Inserting (p ++ '\n' :: leadingBlanks ((⟨p ++ s⟩ : Buffer).rowText (p.count '\n'))) s
      e.typeNewline := by
  let indent := leadingBlanks ((⟨p ++ s⟩ : Buffer).rowText (p.count '\n'))
  have hrow : e.cursor.row = p.count '\n' := by
    rw [h.cursor, (Buffer.positionAt_eq _ _).2, h.buffer, List.take_left]
  have hindent : leadingBlanks (e.buffer.rowText e.cursor.row) = indent := by
    rw [hrow, h.buffer]
  have hbuffer : e.typeNewline.buffer = ⟨p ++ '\n' :: indent ++ s⟩ := by
    show e.buffer.insert e.cursorOffset ('\n' :: leadingBlanks _) = _
    rw [hindent, h.cursorOffset_eq, h.buffer, Buffer.insert, List.take_left, List.drop_left]
  have hcursor : e.typeNewline.cursor = ⟨p.count '\n' + 1, indent.length⟩ := by
    show (⟨e.cursor.row + 1, (leadingBlanks _).length⟩ : Position) = _
    rw [hindent, hrow]
  refine ⟨h.mode, h.continuation, hbuffer, ?_⟩
  rw [hcursor, hbuffer, Buffer.positionAt,
    positionFrom_append_newline (newline_notMem_leadingBlanks _), Nat.zero_add]

/-! ### The record along a session -/

theorem read_unrecordTyped (e : Editor) :
    e.unrecordTyped.registers.read lastInsertRegister =
      (e.registers.read lastInsertRegister).dropLast := by
  unfold unrecordTyped
  dsimp only
  split
  · rename_i hempty
    rw [List.isEmpty_iff.1 hempty]
    rfl
  · rw [RegisterFile.read_write, if_pos rfl]

/-- A backspace drops the last character from the record, unless there is nothing to erase. -/
theorem Inserting.read_eraseBack (h : Inserting p s e) :
    e.eraseBack.registers.read lastInsertRegister =
      if p = [] then e.registers.read lastInsertRegister
      else (e.registers.read lastInsertRegister).dropLast := by
  have hhere := h.cursorOffset_eq
  unfold Editor.eraseBack
  dsimp only
  rw [hhere]
  by_cases hp : p = []
  · rw [if_pos (List.length_eq_zero_iff.2 hp), if_pos hp]
  · rw [if_neg (mt List.length_eq_zero_iff.1 hp), if_neg hp, read_unrecordTyped]
    rfl

/-- **The session has come to a trail**: the text before the cursor is that of the trail, and its
keys are not recorded into the register of the session. -/
structure Follows (s : Text) (t : Trail) (e : Editor) : Prop where
  inserting : Inserting t.text s e
  recording : e.recording ≠ some lastInsertRegister

namespace Follows

theorem capture (h : Follows s t e) (key : Key) :
    Follows s t (e.capture key) ∧
      (e.capture key).registers.read lastInsertRegister =
        e.registers.read lastInsertRegister := by
  refine ⟨⟨h.inserting.capture key, ?_⟩, ?_⟩
  · rw [capture_eq]
    exact h.recording
  · rw [capture_eq]
    exact read_captured (by decide) h.recording [key]

/-- **A key that types**: where the session has come to, and its record. -/
theorem insertKey (h : Follows s t e) (hkey : key.types = true) :
    Follows s (t.press s key) (e.insertKey key) ∧
      (e.insertKey key).registers.read lastInsertRegister =
        t.record (e.registers.read lastInsertRegister) key := by
  have hrec : (e.insertKey key).recording ≠ some lastInsertRegister := by
    rw [recording_insertKey]
    exact h.recording
  have hread (t : Text) : (e.registers.append lastInsertRegister t).read lastInsertRegister =
      e.registers.read lastInsertRegister ++ t := by
    rw [RegisterFile.read_append, if_pos rfl]
  cases key with
  | char c =>
    have hc : c ≠ '\n' := bne_iff_ne.1 hkey
    have hstep : Inserting (t.press s (.char c)).text s (e.typeChar c) := by
      have htext : (t.press s (.char c)).text = t.text ++ [c] := Trail.text_append ..
      rw [htext]
      exact h.inserting.typeChar hc
    exact ⟨⟨hstep, hrec⟩, hread [c]⟩
  | enter =>
    have hstep : Inserting (t.press s .enter).text s e.typeNewline := by
      have htext : (t.press s .enter).text = t.text ++ '\n' :: t.indentation s := by
        show Trail.text (t ++ ('\n', .typed) :: (t.indentation s).map (·, .indent)) = _
        simp [Trail.text, Function.comp_def]
      rw [htext]
      exact h.inserting.typeNewline
    exact ⟨⟨hstep, hrec⟩, hread ['\n']⟩
  | backspace =>
    have hstep : Inserting (t.press s .backspace).text s e.eraseBack := by
      have htext : (t.press s .backspace).text = t.text.dropLast := List.map_dropLast
      rw [htext]
      exact h.inserting.eraseBack
    have hnil : t.text = [] ↔ t = [] := List.map_eq_nil_iff
    refine ⟨⟨hstep, hrec⟩, h.inserting.read_eraseBack.trans ?_⟩
    simp only [hnil]
    rfl
  | _ => cases hkey

theorem press_eq (h : Follows s t e) (settings : Settings) (hkey : key.types = true) :
    (e.capture key).press settings key = .done ((e.capture key).insertKey key) := by
  have hesc : key.isEscape = false := by
    cases key with
    | escape | ctrlC => cases hkey
    | _ => rfl
  exact (h.capture key).1.inserting.press_eq settings hesc

/-- **All keys that type**, one after the other. -/
theorem after (h : Follows s t e) (settings : Settings) {keys : List Key}
    (hkeys : ∀ key ∈ keys, key.types = true) :
    Follows s (t.after s keys) (e.after settings keys) := by
  induction keys using List.reverseRecOn with
  | nil => exact h
  | append_singleton keys key ih =>
    have hbefore := ih fun key hkey => hkeys key (List.mem_append_left _ hkey)
    have hkey := hkeys key (by simp)
    have hstep := ((hbefore.capture key).1.insertKey hkey).1
    rw [after_concat_of_done (hbefore.press_eq settings hkey), Trail.after_concat,
      hstep.inserting.clampCursor_eq]
    exact hstep

theorem read_after_concat (h : Follows s t e) (settings : Settings) {keys : List Key}
    (hkeys : ∀ key ∈ keys, key.types = true) (hkey : key.types = true) :
    (e.after settings (keys ++ [key])).registers.read lastInsertRegister =
      (t.after s keys).record ((e.after settings keys).registers.read lastInsertRegister) key := by
  have hbefore := h.after settings hkeys
  obtain ⟨hcaptured, hread⟩ := hbefore.capture key
  rw [after_concat_of_done (hbefore.press_eq settings hkey), ← hread]
  exact (hcaptured.insertKey hkey).2

end Follows

/-- The key that starts a session is recorded, and a first key of two gives way to it. -/
theorem press_session (hm : e.mode = .normal) (hop : e.operator = none)
    (hk : e.continuation = none ∨ e.continuation = some .gotoPrefix) (settings : Settings)
    {c : Char} (hc : c ∈ sessionKeys) :
    (e.capture (.char c)).press settings (.char c) =
      .done (({ e.captured [.char c] with continuation := none } : Editor).commandKey c) := by
  let e₁ : Editor := { e.captured [.char c] with continuation := none }
  have hne : Key.char c ≠ .char 'g' := by
    rintro heq
    obtain rfl := Key.char.inj heq
    exact absurd hc (by decide)
  have hpress : (e.captured [.char c]).press settings (.char c) = e₁.press settings (.char c) := by
    rw [press_of_modeKey (e := e.captured [.char c]) settings rfl
        (hk.imp_right fun hk => ⟨hk, hne⟩),
      press_of_modeKey (e := e₁) settings rfl (.inl rfl)]
  rw [capture_eq, hpress]
  exact press_of_session (e := e₁) hm rfl hop settings hc

/-- **A session starts** with an empty record, where the text is cut at the cursor. -/
theorem follows_of_session {b : Buffer} (he : Reachable b e) (hm : e.mode = .normal)
    (hop : e.operator = none)
    (hk : e.continuation = none ∨ e.continuation = some .gotoPrefix)
    (hrec : e.recording ≠ some lastInsertRegister) (settings : Settings) {c : Char}
    (hc : c ∈ sessionKeys) :
    let e' := e.after settings [.char c]
    Follows (e'.buffer.text.drop e'.cursorOffset)
        (.found (e'.buffer.text.take e'.cursorOffset)) e' ∧
      e'.registers.read lastInsertRegister = [] := by
  intro e'
  let e₁ : Editor := { e.captured [.char c] with continuation := none }
  obtain ⟨hmode, hregisters, hrecording⟩ := commandKey_of_session (e := e₁) hop hc
  have he' : e' = (e₁.commandKey c).clampCursor :=
    after_singleton_of_done (press_session hm hop hk settings hc)
  have hmode' : e'.mode = .insert := by
    rw [he']
    exact hmode
  have hlength : (e'.buffer.text.take e'.cursorOffset).length = e'.cursorOffset := by
    rw [List.length_take]
    exact Nat.min_eq_left (Buffer.offsetAt_le_length ..)
  have hinserting : Inserting (e'.buffer.text.take e'.cursorOffset)
      (e'.buffer.text.drop e'.cursorOffset) e' :=
    (he.next settings [.char c]).inserting hmode' (List.take_append_drop ..).symm hlength.symm
  refine ⟨⟨by rwa [Trail.text_found], ?_⟩, ?_⟩
  · have hsame : e'.recording = e.recording := by
      rw [he']
      exact hrecording
    rwa [hsame]
  · have hclear : e'.registers = e₁.registers.clear lastInsertRegister := by
      rw [he']
      exact hregisters
    rw [hclear, RegisterFile.read_clear, if_pos rfl]

/-- **When the register of a session holds what was typed.** Wherever a run has led to, in normal
mode, with no operator pending and no key recorded into that register: a session is started, and in
it characters, new rows and backspaces are typed. After each key the text before the cursor is that
of the trail. The register holds the part of it that was typed, all along, exactly if no backspace
takes a blank of an indentation. -/
theorem session_record_iff {b : Buffer} (he : Reachable b e) (hm : e.mode = .normal)
    (hop : e.operator = none)
    (hk : e.continuation = none ∨ e.continuation = some .gotoPrefix)
    (hrec : e.recording ≠ some lastInsertRegister) (settings : Settings) {c : Char}
    (hc : c ∈ sessionKeys) {keys : List Key} (hkeys : ∀ key ∈ keys, key.types = true) :
    let session := fun typed => e.after settings (.char c :: typed)
    let s := (session []).buffer.text.drop (session []).cursorOffset
    let trail := Trail.after s (.found ((session []).buffer.text.take (session []).cursorOffset))
    (∀ typed, typed <+: keys →
        (session typed).mode = .insert ∧ (session typed).buffer.text = (trail typed).text ++ s ∧
          (session typed).cursorOffset = (trail typed).length) ∧
      ((∀ typed, typed <+: keys →
          (session typed).registers.read lastInsertRegister = (trail typed).typed) ↔
        ∀ typed, typed ++ [.backspace] <+: keys → ¬ (trail typed).EndsInIndent) := by
  intro session s trail
  obtain ⟨hstart, hempty⟩ := follows_of_session he hm hop hk hrec settings hc
  have hsession (typed : List Key) :
      session typed = (e.after settings [.char c]).after settings typed :=
    after_cons_of_done (press_session hm hop hk settings hc) typed
  have htypes {typed : List Key} (htyped : typed <+: keys) : ∀ key ∈ typed, key.types = true :=
    fun key hkey => hkeys key (htyped.subset hkey)
  refine ⟨fun typed htyped => ?_, ?_⟩
  · have hthere : Follows s (trail typed) (session typed) := by
      rw [hsession]
      exact hstart.after settings (htypes htyped)
    have hoffset := hthere.inserting.cursorOffset_eq
    rw [Trail.text, List.length_map] at hoffset
    exact ⟨hthere.inserting.mode, congrArg Buffer.text hthere.inserting.buffer, hoffset⟩
  · refine (Trail.rooted_found _).record_eq_iff s keys
      (fun typed => (session typed).registers.read lastInsertRegister)
      (by rw [Trail.typed_found]; exact hempty) fun before key hbefore => ?_
    have hall := htypes hbefore
    simp only [hsession]
    exact hstart.read_after_concat settings (fun key hkey => hall key (List.mem_append_left _ hkey))
      (hall key (by simp))

/-- Behind an indented row, while a macro is being recorded: a backspace takes what was typed behind
the indentation of the new row. -/
theorem session_record_indented :
    ∃ e : Editor, Reachable ⟨[' ', 'a']⟩ e ∧ e.recording = some 'r' ∧
      let session := e.after {} [.char 'A', .enter, .char 'x', .backspace]
      session.buffer.text = [' ', 'a', '\n', ' '] ∧
        session.registers.read lastInsertRegister = ['\n'] := by
  have he : Reachable ⟨[' ', 'a']⟩ _ := .first {} [.char 'q', .char 'r']
  obtain ⟨htext, hrecord⟩ := session_record_iff he (by decide +kernel) (by decide +kernel)
    (by decide +kernel) (by decide +kernel) {} (c := 'A') (by decide)
    (show ∀ key ∈ [Key.enter, .char 'x', .backspace], key.types = true by decide)
  have hright := hrecord.2 fun typed htyped => by
    obtain ⟨rest, hrest⟩ := htyped
    rcases typed with _ | ⟨first, _ | ⟨second, _ | ⟨third, typed⟩⟩⟩
    · simp at hrest
    · simp at hrest
    · obtain ⟨rfl, rfl, -⟩ : first = .enter ∧ second = .char 'x' ∧ rest = [] := by
        simpa using hrest
      rintro ⟨c, hlast⟩
      have horigin : (Option.map Prod.snd _) = some Origin.indent := congrArg _ hlast
      exact absurd horigin (by decide +kernel)
    · simp at hrest
  exact ⟨_, he, by decide +kernel, (htext _ List.prefix_rfl).2.1.trans (by decide +kernel),
    (hright _ List.prefix_rfl).trans (by decide +kernel)⟩

/-- Behind an indented row a new row is started, and its indentation taken back by a backspace: the
newline is still in the text, and the record is empty. -/
theorem session_record_loses_newline :
    ∃ e : Editor, Reachable ⟨[' ', 'a']⟩ e ∧ e.mode = .normal ∧ e.operator = none ∧
      e.continuation = none ∧ e.recording = none ∧
      let session := e.after {} [.char 'A', .enter, .backspace]
      (e.after {} [.char 'A']).buffer.text = [' ', 'a'] ∧
        session.buffer.text = [' ', 'a', '\n'] ∧
        session.registers.read lastInsertRegister = [] := by
  have he : Reachable ⟨[' ', 'a']⟩ _ := .first {} []
  exact ⟨_, he, by decide +kernel⟩

end Editor

end ModalEditor
