import ModalEditor.Proofs.Motions

/-!
# Motions and their keys

A `Motion` is a motion with all it takes to type it: the character of a jump, the name of a mark,
the query of a search. It has a target (`target?`), and its last key settles the command there
(`settles_finish_of_ne_search`). A motion key carries out a motion or begins one (`MotionKey`): this
is the only look at the table of motion keys. What is needed of it where operators and macros are
concerned is less (`Moved`).
-/

namespace ModalEditor

/-! ### Queries -/

/-- A line after one more key. Only characters and backspaces change it. -/
def LineInput.edit (l : LineInput) : Key → LineInput
  | .char c => l.insert c
  | .backspace => l.backspace
  | _ => l

/-- The keys of a query, up to the one that commits it. -/
structure Query where
  /-- The keys. -/
  keys : List Key
  /-- None of them ends the query. -/
  goes_on : ∀ key ∈ keys, key ≠ .enter ∧ key.isEscape = false

namespace Query

/-- The line that the keys make. -/
def line (q : Query) : LineInput := q.keys.foldl LineInput.edit {}

/-- The query itself. -/
def text (q : Query) : Text := q.line.text

/-- A query typed character by character. -/
def ofText (t : Text) : Query where
  keys := t.map Key.char
  goes_on := by simp [Key.isEscape]

theorem edit_char (l : LineInput) (c : Char) : l.edit (.char c) = l.insert c := rfl

theorem foldl_edit_char (t u : Text) :
    (t.map Key.char).foldl LineInput.edit ⟨u, u.length⟩ = ⟨u ++ t, (u ++ t).length⟩ := by
  induction t generalizing u with
  | nil => simp
  | cons c t ih =>
    have hinsert : (⟨u, u.length⟩ : LineInput).insert c = ⟨u ++ [c], (u ++ [c]).length⟩ := by
      rw [LineInput.insert_of_atEnd rfl]
      simp
    rw [List.map_cons, List.foldl_cons, edit_char, hinsert, ih]
    simp

theorem line_ofText (t : Text) : (ofText t).line = ⟨t, t.length⟩ := foldl_edit_char t []

/-- Every line that is typed at its end is that of some query. -/
theorem exists_line {l : LineInput} (h : l.cursor = l.text.length) : ∃ q : Query, q.line = l := by
  refine ⟨ofText l.text, (line_ofText l.text).trans ?_⟩
  rw [← h]

end Query

/-! ### Motions -/

/-- The key that starts a jump. -/
def Jump.key (j : Jump) : Char :=
  match j.kind, j.direction with
  | .find, .forward => 'f'
  | .find, .backward => 'F'
  | .till, .forward => 't'
  | .till, .backward => 'T'

/-- What a jump waits in for its character. -/
def Jump.continuation (j : Jump) : Continuation :=
  match j.kind with
  | .find => .findChar j.direction
  | .till => .toChar j.direction

/-- **A motion**, with all that is typed for it. -/
inductive Motion where
  /-- To the left. -/
  | left
  /-- To the right. -/
  | right
  /-- To the start of the row. -/
  | rowStart
  /-- To the end of the indentation. -/
  | indent
  /-- To the end of the row. -/
  | rowEnd
  /-- To the row below. -/
  | down
  /-- To the row above. -/
  | up
  /-- To the start of a word further on. -/
  | word (kind : WordKind)
  /-- To the start of a word further back. -/
  | backWord (kind : WordKind)
  /-- To the end of a word further on. -/
  | wordEnd (kind : WordKind)
  /-- To the row that the count names, the last without one. -/
  | bottom
  /-- To the row that the count names, the first without one. -/
  | top
  /-- To a character of the row. -/
  | jump (j : Jump)
  /-- The last jump again, or its reverse. -/
  | jumpAgain (reverse : Bool)
  /-- To a mark. -/
  | mark (name : Char)
  /-- To a match of a query. -/
  | search (d : Direction) (q : Query)
  /-- The last search again, or the other way. -/
  | searchAgain (reverse : Bool)

namespace Motion

/-- The keys of a motion before its last. -/
def opening : Motion → List Key
  | top => [.char 'g']
  | jump j => [.char j.key]
  | mark _ => [.char '\'']
  | search d q => .char d.searchKey :: q.keys
  | _ => []

/-- The last key of a motion, which carries it out. -/
def last : Motion → Key
  | left => .char 'h'
  | right => .char 'l'
  | rowStart => .char '0'
  | indent => .char '^'
  | rowEnd => .char '$'
  | down => .char 'j'
  | up => .char 'k'
  | word .word => .char 'w'
  | word .bigWord => .char 'W'
  | backWord .word => .char 'b'
  | backWord .bigWord => .char 'B'
  | wordEnd .word => .char 'e'
  | wordEnd .bigWord => .char 'E'
  | bottom => .char 'G'
  | top => .char 'g'
  | jump j => .char j.target
  | jumpAgain false => .char ';'
  | jumpAgain true => .char ','
  | mark name => .char name
  | search _ _ => .enter
  | searchAgain false => .char 'n'
  | searchAgain true => .char 'N'

/-- The keys of a motion. -/
def keys (m : Motion) : List Key := m.opening ++ [m.last]

/-- Where a motion leads. -/
def target? (settings : Settings) (e : Editor) : Motion → Option Target
  | left => some e.leftTarget
  | right => some e.rightTarget
  | rowStart => some e.rowStartTarget
  | indent => some e.indentTarget
  | rowEnd => some e.rowEndTarget
  | down => e.downTarget?
  | up => e.upTarget?
  | word kind => some (e.wordTarget kind)
  | backWord kind => some (e.backWordTarget kind)
  | wordEnd kind => some (e.wordEndTarget kind)
  | bottom => some e.bottomTarget
  | top => some e.topTarget
  | jump j => e.jumpTarget? j false
  | jumpAgain reverse =>
    e.lastJump.bind fun j => e.jumpTarget? (if reverse then j.reverse else j) true
  | mark name => (e.marks.get? name).map fun p => .char (e.buffer.offsetAt p) false
  | search d q => e.searchTarget? (e.patternFor settings q.text) d !q.text.isEmpty
  | searchAgain reverse =>
    let d := e.searchDirection.getD .forward
    e.searchTarget? e.searchPattern (if reverse then d.opposite else d) false

/-- What the last key of a motion does. -/
def finish (settings : Settings) (e : Editor) : Motion → Editor
  | left => e.reach e.leftTarget
  | right => e.reach e.rightTarget
  | rowStart => e.reach e.rowStartTarget
  | indent => e.reach e.indentTarget
  | rowEnd => e.reach e.rowEndTarget
  | down => e.reachOr e.downTarget?
  | up => e.reachOr e.upTarget?
  | word kind => e.reach (e.wordTarget kind)
  | backWord kind => e.reach (e.backWordTarget kind)
  | wordEnd kind => e.reach (e.wordEndTarget kind)
  | bottom => e.reach e.bottomTarget
  | top => e.reach e.topTarget
  | jump j => e.startJump j
  | jumpAgain reverse => e.repeatJump reverse
  | mark name => e.jumpToMark name
  | search _ _ => e.commitSearch settings
  | searchAgain reverse => e.repeatSearch reverse

end Motion

namespace Editor

/-- A motion other than a search settles the command where it is, unless it leads to a mark that is
not set. -/
theorem settles_finish_of_ne_search {m : Motion} (hne : ∀ d q, m ≠ .search d q)
    (settings : Settings) (e : Editor) :
    Settles e (m.target? settings e) (m.finish settings e) ∨
      ∃ name, m = .mark name ∧ e.marks.get? name = none ∧ m.finish settings e = e := by
  cases m with
  | search d q => exact absurd rfl (hne d q)
  | mark name =>
    cases hmark : e.marks.get? name with
    | none => exact .inr ⟨name, rfl, hmark, by simp [Motion.finish, jumpToMark, hmark]⟩
    | some p =>
      refine .inl ?_
      simpa [Motion.finish, Motion.target?, jumpToMark, hmark, reachOr] using
        settles_reachOr e (some (.char (e.buffer.offsetAt p) false))
  | jump j => exact .inl (settles_startJump e j)
  | jumpAgain reverse => exact .inl (settles_repeatJump e reverse)
  | searchAgain reverse => exact .inl (settles_repeatSearch e reverse)
  | down | up => exact .inl (settles_reachOr e _)
  | _ => exact .inl (settles_reachOr e (some _))

/-! ### Motion keys -/

theorem motionKey?_of_opening {m : Motion} (h : m.opening = []) (settings : Settings) (e : Editor) :
    ∃ c, m.last = .char c ∧ c ≠ 'g' ∧ (c = '0' → m = .rowStart) ∧
      e.motionKey? c = some (m.finish settings e) := by
  cases m with
  | top | jump | mark | search => simp [Motion.opening] at h
  | rowStart => exact ⟨_, rfl, by decide, fun _ => rfl, rfl⟩
  | word kind | backWord kind | wordEnd kind =>
    cases kind <;> exact ⟨_, rfl, by decide, by simp, rfl⟩
  | jumpAgain reverse | searchAgain reverse =>
    cases reverse <;> exact ⟨_, rfl, by decide, by simp, rfl⟩
  | _ => exact ⟨_, rfl, by decide, by simp, rfl⟩

/-- **A motion key carries out a motion, or begins one.** -/
inductive MotionKey (settings : Settings) (e : Editor) (c : Char) : Editor → Prop where
  /-- It is all there is to type. -/
  | whole (m : Motion) (hlast : m.last = .char c) (hopening : m.opening = []) :
    MotionKey settings e c (m.finish settings e)
  /-- It waits for the second key of a motion; some motions drop the modifier. -/
  | awaits (k : Continuation) (hk : k.opensMotion = true) {modifier : Option Modifier}
    (hmodifier : modifier = e.modifier ∨ modifier = none) :
    MotionKey settings e c ({ e with modifier := modifier }.awaitKey k)
  /-- It starts to type a query. -/
  | query (d : Direction) : MotionKey settings e c (e.startSearch d)

theorem motionKey_of_motionKey? {e e' : Editor} {c : Char} (settings : Settings)
    (h : e.motionKey? c = some e') : MotionKey settings e c e' := by
  unfold motionKey? at h
  split at h
  case h_27 => simp at h
  all_goals obtain rfl := Option.some.inj h
  case h_1 => exact .whole .left rfl rfl
  case h_2 => exact .whole .right rfl rfl
  case h_3 => exact .whole .rowStart rfl rfl
  case h_4 => exact .whole .indent rfl rfl
  case h_5 => exact .whole .rowEnd rfl rfl
  case h_6 => exact .whole .down rfl rfl
  case h_7 => exact .whole .up rfl rfl
  case h_8 => exact .whole (.word .word) rfl rfl
  case h_9 => exact .whole (.word .bigWord) rfl rfl
  case h_10 => exact .whole (.backWord .word) rfl rfl
  case h_11 => exact .whole (.backWord .bigWord) rfl rfl
  case h_12 => exact .whole (.wordEnd .word) rfl rfl
  case h_13 => exact .whole (.wordEnd .bigWord) rfl rfl
  case h_14 => exact .whole .bottom rfl rfl
  case h_15 => exact .awaits (.findChar .forward) rfl (.inr rfl)
  case h_16 => exact .awaits (.findChar .backward) rfl (.inr rfl)
  case h_17 => exact .awaits (.toChar .forward) rfl (.inr rfl)
  case h_18 => exact .awaits (.toChar .backward) rfl (.inr rfl)
  case h_19 => exact .whole (.jumpAgain false) rfl rfl
  case h_20 => exact .whole (.jumpAgain true) rfl rfl
  case h_21 => exact .awaits .gotoPrefix rfl (.inl rfl)
  case h_22 => exact .awaits .jumpToMark rfl (.inl rfl)
  case h_23 => exact .query .forward
  case h_24 => exact .query .backward
  case h_25 => exact .whole (.searchAgain false) rfl rfl
  case h_26 => exact .whole (.searchAgain true) rfl rfl

/-- **What a motion key does.** -/
inductive Moved (e : Editor) : Editor → Prop where
  /-- It settles the command. -/
  | settled {e' : Editor} (h : Settled e e') : Moved e e'
  /-- It waits for a second key; some motions drop the modifier. -/
  | awaits {k : Continuation} (hk : k.opensMotion = true) {m : Option Modifier}
    (hm : m = e.modifier ∨ m = none) : Moved e ({ e with modifier := m }.awaitKey k)
  /-- It starts to type a query. -/
  | query (d : Direction) : Moved e (e.startSearch d)

theorem MotionKey.moved {settings : Settings} {e e' : Editor} {c : Char}
    (h : MotionKey settings e c e') : Moved e e' := by
  cases h with
  | whole m hlast hopening =>
    have hne : ∀ d q, m ≠ .search d q := by
      rintro d q rfl
      simp [Motion.opening] at hopening
    rcases settles_finish_of_ne_search hne settings e with hs | ⟨name, rfl, -, -⟩
    · exact .settled hs.settled
    · simp [Motion.opening] at hopening
  | awaits k hk hmodifier => exact .awaits hk hmodifier
  | query d => exact .query d

theorem moved_motionKey? {e e' : Editor} {c : Char} (h : e.motionKey? c = some e') : Moved e e' :=
  (motionKey_of_motionKey? {} h).moved

end Editor

end ModalEditor
