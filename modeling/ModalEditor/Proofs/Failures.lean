import ModalEditor.Proofs.Browsing
import ModalEditor.Proofs.Geometry
import ModalEditor.Proofs.Reachable
import ModalEditor.Proofs.SearchStatus

/-!
# Failed commands

A command that cannot be carried out leaves everything in place: the text, the cursor, the marks, the
history, the mode and the registers, but for the search register (`Unmoved`). `Attempt.Fails` says
when that is, for each command in its own terms: too few occurrences in the row, a mark that is not
set, a pattern that matches nowhere.

There is one exception. A search backward looks at the text before the cursor alone, and a pattern
that matches nowhere may match that (`Motion.Misled`); `unmoved_of_fails` shows that it is the only
one, since such a search reports a match.
-/

namespace ModalEditor

/-! ### Patterns that match nowhere -/

namespace Buffer

variable {b : Buffer} {p : SearchPattern}

/-- A pattern matches nowhere. -/
def Lacks (b : Buffer) (p : SearchPattern) : Prop :=
  ∀ offset, offset ≤ b.length → p.regex.matchAt? b.text offset = none

instance (b : Buffer) (p : SearchPattern) : Decidable (b.Lacks p) :=
  decidable_of_iff (∀ offset < b.length + 1, p.regex.matchAt? b.text offset = none)
    ⟨fun h offset ho => h offset (Nat.lt_succ_of_le ho),
      fun h offset ho => h offset (Nat.le_of_lt_succ ho)⟩

/-- The text before an offset, taken alone. -/
def before (b : Buffer) (offset : Nat) : Buffer := ⟨b.text.take offset⟩

theorem findLast?_eq_none_iff : p.regex.findLast? b.text = none ↔ b.Lacks p := by
  have h := Pattern.Regex.lastFrom_eq_none_iff (r := p.regex) (Nat.zero_le b.text.length)
  exact h.trans ⟨fun h o => h o (Nat.zero_le o), fun h o _ => h o⟩

/-- The next match is none where there is none anywhere. -/
theorem findNext_of_lacks (h : b.Lacks p) (offset : Nat) : b.findNext p offset = none := by
  have hfind (o : Nat) (ho : o ≤ b.length) : p.regex.find? b.text o = none :=
    (Pattern.Regex.find?_eq_none_iff ho).2 fun o' _ => h o'
  simp [findNext, hfind (min offset b.length) (Nat.min_le_right _ _), hfind 0 (Nat.zero_le _)]

/-- The match before an offset may be one of the text up to there that the whole text lacks. -/
theorem findPrevious_eq_none_iff (h : b.Lacks p) (offset : Nat) :
    b.findPrevious p offset = none ↔ (b.before offset).Lacks p := by
  have hlast := findLast?_eq_none_iff.2 h
  rw [← findLast?_eq_none_iff (b := b.before offset)]
  show b.findPrevious p offset = none ↔ p.regex.findLast? (b.text.take offset) = none
  unfold findPrevious
  cases p.regex.findLast? (b.text.take offset) with
  | some span => simp
  | none => simp [hlast]

/-- Going on to further matches does not undo the first. -/
theorem findNth_eq_none_iff {d : Direction} {n offset : Nat} (hn : n ≠ 0) :
    b.findNth p d n offset = none ↔ b.findTowards p d offset = none := by
  obtain ⟨n, rfl⟩ := Nat.exists_eq_succ_of_ne_zero hn
  unfold findNth
  cases b.findTowards p d offset <;> simp

end Buffer

/-! ### Characters of a row -/

/-- How often the character of a jump stands in the row on that side of a column, not counting the
`skip` places next to it. -/
def Jump.occurrences (j : Jump) (row : Text) (col skip : Nat) : Nat :=
  match j.direction with
  | .forward => (row.drop (col + skip + 1)).count j.target
  | .backward => (row.take (col - skip)).count j.target

/-- The places of a character from a place on are counted in what follows it. The induction is on
the row, whose first place is `start`. -/
theorem length_filter_ge (c : Char) (row : Text) (start n : Nat) :
    (((row.zipIdx start).filterMap fun p => if p.1 = c then some p.2 else none).filter
      (n ≤ ·)).length = (row.drop (n - start)).count c := by
  induction row generalizing start with
  | nil => simp
  | cons d row ih =>
    have hrest := ih (start + 1)
    by_cases hn : n ≤ start
    · rw [Nat.sub_eq_zero_of_le hn]
      rw [Nat.sub_eq_zero_of_le (Nat.le_succ_of_le hn)] at hrest
      by_cases hd : d = c
      · simpa [List.zipIdx_cons, hd, hn] using hrest
      · simpa [List.zipIdx_cons, hd, hn] using hrest
    · rw [show n - start = n - (start + 1) + 1 by omega]
      by_cases hd : d = c
      · simpa [List.zipIdx_cons, hd, hn] using hrest
      · simpa [List.zipIdx_cons, hd, hn] using hrest

/-- Those up to a place are counted in what stands before it. -/
theorem length_filter_lt (c : Char) (row : Text) (start n : Nat) :
    (((row.zipIdx start).filterMap fun p => if p.1 = c then some p.2 else none).filter
      (· < n)).length = (row.take (n - start)).count c := by
  induction row generalizing start with
  | nil => simp
  | cons d row ih =>
    have hrest := ih (start + 1)
    by_cases hn : n ≤ start
    · rw [Nat.sub_eq_zero_of_le hn]
      rw [Nat.sub_eq_zero_of_le (Nat.le_succ_of_le hn)] at hrest
      have hstart : ¬ start < n := Nat.not_lt.2 hn
      by_cases hd : d = c
      · simpa [List.zipIdx_cons, hd, hstart] using hrest
      · simpa [List.zipIdx_cons, hd, hstart] using hrest
    · have hstart : start < n := Nat.not_le.1 hn
      rw [show n - start = n - (start + 1) + 1 by omega]
      by_cases hd : d = c
      · simpa [List.zipIdx_cons, hd, hstart] using hrest
      · simpa [List.zipIdx_cons, hd, hstart] using hrest

/-- There are as many candidates for a jump as there are occurrences. -/
theorem Jump.length_candidates (j : Jump) (row : Text) (col skip : Nat) :
    (j.candidates row col skip).length = j.occurrences row col skip := by
  unfold Jump.candidates Jump.occurrences
  cases j.direction with
  | forward => exact length_filter_ge j.target row 0 (col + skip + 1)
  | backward =>
    dsimp only
    rw [List.length_reverse]
    exact length_filter_lt j.target row 0 (col - skip)

/-- How many places next to the cursor a jump skips. -/
def Jump.skip (j : Jump) (again : Bool) : Nat := if again && j.kind == .till then 1 else 0

theorem Jump.column?_eq_none {j : Jump} {row : Text} {col count : Nat} {again : Bool}
    (h : j.occurrences row col (j.skip again) < count) : j.column? row col count again = none := by
  rw [← Jump.length_candidates] at h
  have hget : (j.candidates row col (j.skip again))[count - 1]? = none :=
    List.getElem?_eq_none (Nat.le_sub_one_of_lt h)
  show ((j.candidates row col (j.skip again))[count - 1]?).map j.landing = none
  rw [hget]
  rfl

/-! ### Motions that fail -/

namespace Motion

/-- **When a motion cannot be carried out**: a vertical one that cannot leave the row, a jump with too
few occurrences or with none to repeat, a mark that is not set, a search without a pattern or for one
that matches nowhere. -/
def Fails (settings : Settings) (e : Editor) : Motion → Prop
  | down => e.cursor.row = e.buffer.lastRow
  | up => e.cursor.row = 0
  | jump j =>
    j.occurrences (e.buffer.rowText e.cursor.row) e.cursor.col (j.skip false) < e.count
  | jumpAgain reverse =>
    ∀ last ∈ e.lastJump,
      let j := if reverse then last.reverse else last
      j.occurrences (e.buffer.rowText e.cursor.row) e.cursor.col (j.skip true) < e.count
  | mark name => e.marks.get? name = none
  | search _ q => ∀ p ∈ e.patternFor settings q.text, e.buffer.Lacks p
  | searchAgain _ => ∀ p ∈ e.searchPattern, e.buffer.Lacks p
  | _ => False

instance (settings : Settings) (e : Editor) : (m : Motion) → Decidable (m.Fails settings e)
  | down => inferInstanceAs (Decidable (_ = _))
  | up => inferInstanceAs (Decidable (_ = _))
  | jump _ => inferInstanceAs (Decidable (_ < _))
  | jumpAgain _ => inferInstanceAs (Decidable (∀ last ∈ e.lastJump, _ < e.count))
  | mark _ => inferInstanceAs (Decidable (_ = _))
  | search _ q => inferInstanceAs (Decidable (∀ p ∈ e.patternFor settings q.text, e.buffer.Lacks p))
  | searchAgain _ => inferInstanceAs (Decidable (∀ p ∈ e.searchPattern, e.buffer.Lacks p))
  | left | right | rowStart | indent | rowEnd | word _ | backWord _ | wordEnd _ | bottom | top =>
    inferInstanceAs (Decidable False)

/-- Whether a motion searches backward for a pattern that matches the text before the cursor, taken
alone. -/
def Misled (settings : Settings) (e : Editor) : Motion → Prop
  | search .backward q =>
    ∃ p ∈ e.patternFor settings q.text, ¬ (e.buffer.before e.cursorOffset).Lacks p
  | searchAgain reverse =>
    (if reverse then (e.searchDirection.getD .forward).opposite
      else e.searchDirection.getD .forward) = .backward ∧
      ∃ p ∈ e.searchPattern, ¬ (e.buffer.before e.cursorOffset).Lacks p
  | _ => False

end Motion

namespace Editor

/-- A search for a pattern that matches nowhere finds nothing, unless it is misled. -/
theorem searchHit?_eq_none_iff {e : Editor} {p : SearchPattern} (h : e.buffer.Lacks p)
    (hcount : e.count ≠ 0) (d : Direction) (first : Bool) :
    e.searchHit? p d first = none ↔
      ¬ (d = .backward ∧ ¬ (e.buffer.before e.cursorOffset).Lacks p) := by
  have hn : min e.count (e.buffer.length + 1) ≠ 0 := by omega
  unfold searchHit?
  rw [Buffer.findNth_eq_none_iff hn]
  cases d with
  | forward => simp [Buffer.findTowards, Buffer.findNext_of_lacks h]
  | backward => simp [Buffer.findTowards, Buffer.findPrevious_eq_none_iff h]

/-- So it leads nowhere just when it is not misled. -/
theorem searchTarget?_eq_none_iff {e : Editor} {p? : Option SearchPattern}
    (h : ∀ p ∈ p?, e.buffer.Lacks p) (hcount : e.count ≠ 0) (d : Direction) (first : Bool) :
    e.searchTarget? p? d first = none ↔
      ¬ (d = .backward ∧ ∃ p ∈ p?, ¬ (e.buffer.before e.cursorOffset).Lacks p) := by
  unfold searchTarget?
  cases p? with
  | none => simp
  | some p =>
    have hlacks := h p rfl
    simp [searchHit?_eq_none_iff hlacks hcount d first]

/-- **A motion that fails leads nowhere**, unless it is misled. -/
theorem target?_of_fails {m : Motion} {settings : Settings} {e : Editor} (hcount : e.count ≠ 0)
    (h : m.Fails settings e) : m.target? settings e = none ↔ ¬ m.Misled settings e := by
  cases m with
  | down =>
    have hrow : e.cursor.row = e.buffer.lastRow := h
    have hstay : min (e.cursor.row + e.count) e.buffer.lastRow = e.cursor.row := by omega
    simp [Motion.target?, Motion.Misled, downTarget?, rowTarget?, hstay]
  | up =>
    have hrow : e.cursor.row = 0 := h
    simp [Motion.target?, Motion.Misled, upTarget?, rowTarget?, hrow]
  | jump j => simp [Motion.target?, Motion.Misled, jumpTarget?, Jump.column?_eq_none h]
  | jumpAgain reverse =>
    have hjump (last : Jump) (hlast : e.lastJump = some last) :
        e.jumpTarget? (if reverse then last.reverse else last) true = none := by
      simp [jumpTarget?, Jump.column?_eq_none (h last hlast)]
    cases hlast : e.lastJump with
    | none => simp [Motion.target?, Motion.Misled, hlast]
    | some last => simp [Motion.target?, Motion.Misled, hlast, hjump last hlast]
  | mark name =>
    have hmark : e.marks.get? name = none := h
    simp [Motion.target?, Motion.Misled, hmark]
  | search d q =>
    refine (searchTarget?_eq_none_iff h hcount d _).trans (not_congr ?_)
    cases d with
    | forward => simp [Motion.Misled]
    | backward => simp [Motion.Misled]
  | searchAgain reverse => exact searchTarget?_eq_none_iff h hcount _ false
  | _ => exact h.elim

/-! ### What a failure leaves -/

/-- **Everything is in place**: nothing is edited, and cursor and mode are the same. -/
structure Unmoved (e e' : Editor) : Prop extends Unedited e e' where
  /-- The cursor. -/
  cursor : e'.cursor = e.cursor
  /-- The mode. -/
  mode : e'.mode = e.mode

theorem Unmoved.refl (e : Editor) : Unmoved e e := ⟨.refl e, rfl, rfl⟩

theorem Unmoved.trans {e e₁ e₂ : Editor} (h : Unmoved e e₁) (h₁ : Unmoved e₁ e₂) : Unmoved e e₂ :=
  ⟨h.toUnedited.trans h₁.toUnedited, h₁.cursor.trans h.cursor, h₁.mode.trans h.mode⟩

theorem Unmoved.congr {e e₁ e₂ : Editor} (h : Unmoved e e₁) (hbuffer : e₂.buffer = e₁.buffer)
    (hhistory : e₂.history = e₁.history) (hmarks : e₂.marks = e₁.marks)
    (hcommand : e₂.lastCommand = e₁.lastCommand) (hregisters : e₂.registers = e₁.registers)
    (hcursor : e₂.cursor = e₁.cursor) (hmode : e₂.mode = e₁.mode) : Unmoved e e₂ :=
  ⟨h.toUnedited.congr hbuffer hhistory hmarks hcommand hregisters, hcursor.trans h.cursor,
    hmode.trans h.mode⟩

theorem Unmoved.clampCursor {e e' : Editor} (he : e.clampCursor = e) (h : Unmoved e e') :
    Unmoved e e'.clampCursor := by
  rwa [clampCursor_of_eq he h.buffer h.mode h.cursor]

theorem Unmoved.concluded {e e₁ : Editor} (hm : e.mode = .normal) (h : Unmoved e e₁) :
    Unmoved e e₁.concluded := by
  have hne : e₁.mode ≠ .search := by simp [h.mode, hm]
  rw [concluded_of_ne_search hne]
  exact h.congr rfl rfl rfl rfl rfl rfl rfl

/-- The keys of a motion change no more than what is half typed before its last. -/
theorem unmoved_begin (m : Motion) {e : Editor} (hm : e.mode = .normal) :
    Unmoved e (m.begin e).concluded := by
  cases m with
  | search d q => exact ⟨((Unedited.refl e).note q.text).congr rfl rfl rfl rfl rfl, rfl, hm.symm⟩
  | _ => exact Unmoved.concluded hm ((Unmoved.refl e).congr rfl rfl rfl rfl rfl rfl rfl)

theorem Reminded.unmoved {e e₁ : Editor} (h : Reminded e e₁) : Unmoved e e₁ :=
  ⟨h.unedited, h.cursor, congrArg Control.mode h.control⟩

theorem Settles.unmoved {e e' : Editor} (h : Settles e none e') : Unmoved e e' := by
  obtain ⟨hr⟩ := h
  exact hr.unmoved.congr rfl rfl rfl rfl rfl rfl rfl

/-- A motion that leads nowhere leaves everything in place. -/
theorem unmoved_run {m : Motion} {settings : Settings} {e : Editor} (hm : e.mode = .normal)
    (hk : e.continuation = none) (hz : m = .rowStart → e.repeatCount = none)
    (htarget : m.target? settings e = none) : Unmoved e (m.run settings e) := by
  rcases settles_run m settings (.inl hm) hk hz with hs | ⟨-, -, -, hsame⟩
  · rw [htarget] at hs
    exact (unmoved_begin m hm).trans hs.unmoved
  · rw [hsame]
    exact .refl e

/-! ### A search that is misled -/

/-- A search that leads somewhere has found a match. -/
theorem matchFound_runSearch {e : Editor} {d : Direction} {first : Bool}
    (h : e.searchTarget? e.searchPattern d first ≠ none) :
    (e.runSearch d first).matchFound = true := by
  cases hp : e.searchPattern with
  | none => simp [hp, searchTarget?] at h
  | some p =>
    have hstatus := searchStatus_runSearch_of_some hp d first
    have hhit : (e.searchHit? p d first).isSome = true := by
      simpa [hp, searchTarget?, Option.isSome_iff_ne_none] using h
    exact (congrArg SearchStatus.found hstatus).trans hhit

theorem matchFound_commitSearch {e : Editor} {settings : Settings}
    (h : e.searchTarget? (e.patternFor settings e.searchQuery.text)
      (e.searchDirection.getD .forward) (!e.searchQuery.text.isEmpty) ≠ none) :
    (e.commitSearch settings).matchFound = true := by
  unfold commitSearch
  dsimp only
  cases hquery : e.searchQuery.text.isEmpty with
  | true =>
    have hnil : e.searchQuery.text = [] := by simpa using hquery
    have hrecall := reminded_recallPattern { e with mode := .normal, searchQuery := {} } settings
    rw [hnil] at h
    refine matchFound_runSearch ?_
    rw [searchPattern_recallPattern, searchDirection_recallPattern, searchTarget?_congr hrecall.toAkin]
    exact h
  | false =>
    rw [patternFor_of_ne_nil e settings hquery, hquery] at h
    show (searchFor _ settings e.searchQuery.text).matchFound = true
    unfold searchFor
    cases hcompile : SearchPattern.compile e.searchQuery.text settings.ignoreCase with
    | ok p =>
      rw [hcompile] at h
      exact matchFound_runSearch h
    | error err =>
      rw [hcompile] at h
      exact absurd rfl h

/-- A misled search reports a match, though there is none. -/
theorem matchFound_run_of_misled {m : Motion} {settings : Settings} {e : Editor}
    (hcount : e.count ≠ 0) (h : m.Fails settings e) (hmisled : m.Misled settings e) :
    (m.run settings e).matchFound = true := by
  have htarget : m.target? settings e ≠ none := fun hnone =>
    (target?_of_fails hcount h).1 hnone hmisled
  cases m with
  | search d q => exact matchFound_commitSearch htarget
  | searchAgain reverse => exact matchFound_runSearch htarget
  | _ => exact hmisled.elim

/-! ### Attempts -/

end Editor

/-- **A command that may fail.** -/
inductive Attempt where
  /-- A motion, which may complete an operator. -/
  | motion (m : Motion)
  /-- Overwrite characters by one. -/
  | replace (c : Char)
  /-- Delete the character under the cursor. -/
  | deleteUnder
  /-- Delete the character before the cursor. -/
  | deleteBefore
  /-- Put a register, after the cursor or before it. -/
  | put (after : Bool)
  /-- Undo. -/
  | undo
  /-- Redo. -/
  | redo
  /-- Play a register. -/
  | play (name : Char)

namespace Attempt

/-- The keys of the command. -/
def keys : Attempt → List Key
  | motion m => m.keys
  | replace c => [.char 'r', .char c]
  | deleteUnder => [.char 'x']
  | deleteBefore => [.char 'X']
  | put true => [.char 'p']
  | put false => [.char 'P']
  | undo => [.char 'u']
  | redo => [.ctrlR]
  | play name => [.char '@', .char name]

/-- **When a command cannot be carried out.** Those that are no motions are commands of their own only
where no operator is pending. -/
def Fails (settings : Settings) (e : Editor) : Attempt → Prop
  | motion m => m.Fails settings e
  | replace _ =>
    e.operator = none ∧ e.buffer.rowLength e.cursor.row < e.cursor.col + e.count
  | deleteUnder => e.operator = none ∧ e.buffer.rowLength e.cursor.row ≤ e.cursor.col
  | deleteBefore => e.operator = none ∧ e.cursor.col = 0
  | put _ => e.operator = none ∧ e.registers.read (e.selected.getD unnamedRegister) = []
  | undo =>
    e.operator = none ∧ e.history.index? = some 0 ∧ e.history.currentBuffer? = some e.buffer
  | redo => e.operator = none ∧ e.history.index? = some (e.history.size - 1)
  | play name =>
    e.operator = none ∧
      ∀ register ∈ (if name = '@' then e.lastPlayed else some name), e.registers.read register = []

/-- Whether a command is a search that is misled. -/
def Misled (settings : Settings) (e : Editor) : Attempt → Prop
  | motion m => m.Misled settings e
  | _ => False

end Attempt

namespace Editor

variable {e : Editor}

theorem unmoved_dropCounts (e : Editor) : Unmoved e e.dropCounts :=
  (Unmoved.refl e).congr rfl rfl rfl rfl rfl rfl rfl

theorem unmoved_replaceChars {c : Char}
    (h : e.buffer.rowLength e.cursor.row < e.cursor.col + e.count) :
    Unmoved e (e.replaceChars c) := by
  have hrefuse : e.replaceChars c = e.dropCounts := if_pos h
  rw [hrefuse]
  exact unmoved_dropCounts e

theorem unmoved_deleteUnder (h : e.buffer.rowLength e.cursor.row ≤ e.cursor.col) :
    Unmoved e e.deleteUnder := by
  have hmin : min (e.cursor.col + e.count) (e.buffer.rowLength e.cursor.row) ≤ e.cursor.col :=
    Nat.le_trans (Nat.min_le_right _ _) h
  have hempty : (⟨e.buffer.rowStart e.cursor.row + e.cursor.col, e.buffer.rowStart e.cursor.row +
      min (e.cursor.col + e.count) (e.buffer.rowLength e.cursor.row)⟩ : Span).isEmpty = true := by
    simp only [Span.isEmpty, decide_eq_true_eq]
    omega
  have hrefuse : e.deleteUnder = e.dropCounts := if_pos hempty
  rw [hrefuse]
  exact unmoved_dropCounts e

theorem unmoved_deleteBefore (h : e.cursor.col = 0) : Unmoved e e.deleteBefore := by
  let span : Span := ⟨e.buffer.rowStart e.cursor.row + (e.cursor.col - e.count),
    e.buffer.rowStart e.cursor.row + e.cursor.col⟩
  have hempty : span.isEmpty = true := by simp [span, Span.isEmpty, h]
  have hrefuse : e.dropCounts.removeChars span = e.dropCounts := if_pos hempty
  have hcol : e.cursor.col - span.length = e.cursor.col := by simp [h]
  show Unmoved e { e.dropCounts.removeChars span with
    cursor := ⟨e.cursor.row, e.cursor.col - span.length⟩ }
  rw [hrefuse, hcol]
  exact unmoved_dropCounts e

theorem unmoved_put {after : Bool}
    (h : e.registers.read (e.selected.getD unnamedRegister) = []) : Unmoved e (e.put after) := by
  have hrefuse : e.put after = { e.dropCounts with selected := none } := if_pos (by simp [h])
  rw [hrefuse]
  exact (Unmoved.refl e).congr rfl rfl rfl rfl rfl rfl rfl

/-- An undo at the first checkpoint goes nowhere while the text is that of the checkpoint. -/
theorem unmoved_undo (hindex : e.history.index? = some 0)
    (hcurrent : e.history.currentBuffer? = some e.buffer) : Unmoved e e.undo := by
  cases hh : e.history with
  | empty => simp [hh, History.index?] at hindex
  | line before current after =>
    have hnil : before = [] := by simpa [hh, History.index?] using hindex
    have hsame : current.buffer = e.buffer := by
      simpa [hh, History.currentBuffer?, History.current?] using hcurrent
    have hundo : e.history.undo ⟨e.buffer, e.snapshot⟩ e.count = (e.history, none) := by
      simp [hh, hnil, hsame, History.undo, History.keepLive, History.current?, History.back,
        History.arrival?]
    unfold Editor.undo
    rw [hundo]
    exact unmoved_dropCounts e

/-- A redo at the last checkpoint goes nowhere. -/
theorem unmoved_redo (hindex : e.history.index? = some (e.history.size - 1)) :
    Unmoved e e.redo := by
  have hlast : e.history.canRedo = false := by
    have hlt := History.lt_size_of_index? hindex
    refine Bool.eq_false_iff.2 fun hcan => ?_
    have hmore := (History.canRedo_iff hindex).1 hcan
    omega
  unfold Editor.redo
  rw [History.redo_of_canRedo_eq_false hlast]
  exact unmoved_dropCounts e

/-- Playing a register that is empty plays nothing. -/
theorem startPlayback_empty {name : Char}
    (h : ∀ register ∈ (if name = '@' then e.lastPlayed else some name),
      e.registers.read register = []) :
    ∃ e', e.startPlayback name = .done e' ∧ Unmoved e e' := by
  unfold startPlayback
  cases hname : (if name = '@' then e.lastPlayed else some name) with
  | none => exact ⟨e, rfl, .refl e⟩
  | some register =>
    have hkeys : e.registers.keysOf register = [] := by
      unfold RegisterFile.keysOf
      rw [h register (by simp [hname])]
      simp [Key.readAll]
    refine ⟨{ e.dropCounts with lastPlayed := some register }, by simp [hkeys], ?_⟩
    exact (Unmoved.refl e).congr rfl rfl rfl rfl rfl rfl rfl

/-! ### The keys of an attempt -/

section Keys

variable {settings : Settings} (he : e.clampCursor = e) (hm : e.mode = .normal)
  (hk : e.continuation = none) (hrec : e.recording = none)

include he hrec

theorem unmoved_of_press {key : Key} {e' : Editor} (h : e.press settings key = .done e')
    (h' : Unmoved e e') : Unmoved e (e.after settings [key]) := by
  rw [after_singleton_of_press hrec h]
  exact h'.clampCursor he

include hm hk

omit he in
theorem after_commandKey (hop : e.operator = none) {c : Char} (hdigit : c.isDigit = false)
    (hmotion : e.motionKey? c = none) (hoperator : Operator.ofKey? c = none) (hmark : c ≠ 'm') :
    e.after settings [.char c] = (e.commandKey c).clampCursor :=
  after_singleton_of_press hrec (press_command hm hk hop settings hdigit hmotion hoperator hmark)

theorem after_continueWith (hop : e.operator = none) {c second : Char} {k : Continuation}
    (hdigit : c.isDigit = false) (hmotion : e.motionKey? c = none)
    (hoperator : Operator.ofKey? c = none) (hmark : c ≠ 'm') (hawait : e.commandKey c = e.awaitKey k)
    (hg : k ≠ .gotoPrefix) {e' : Editor} (hdone : e.continueWith k second = .done e') :
    e.after settings [.char c, .char second] = e'.clampCursor := by
  have hfirst := press_command hm hk hop settings hdigit hmotion hoperator hmark
  rw [hawait] at hfirst
  have hclamped : (e.awaitKey k).clampCursor = e.awaitKey k := clampCursor_of_eq he rfl rfl rfl
  have hsecond : (e.awaitKey k).press settings (.char second) = .done e' := by
    rw [press_continueWith rfl hg, ← hdone]
    exact congrArg (continueWith · k second) (continued_of_none hk)
  have hrec₁ : (e.awaitKey k).recording = none := hrec
  rw [after_cons_of_press hrec hfirst hclamped, after_singleton_of_press hrec₁ hsecond]

theorem unmoved_of_commandKey (hop : e.operator = none) {c : Char} (hdigit : c.isDigit = false)
    (hmotion : e.motionKey? c = none) (hoperator : Operator.ofKey? c = none) (hmark : c ≠ 'm')
    (h : Unmoved e (e.commandKey c)) : Unmoved e (e.after settings [.char c]) := by
  rw [after_commandKey hm hk hrec hop hdigit hmotion hoperator hmark]
  exact h.clampCursor he

theorem unmoved_of_continueWith (hop : e.operator = none) {c second : Char} {k : Continuation}
    (hdigit : c.isDigit = false) (hmotion : e.motionKey? c = none)
    (hoperator : Operator.ofKey? c = none) (hmark : c ≠ 'm') (hawait : e.commandKey c = e.awaitKey k)
    (hg : k ≠ .gotoPrefix) {e' : Editor} (hdone : e.continueWith k second = .done e')
    (h : Unmoved e e') : Unmoved e (e.after settings [.char c, .char second]) := by
  rw [after_continueWith he hm hk hrec hop hdigit hmotion hoperator hmark hawait hg hdone]
  exact h.clampCursor he

end Keys

/-- **A failed command leaves everything in place.** Wherever a run has led to, in normal mode, with
no second key waited for and no macro being recorded, whatever operator and counts are pending: a
command that cannot be carried out changes neither the text, the cursor, the marks, the history nor
the registers, but for the search register. A search that is misled is no failure to the editor: it
reports a match. -/
theorem unmoved_of_fails {b : Buffer} (he : Reachable b e) (hm : e.mode = .normal)
    (hk : e.continuation = none) (hrec : e.recording = none) (settings : Settings) {a : Attempt}
    (hf : a.Fails settings e) :
    (¬ a.Misled settings e → Unmoved e (e.after settings a.keys)) ∧
      (a.Misled settings e → (e.after settings a.keys).matchFound = true) := by
  have hclamped := he.clampCursor_eq
  have hcount : e.count ≠ 0 := count_ne_zero he.traceable.orderly
  cases a with
  | motion m =>
    have hz : m = .rowStart → e.repeatCount = none := by
      rintro rfl
      exact hf.elim
    have hkeys : e.after settings m.keys = (m.run settings e).clampCursor :=
      after_keys m hclamped (.inl hm) hk hrec hz settings
    show (¬ m.Misled settings e → Unmoved e (e.after settings m.keys)) ∧
      (m.Misled settings e → (e.after settings m.keys).matchFound = true)
    rw [hkeys]
    constructor
    · intro hmisled
      exact (unmoved_run hm hk hz ((target?_of_fails hcount hf).2 hmisled)).clampCursor hclamped
    · intro hmisled
      exact matchFound_run_of_misled hcount hf hmisled
  | replace c =>
    refine ⟨fun _ => ?_, False.elim⟩
    exact unmoved_of_continueWith hclamped hm hk hrec hf.1 (by decide) rfl rfl (by decide) rfl
      (by simp) rfl (unmoved_replaceChars hf.2)
  | deleteUnder =>
    refine ⟨fun _ => ?_, False.elim⟩
    exact unmoved_of_commandKey hclamped hm hk hrec hf.1 (by decide) rfl rfl (by decide)
      (unmoved_deleteUnder hf.2)
  | deleteBefore =>
    refine ⟨fun _ => ?_, False.elim⟩
    exact unmoved_of_commandKey hclamped hm hk hrec hf.1 (by decide) rfl rfl (by decide)
      (unmoved_deleteBefore hf.2)
  | put after =>
    refine ⟨fun _ => ?_, False.elim⟩
    cases after with
    | true =>
      exact unmoved_of_commandKey hclamped hm hk hrec hf.1 (by decide) rfl rfl (by decide)
        (unmoved_put hf.2)
    | false =>
      exact unmoved_of_commandKey hclamped hm hk hrec hf.1 (by decide) rfl rfl (by decide)
        (unmoved_put hf.2)
  | undo =>
    refine ⟨fun _ => ?_, False.elim⟩
    exact unmoved_of_commandKey hclamped hm hk hrec hf.1 (by decide) rfl rfl (by decide)
      (unmoved_undo hf.2.1 hf.2.2)
  | redo =>
    refine ⟨fun _ => ?_, False.elim⟩
    have hpress : e.press settings .ctrlR = .done e.redo := by
      simp [press, Key.isEscape, hk, modeKey_ctrlR hm]
    exact unmoved_of_press hclamped hrec hpress (unmoved_redo hf.2)
  | play name =>
    refine ⟨fun _ => ?_, False.elim⟩
    obtain ⟨e', hdone, hunmoved⟩ := startPlayback_empty hf.2
    exact unmoved_of_continueWith hclamped hm hk hrec hf.1 (by decide) rfl rfl (by decide) rfl
      (by simp) hdone hunmoved

/-- A deletion of two occurrences, where the row has only one more. -/
theorem unmoved_of_fails_counted :
    ∃ e : Editor, Reachable ⟨['a', 'b', '\n', 'b']⟩ e ∧ e.operator = some .delete ∧ e.count = 2 ∧
      let m : Motion := .jump ⟨'b', .find, .forward⟩
      m.Fails {} e ∧ Unmoved e (e.after {} m.keys) := by
  have he : Reachable ⟨['a', 'b', '\n', 'b']⟩ _ := .first {} [.char '2', .char 'd']
  let a : Attempt := .motion (.jump ⟨'b', .find, .forward⟩)
  have hf : (Motion.jump ⟨'b', .find, .forward⟩).Fails {}
      (ofResult (interpret {} ⟨['a', 'b', '\n', 'b']⟩ none [.char '2', .char 'd'])) := by
    decide +kernel
  refine ⟨_, he, by decide +kernel, by decide +kernel, hf, ?_⟩
  exact (unmoved_of_fails he (by decide +kernel) (by decide +kernel) (by decide +kernel) {}
    (a := a) hf).1 id

/-- The text before the cursor, taken alone, ends where the query says that a match ends, and the
whole text does not: what a deletion should leave alone is deleted. -/
theorem failed_search_deletes :
    ∃ e : Editor, Reachable ⟨['a', 'b']⟩ e ∧ e.mode = .normal ∧ e.continuation = none ∧
      e.recording = none ∧
      let m : Motion := .search .backward (.ofText ['a', '$'])
      m.Fails {} e ∧ (e.after {} m.keys).buffer ≠ e.buffer := by
  have he : Reachable ⟨['a', 'b']⟩ _ := .first {} [.char 'l', .char 'd']
  exact ⟨_, he, by decide +kernel⟩

end Editor

end ModalEditor
