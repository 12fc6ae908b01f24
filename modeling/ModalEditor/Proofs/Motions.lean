import ModalEditor.Proofs.Control

/-!
# What motions and operators do

A motion that has its target hands the range to the pending operator. What an operator does to the
text, the history and the half-typed command is one of three cases (`Operated`), whether it is
applied to characters, to rows or to a rectangle. A motion settles the command (`Settles`): it
reaches its target, or gives up if there is none, in an editor that has only been reminded of the
jump or the search. Where jumps and searches lead is said apart from what they do.
-/

namespace ModalEditor

/-- The registers with a query that is committed: an empty one is not kept. -/
def RegisterFile.note (r : RegisterFile) (query : Text) : RegisterFile :=
  if query.isEmpty then r else r.write searchRegister query

/-- Only the search register keeps queries. -/
theorem RegisterFile.get?_note {name : Char} (hname : name ≠ searchRegister) (r : RegisterFile)
    (query : Text) : (r.note query).slots.get? name = r.slots.get? name := by
  unfold note
  split
  · rfl
  · have hne : searchRegister.toLower ≠ name := Ne.symm hname
    simp [write, hne]

namespace Editor

/-- What the keys typed so far have left open. -/
def control (e : Editor) : Control where
  toPending := e.toPending
  mode := e.mode
  continuation := e.continuation
  insertAppend := e.insertAppend
  anchored := e.visualAnchor.isSome
  searchQuery := e.searchQuery
  commandQuery := e.commandQuery

theorem count_ne_zero {e : Editor} (ho : e.control.Orderly) : e.count ≠ 0 := by
  have hrepeat : e.repeatCount ≠ some 0 := ho.repeatCount_ne_zero
  have hoperator : e.operatorCount ≠ some 0 := ho.operatorCount_ne_zero
  unfold Pending.count
  cases hm : e.operatorCount with
  | none =>
    cases hn : e.repeatCount with
    | none => exact Nat.one_ne_zero
    | some n =>
      rintro rfl
      exact hrepeat hn
  | some m =>
    cases hn : e.repeatCount with
    | none =>
      rintro rfl
      exact hoperator hm
    | some n =>
      have hprod : m * n ≠ 0 := by
        refine Nat.mul_ne_zero ?_ ?_
        · rintro rfl
          exact hoperator hm
        · rintro rfl
          exact hrepeat hn
      have hmax : maxCount ≠ 0 := by decide
      dsimp only [mulCounts]
      omega

/-- Without an operator no more is pending than the count typed last. -/
theorem toPending_of_no_operator {e : Editor} (ho : e.control.Orderly) (hop : e.operator = none) :
    e.toPending = { repeatCount := e.repeatCount } := by
  have hcount : e.operatorCount = none := ho.operatorCount_eq_none hop
  have hmodifier : e.modifier = none := ho.modifier_eq_none hop
  show (⟨e.operator, e.operatorCount, e.modifier, e.repeatCount⟩ : Pending) = _
  rw [hop, hcount, hmodifier]

theorem continued_of_none {e : Editor} (hk : e.continuation = none) :
    ({ e with continuation := none } : Editor) = e :=
  congrArg (fun k => ({ e with continuation := k } : Editor)) hk.symm

/-! ### Operators -/

/-- **What an operator does**: without one the cursor moves; a yank takes a checkpoint of the state
after it; a delete and a change take one of the state before. -/
inductive Operated (e e' : Editor) : Option Operator → Prop where
  /-- There is no operator. -/
  | moved (control : e'.control = e.control.operated none) (buffer : e'.buffer = e.buffer)
    (history : e'.history = e.history) : Operated e e' none
  /-- The range is copied. -/
  | copied (snapshot : Snapshot) (control : e'.control = e.control.operated (some .yank))
    (buffer : e'.buffer = e.buffer)
    (history : e'.history = e.history.checkpoint ⟨e.buffer, snapshot⟩) :
    Operated e e' (some .yank)
  /-- The range is taken away. -/
  | cut {op : Operator} (hop : op ≠ .yank) (control : e'.control = e.control.operated (some op))
    (history : e'.history = e.history.checkpoint ⟨e.buffer, e.snapshot⟩) :
    Operated e e' (some op)

theorem operated_applyRange (e : Editor) (source target : Nat) :
    Operated e (e.applyRange source target) e.operator := by
  unfold applyRange
  cases hop : e.operator with
  | none => exact .moved rfl rfl rfl
  | some op =>
    cases op with
    | delete => exact .cut (by simp) rfl rfl
    | change => exact .cut (by simp) rfl rfl
    | yank =>
      dsimp only
      split
      · exact .copied _ rfl rfl rfl
      · exact .copied _ rfl rfl rfl

theorem operated_applyRows (e : Editor) (first last : Nat) :
    Operated e (e.applyRows first last) e.operator := by
  unfold applyRows
  cases hop : e.operator with
  | none => exact .moved rfl rfl rfl
  | some op =>
    cases op with
    | delete => exact .cut (by simp) rfl rfl
    | change => exact .cut (by simp) rfl rfl
    | yank => exact .copied _ rfl rfl rfl

theorem operated_applyBlock (e : Editor) (top bottom left right : Nat) :
    Operated e (e.applyBlock top bottom left right) e.operator := by
  unfold applyBlock
  cases hop : e.operator with
  | none => exact .moved rfl rfl rfl
  | some op =>
    cases op with
    | delete => exact .cut (by simp) rfl rfl
    | change => exact .cut (by simp) rfl rfl
    | yank => exact .copied _ rfl rfl rfl

/-- A target is reached by the pending operator, or by the cursor. -/
theorem operated_reach {e : Editor} (h : e.control.Orderly) (target : Target) :
    Operated e.dropCounts (e.reach target) e.operator := by
  cases target with
  | char offset inclusive => exact operated_applyRange e.dropCounts _ _
  | line row offset =>
    unfold reach
    dsimp only
    split
    · exact operated_applyRows e.dropCounts _ _
    · rename_i hop
      have hnone : e.operator = none := by simpa [dropCounts] using hop
      have hmod : e.modifier = none := h.modifier_eq_none hnone
      rw [hnone]
      refine .moved ?_ rfl rfl
      simp [control, Control.operated, moveTo, dropCounts, hnone, hmod]

/-! ### What a motion settles -/

/-- Two editors that agree in the text, the history, the cursor, what is half typed and the macro
being recorded. They may differ in what jumps and searches remember, and in registers. -/
structure Akin (e e₁ : Editor) : Prop where
  /-- The same text. -/
  buffer : e₁.buffer = e.buffer
  /-- The same checkpoints. -/
  history : e₁.history = e.history
  /-- The same cursor. -/
  cursor : e₁.cursor = e.cursor
  /-- The same half-typed command. -/
  control : e₁.control = e.control
  /-- The same macro is being recorded. -/
  recording : e₁.recording = e.recording

theorem Akin.refl (e : Editor) : Akin e e := ⟨rfl, rfl, rfl, rfl, rfl⟩

theorem Akin.trans {e e₁ e₂ : Editor} (h : Akin e e₁) (h₁ : Akin e₁ e₂) : Akin e e₂ :=
  ⟨h₁.buffer.trans h.buffer, h₁.history.trans h.history, h₁.cursor.trans h.cursor,
    h₁.control.trans h.control, h₁.recording.trans h.recording⟩

/-- Two editors that differ in no more than what jumps and searches remember. -/
structure Reminded (e e₁ : Editor) : Prop extends Akin e e₁ where
  /-- The same anchor. -/
  visualAnchor : e₁.visualAnchor = e.visualAnchor
  /-- The same register is chosen. -/
  selected : e₁.selected = e.selected
  /-- The same marks. -/
  marks : e₁.marks = e.marks
  /-- The same command line was committed last. -/
  lastCommand : e₁.lastCommand = e.lastCommand
  /-- The same registers. -/
  registers : e₁.registers = e.registers

theorem Reminded.refl (e : Editor) : Reminded e e := ⟨.refl e, rfl, rfl, rfl, rfl, rfl⟩

theorem Reminded.trans {e e₁ e₂ : Editor} (h : Reminded e e₁) (h₁ : Reminded e₁ e₂) :
    Reminded e e₂ :=
  ⟨h.toAkin.trans h₁.toAkin, h₁.visualAnchor.trans h.visualAnchor,
    h₁.selected.trans h.selected, h₁.marks.trans h.marks, h₁.lastCommand.trans h.lastCommand,
    h₁.registers.trans h.registers⟩

/-- What jumps and searches remember may be anything. -/
theorem reminded_remember (e : Editor) (lastJump : Option Jump) (pattern : Option SearchPattern)
    (found wrapped : Bool) (span : Option Span) (error : Option PatternError) :
    Reminded e { e with
      lastJump := lastJump
      searchPattern := pattern
      matchFound := found
      matchWrapped := wrapped
      matchSpan := span
      searchError := error } := ⟨⟨rfl, rfl, rfl, rfl, rfl⟩, rfl, rfl, rfl, rfl, rfl⟩

/-- **A motion is settled**: its target is reached, or what was pending is given up if there is
none, in an editor that has been reminded. -/
inductive Settles (e : Editor) (target? : Option Target) : Editor → Prop where
  /-- That is all. -/
  | intro {e₁ : Editor} (h : Reminded e e₁) : Settles e target? (e₁.reachOr target?)

theorem Settles.of_reminded {e e₁ e' : Editor} {target? : Option Target} (hr : Reminded e e₁)
    (h : Settles e₁ target? e') : Settles e target? e' := by
  obtain ⟨h⟩ := h
  exact .intro (hr.trans h)

theorem settles_reachOr (e : Editor) (target? : Option Target) :
    Settles e target? (e.reachOr target?) := .intro (.refl e)

/-! ### Jumps -/

/-- Where a jump leads. -/
def jumpTarget? (e : Editor) (j : Jump) (again : Bool) : Option Target :=
  (j.column? (e.buffer.rowText e.cursor.row) e.cursor.col e.count again).map fun col =>
    .char (e.buffer.rowStart e.cursor.row + col) (j.direction = .forward)

theorem jump_eq (e : Editor) (j : Jump) (again : Bool) :
    e.jump j again = e.reachOr (e.jumpTarget? j again) := by
  unfold jump jumpTarget?
  dsimp only
  cases j.column? (e.buffer.rowText e.cursor.row) e.cursor.col e.count again <;> rfl

theorem settles_startJump (e : Editor) (j : Jump) :
    Settles e (e.jumpTarget? j false) (e.startJump j) := by
  unfold startJump
  rw [jump_eq]
  exact .intro (reminded_remember e (some j) _ _ _ _ _)

theorem settles_repeatJump (e : Editor) (reverse : Bool) :
    Settles e (e.lastJump.bind fun j => e.jumpTarget? (if reverse then j.reverse else j) true)
      (e.repeatJump reverse) := by
  unfold repeatJump
  cases e.lastJump with
  | none => exact settles_reachOr e none
  | some j =>
    dsimp only [Option.bind_some]
    rw [jump_eq]
    exact settles_reachOr e _

/-! ### Searches -/

/-- The match that a search leads to. -/
def searchHit? (e : Editor) (p : SearchPattern) (d : Direction) (first : Bool) :
    Option SearchHit :=
  e.buffer.findNth p d (min e.count (e.buffer.length + 1))
    (if d = .forward ∧ first = false then e.cursorOffset + 1 else e.cursorOffset)

/-- Where a search leads, if there is a pattern. -/
def searchTarget? (e : Editor) (p? : Option SearchPattern) (d : Direction) (first : Bool) :
    Option Target :=
  p?.bind fun p => (e.searchHit? p d first).map fun hit => .char hit.span.start false

/-- The pattern that a query stands for, if it is one. An empty one stands for what is searched for
already, or else for the query that the search register holds. -/
def patternFor (e : Editor) (settings : Settings) (query : Text) : Option SearchPattern :=
  let compiled? (t : Text) := (SearchPattern.compile t settings.ignoreCase).toOption
  let source := e.registers.read searchRegister
  if !query.isEmpty then compiled? query
  else e.searchPattern.or (if source.isEmpty then none else compiled? source)

theorem patternFor_of_ne_nil (e : Editor) (settings : Settings) {query : Text}
    (hquery : query.isEmpty = false) :
    e.patternFor settings query =
      (SearchPattern.compile query settings.ignoreCase).toOption := by
  simp [patternFor, hquery]

/-- Where a search leads depends on the text, the cursor and the count. -/
theorem searchTarget?_congr {e e₁ : Editor} (h : Akin e e₁) (p? : Option SearchPattern)
    (d : Direction) (first : Bool) : e₁.searchTarget? p? d first = e.searchTarget? p? d first := by
  have hpending : e₁.toPending = e.toPending := congrArg Control.toPending h.control
  unfold searchTarget? searchHit? cursorOffset
  rw [h.buffer, h.cursor, hpending]

theorem runSearch_of_none {e : Editor} (h : e.searchPattern = none) (d : Direction)
    (first : Bool) : e.runSearch d first = e.clearPending := by
  unfold runSearch
  rw [h]

/-- **A search for a pattern** moves to the match, if there is one. -/
theorem runSearch_of_some {e : Editor} {p : SearchPattern} (h : e.searchPattern = some p)
    (d : Direction) (first : Bool) :
    e.runSearch d first =
      match e.searchHit? p d first with
      | some hit =>
        { e with
          matchFound := true
          matchWrapped := hit.wrapped
          matchSpan := some hit.span }.reach (.char hit.span.start false)
      | none =>
        { e with matchFound := false, matchWrapped := false, matchSpan := none }.clearPending := by
  unfold runSearch searchHit?
  split
  · rename_i hnone
    simp [h] at hnone
  · rename_i p' hp
    obtain rfl : p = p' := Option.some.inj (h.symm.trans hp)
    dsimp only
    cases e.buffer.findNth p d _ _ <;> rfl

theorem settles_runSearch (e : Editor) (d : Direction) (first : Bool) :
    Settles e (e.searchTarget? e.searchPattern d first) (e.runSearch d first) := by
  cases hp : e.searchPattern with
  | none =>
    rw [runSearch_of_none hp]
    exact settles_reachOr e none
  | some p =>
    rw [runSearch_of_some hp, searchTarget?, Option.bind_some]
    cases e.searchHit? p d first with
    | some hit => exact .intro (reminded_remember e _ _ true hit.wrapped (some hit.span) _)
    | none => exact .intro (reminded_remember e _ _ false false none _)

theorem settles_repeatSearch (e : Editor) (reverse : Bool) :
    Settles e
      (e.searchTarget? e.searchPattern
        (if reverse then (e.searchDirection.getD .forward).opposite
          else e.searchDirection.getD .forward) false)
      (e.repeatSearch reverse) := settles_runSearch e _ false

theorem settles_searchFor (e : Editor) (settings : Settings) (query : Text) :
    Settles { e with registers := e.registers.write searchRegister query }
      (e.searchTarget? (SearchPattern.compile query settings.ignoreCase).toOption
        (e.searchDirection.getD .forward) true)
      (e.searchFor settings query) := by
  let e₁ : Editor := { e with registers := e.registers.write searchRegister query }
  unfold searchFor
  cases SearchPattern.compile query settings.ignoreCase with
  | ok p =>
    have hremember := reminded_remember e₁ e.lastJump (some p) e.matchFound e.matchWrapped
      e.matchSpan none
    exact Settles.of_reminded hremember (settles_runSearch _ _ true)
  | error err =>
    have hremember := reminded_remember e₁ e.lastJump none false false none (some err)
    show Settles e₁ none _
    exact .intro hremember

theorem reminded_recallPattern (e : Editor) (settings : Settings) :
    Reminded e (e.recallPattern settings) := by
  unfold recallPattern
  dsimp only
  split
  · exact .refl e
  · split
    · exact reminded_remember e _ _ _ _ _ _
    · exact .refl e

theorem searchPattern_recallPattern (e : Editor) (settings : Settings) :
    (e.recallPattern settings).searchPattern = e.patternFor settings [] := by
  unfold recallPattern patternFor
  cases hp : e.searchPattern with
  | some p => simp [hp]
  | none =>
    by_cases hs : e.registers.read searchRegister = []
    · simp [hs, hp]
    · cases hc : SearchPattern.compile (e.registers.read searchRegister) settings.ignoreCase <;>
        simp [hs, hc, hp, Except.toOption]

theorem searchDirection_recallPattern (e : Editor) (settings : Settings) :
    (e.recallPattern settings).searchDirection = e.searchDirection := by
  unfold recallPattern
  dsimp only
  split
  · rfl
  · split <;> rfl

/-- A committed query goes to the search register, unless it is empty, and settles the command from
normal mode. -/
theorem settles_commitSearch (e : Editor) (settings : Settings) :
    Settles
      { e with
        mode := .normal
        searchQuery := {}
        registers := e.registers.note e.searchQuery.text }
      (e.searchTarget? (e.patternFor settings e.searchQuery.text)
        (e.searchDirection.getD .forward) !e.searchQuery.text.isEmpty)
      (e.commitSearch settings) := by
  let e₁ : Editor := { e with mode := .normal, searchQuery := {} }
  unfold commitSearch
  dsimp only
  cases hquery : e.searchQuery.text.isEmpty with
  | true =>
    have hrecall : Reminded e₁ (e₁.recallPattern settings) := reminded_recallPattern e₁ settings
    have hrun := settles_repeatSearch (e₁.recallPattern settings) false
    have hnil : e.searchQuery.text = [] := by simpa using hquery
    rw [searchPattern_recallPattern, searchTarget?_congr hrecall.toAkin,
      searchDirection_recallPattern] at hrun
    rw [hnil]
    exact hrun.of_reminded hrecall
  | false =>
    have hnote : e.registers.note e.searchQuery.text =
        e.registers.write searchRegister e.searchQuery.text := if_neg (by simp [hquery])
    rw [patternFor_of_ne_nil e settings hquery, hnote]
    exact settles_searchFor e₁ settings e.searchQuery.text

/-! ### Settled commands -/

/-- A command is settled: a target is reached, or what was pending is given up. -/
inductive Settled (e : Editor) : Editor → Prop where
  /-- A target is reached. -/
  | reach {e₁ : Editor} (akin : Akin e e₁) (target : Target) : Settled e (e₁.reach target)
  /-- There is no target. -/
  | giveUp {e₁ : Editor} (akin : Akin e e₁) : Settled e e₁.clearPending

theorem Settles.settled {e e' : Editor} {target? : Option Target} (h : Settles e target? e') :
    Settled e e' := by
  obtain ⟨hr⟩ := h
  cases target? with
  | none => exact .giveUp hr.toAkin
  | some target => exact .reach hr.toAkin target

/-- A jump to a mark that is not set does nothing. -/
theorem settled_jumpToMark (e : Editor) (name : Char) :
    Settled e (e.jumpToMark name) ∨ e.jumpToMark name = e := by
  unfold jumpToMark
  split
  · exact .inl (.reach (.refl e) _)
  · exact .inr rfl

end Editor

end ModalEditor
