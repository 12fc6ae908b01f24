import ModalEditor.Proofs.CountPlacement
import ModalEditor.Proofs.SearchStatus

/-!
# Cancelled searches

A query that is given up before it is committed should leave no trace. It leaves one: the key that
starts to type it sets the direction of searches, and the escape does not set it back.
`cancelled_search` shows that this is all. The state is the same but for the direction, so nothing
is left just when the direction was the same before; and where it was not, `n` and `N` have changed
places.
-/

namespace ModalEditor

namespace Editor

/-! ### What is left -/

/-- **No trace is left**: the text, the cursor, the registers and all that searches remember are the
same. -/
structure NoTrace (e e' : Editor) : Prop where
  /-- The text. -/
  buffer : e'.buffer = e.buffer
  /-- The cursor. -/
  cursor : e'.cursor = e.cursor
  /-- The registers. -/
  registers : e'.registers = e.registers
  /-- Which way the last search went. -/
  direction : e'.searchDirection = e.searchDirection
  /-- The pattern, the error and the last match. -/
  status : e'.searchStatus = e.searchStatus

variable {e : Editor}

/-- The editor with some direction of searches, no register chosen and no anchor. -/
def aimed (e : Editor) (d? : Option Direction) : Editor :=
  { e with searchDirection := d?, selected := none, visualAnchor := none }

/-- **An escape from a query** that was begun with nothing half typed. -/
theorem escape_startSearch (ho : e.control.Orderly) (hm : e.mode = .normal)
    (hw : e.waiting = false) (hn : e.repeatCount = none) (d : Direction) (l : LineInput) :
    ({ e.startSearch d with searchQuery := l } : Editor).escape = e.aimed (some d) := by
  have hpending : e.toPending = {} := by
    rw [toPending_of_no_operator ho (operator_of_not_waiting hw), hn]
  have hk := continuation_of_not_waiting hw
  have happend : e.insertAppend = false := by simpa [control, hm] using ho.insertAppend
  have hquery : e.searchQuery = {} := ho.searchQuery (by simp [control, hm])
  have hcommand : e.commandQuery = {} := ho.commandQuery (by simp [control, hm])
  have hescape : ({ e.startSearch d with searchQuery := l } : Editor).escape =
      { e with
        searchDirection := some d
        toPending := {}
        mode := .normal
        continuation := none
        selected := none
        insertAppend := false
        visualAnchor := none
        searchQuery := {}
        commandQuery := {} } := rfl
  rw [hescape]
  obtain ⟨⟨snapshot, pending, mode, k⟩, buffer⟩ := e
  simp_all [aimed]

/-! ### What searches do then -/

theorem aimed_reach (hop : e.operator = none) (d? : Option Direction) (target : Target) :
    ((e.aimed d?).reach target).aimed none = (e.reach target).aimed none := by
  have hdropped : e.dropCounts.operator = none := hop
  have hdropped' : (e.aimed d?).dropCounts.operator = none := hop
  cases target with
  | char offset inclusive =>
    simp only [reach, applyRange, hdropped, hdropped']
    rfl
  | line row offset =>
    simp only [reach, hdropped, hdropped']
    rfl

/-- A search that way goes the same way. -/
theorem aimed_runSearch (hop : e.operator = none) (d? : Option Direction) (d : Direction)
    (first : Bool) :
    ((e.aimed d?).runSearch d first).aimed none = (e.runSearch d first).aimed none := by
  cases hp : e.searchPattern with
  | none =>
    have hp' : (e.aimed d?).searchPattern = none := hp
    rw [runSearch_of_none hp, runSearch_of_none hp']
    rfl
  | some p =>
    have hp' : (e.aimed d?).searchPattern = some p := hp
    have hhit : (e.aimed d?).searchHit? p d first = e.searchHit? p d first := rfl
    rw [runSearch_of_some hp, runSearch_of_some hp', hhit]
    cases e.searchHit? p d first with
    | none => rfl
    | some hit =>
      exact aimed_reach (e := { e with
        matchFound := true
        matchWrapped := hit.wrapped
        matchSpan := some hit.span }) hop d? (.char hit.span.start false)

theorem after_searchAgain (he : e.clampCursor = e) (hm : e.mode = .normal)
    (hk : e.continuation = none) (hrec : e.recording = none) (hn : e.repeatCount = none)
    (settings : Settings) {digits : Text} (hd : digits.all Char.isDigit = true)
    (hz : digits.head? ≠ some '0') (reverse : Bool) :
    let e₁ : Editor := { e with repeatCount := typedCount? digits }
    e.after settings (digits.map Key.char ++ (Motion.searchAgain reverse).keys) =
      (e₁.repeatSearch reverse).clampCursor := by
  intro e₁
  have he₁ : e₁.clampCursor = e₁ := clampCursor_of_eq he rfl rfl rfl
  have hsame : ({ e₁ with continuation := none } : Editor) = e₁ := continued_of_none hk
  have hrun : (Motion.searchAgain reverse).run settings e₁ = e₁.repeatSearch reverse := by
    show ({ e₁ with continuation := none } : Editor).repeatSearch reverse = _
    rw [hsame]
  rw [after_count settings he (.inl hm) hk hrec hn hd hz, ← hrun]
  exact after_keys _ he₁ (.inl hm) hk hrec (by simp) settings

/-- Seen from the other direction, `n` and `N` have changed places. -/
theorem turned_direction (d d' : Direction) (reverse : Bool) :
    (if reverse = true then d.opposite else d) =
      if (reverse ^^ decide (d' ≠ d)) = true then d'.opposite else d' := by
  cases d <;> cases d' <;> cases reverse <;> rfl

/-! ### The trace -/

/-- **A cancelled search leaves its direction.** Wherever a run has led to, in normal mode, with
nothing half typed and no macro being recorded: a query that is typed and given up changes nothing
that lasts but the direction of searches (and a register that was chosen, and an anchor, are
forgotten). So no trace is left just when the direction was the same before. A search repeated
afterwards goes where it would have gone, if that way was the way of searches before, and where the
opposite key would have led, if it was not. -/
theorem cancelled_search {b : Buffer} (he : Reachable b e) (hm : e.mode = .normal)
    (hw : e.waiting = false) (hn : e.repeatCount = none) (hrec : e.recording = none)
    (settings : Settings) (d : Direction) (q : Query) {close : Key}
    (hclose : close.isEscape = true) :
    let e' := e.after settings (.char d.searchKey :: q.keys ++ [close])
    e' = e.aimed (some d) ∧ (NoTrace e e' ↔ e.searchDirection = some d) ∧
      ∀ digits : Text, digits.all Char.isDigit = true → digits.head? ≠ some '0' →
        ∀ reverse : Bool,
          let turned := decide (e.searchDirection.getD .forward ≠ d)
          let count := digits.map Key.char
          (e'.after settings (count ++ (Motion.searchAgain reverse).keys)).aimed none =
            (e.after settings
              (count ++ (Motion.searchAgain (reverse ^^ turned)).keys)).aimed none := by
  intro e'
  have hclamped := he.clampCursor_eq
  have ho := he.traceable.orderly
  have hk := continuation_of_not_waiting hw
  have hop := operator_of_not_waiting hw
  have hclamped' : (e.aimed (some d)).clampCursor = e.aimed (some d) :=
    clampCursor_of_eq hclamped rfl rfl rfl
  have heq : e' = e.aimed (some d) := by
    have hbegun : e.after settings (.char d.searchKey :: q.keys) = (Motion.search d q).begin e :=
      after_opening (.search d q) hclamped (.inl hm) hk hrec settings
    have hrec₁ : ((Motion.search d q).begin e).recording = none := hrec
    have hescape : ((Motion.search d q).begin e).escape = e.aimed (some d) :=
      escape_startSearch ho hm hw hn d q.line
    have hpress : ((e.after settings (.char d.searchKey :: q.keys)).capture close).press settings
        close = .done (e.aimed (some d)) := by
      rw [hbegun, capture_of_none hrec₁, ← hescape]
      simp [press, hclose]
    exact (after_concat_of_done hpress).trans hclamped'
  refine ⟨heq, ?_, ?_⟩
  · constructor
    · intro h
      have hdirection := h.direction
      rw [heq] at hdirection
      exact hdirection.symm
    · intro hd
      rw [heq]
      exact ⟨rfl, rfl, rfl, hd.symm, rfl⟩
  · intro digits hd hz reverse turned count
    rw [heq, after_searchAgain hclamped' hm hk hrec hn settings hd hz,
      after_searchAgain hclamped hm hk hrec hn settings hd hz]
    let e₁ : Editor := { e with repeatCount := typedCount? digits }
    have hrepeat : ((e₁.aimed (some d)).repeatSearch reverse).aimed none =
        (e₁.repeatSearch (reverse ^^ turned)).aimed none := by
      show ((e₁.aimed (some d)).runSearch (if reverse then d.opposite else d) false).aimed none = _
      rw [turned_direction d (e.searchDirection.getD .forward)]
      exact aimed_runSearch (e := e₁) hop (some d) _ false
    exact congrArg clampCursor hrepeat

/-- After a search forward, a query backward is given up, and another one forward. -/
theorem cancelled_search_corrected :
    ∃ e : Editor, Reachable ⟨['a', 'b', 'a', 'b', 'a']⟩ e ∧ e.mode = .normal ∧
      e.waiting = false ∧ e.repeatCount = none ∧ e.recording = none ∧
      e.searchDirection = some .forward ∧
        let q : Query := ⟨[.char 'b', .backspace, .ctrlV], by decide⟩
        (∃ e', e.after {} (.char '?' :: q.keys ++ [.escape]) = e' ∧ ¬ NoTrace e e' ∧
          (e'.after {} [.char '2', .char 'n']).aimed none =
            (e.after {} [.char '2', .char 'N']).aimed none) ∧
        NoTrace e (e.after {} (.char '/' :: q.keys ++ [.ctrlC])) := by
  have he : Reachable ⟨['a', 'b', 'a', 'b', 'a']⟩ _ := .first {} [.char '/', .char 'a', .enter]
  obtain ⟨hm, hw, hn, hrec, hdirection⟩ :
      let e := ofResult
        (interpret {} ⟨['a', 'b', 'a', 'b', 'a']⟩ none [.char '/', .char 'a', .enter])
      e.mode = .normal ∧ e.waiting = false ∧ e.repeatCount = none ∧ e.recording = none ∧
        e.searchDirection = some .forward := by
    decide +kernel
  let q : Query := ⟨[.char 'b', .backspace, .ctrlV], by decide⟩
  obtain ⟨-, hback, hturned⟩ :=
    cancelled_search he hm hw hn hrec {} .backward q (rfl : Key.escape.isEscape = true)
  obtain ⟨-, hforth, -⟩ :=
    cancelled_search he hm hw hn hrec {} .forward q (rfl : Key.ctrlC.isEscape = true)
  refine ⟨_, he, hm, hw, hn, hrec, hdirection, ⟨_, rfl, ?_, ?_⟩, hforth.2 hdirection⟩
  · intro h
    have hsame := hback.1 h
    simp [hdirection] at hsame
  · have hn2 := hturned ['2'] (by decide) (by decide) false
    simp only [hdirection] at hn2
    exact hn2

/-- A query backward that is given up turns the search forward round: `n` goes back to the start. -/
theorem cancelled_search_turns :
    ∃ e : Editor, Reachable ⟨['a', 'b', 'a', 'b', 'a']⟩ e ∧ e.mode = .normal ∧
      e.waiting = false ∧ e.repeatCount = none ∧ e.recording = none ∧
      let e' := e.after {} [.char '?', .escape]
      e.searchDirection = some .forward ∧ e'.searchDirection = some .backward ∧
        (e.after {} [.char 'n']).cursor = ⟨0, 4⟩ ∧ (e'.after {} [.char 'n']).cursor = ⟨0, 0⟩ := by
  have he : Reachable ⟨['a', 'b', 'a', 'b', 'a']⟩ _ :=
    .first {} [.char 'l', .char '/', .char 'a', .enter]
  exact ⟨_, he, by decide +kernel⟩

end Editor

end ModalEditor
