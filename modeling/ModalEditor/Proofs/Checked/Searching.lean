import ModalEditor.Proofs.Checked.Motion

/-!
# Searches on the machine

The machine searches a text from an offset that must be in it. The last match is found by going from
match to match: each search starts one character after the match before (`lastMatch`). It is the
match with the last start (`lastMatch_ok`), so both directions answer what the editor's own searches
do.
-/

namespace ModalEditor

open Pattern (Regex)

namespace Checked

variable {e : Editor}

/-- The first match from an offset, which must be in the text. -/
def findAt (r : Regex) (t : Text) (offset : Nat) : Checked (Option Span) :=
  if offset ≤ t.length then .ok (r.find? t offset) else .error .offset

/-- The last match from an offset on, which must be in the text, or else one from before. A match at
the end of the text has nothing after it. -/
def lastMatch (r : Regex) (t : Text) (pos : Nat) (last : Option Span) : Checked (Option Span) :=
  if _hpos : pos ≤ t.length then
    match hfind : r.find? t pos with
    | none => .ok last
    | some m =>
      if m.start < t.length then lastMatch r t (m.start + 1) (some m) else .ok (some m)
  else .error .offset
termination_by t.length - pos
decreasing_by
  have hstart := Pattern.Regex.find?_start _hpos hfind
  omega

/-- The first match that starts at an offset or after it, or else the first of all. -/
def findNext (b : Buffer) (p : SearchPattern) (offset : Nat) : Checked (Option SearchHit) := do
  match ← findAt p.regex b.text (min offset b.length) with
  | some span => return some ⟨span, false⟩
  | none => Option.map (⟨·, true⟩) <$> findAt p.regex b.text 0

/-- The last match in the text before an offset, or else the last of all. -/
def findPrevious (b : Buffer) (p : SearchPattern) (offset : Nat) : Checked (Option SearchHit) := do
  match ← lastMatch p.regex (b.text.take offset) 0 none with
  | some span => return some ⟨span, false⟩
  | none => Option.map (⟨·, true⟩) <$> lastMatch p.regex b.text 0 none

/-- The match nearest to an offset in one direction. -/
def findTowards (b : Buffer) (p : SearchPattern) (d : Direction) (offset : Nat) :
    Checked (Option SearchHit) :=
  match d with
  | .forward => findNext b p offset
  | .backward => findPrevious b p offset

/-- The offset from which the search goes on after a match. -/
def offsetAfter (d : Direction) (hit : SearchHit) : Checked Nat :=
  match d with
  | .forward => add hit.span.start 1
  | .backward => .ok hit.span.start

/-- The last of `n` matches found one after the other. -/
def findNth (b : Buffer) (p : SearchPattern) (d : Direction) :
    Nat → Nat → Checked (Option SearchHit)
  | 0, _ => .ok none
  | n + 1, offset => do
    match ← findTowards b p d offset with
    | none => return none
    | some hit =>
      let next ← offsetAfter d hit
      (·.or (some hit)) <$> findNth b p d n next

/-- Notes a match and moves to it. -/
def recordHit (e : Editor) (hit : SearchHit) : Checked Editor :=
  reach { e with
    matchFound := true
    matchWrapped := hit.wrapped
    matchSpan := some hit.span } (.char hit.span.start false)

/-- Searches from the cursor. -/
def runSearch (e : Editor) (d : Direction) (first : Bool) : Checked Editor :=
  match e.searchPattern with
  | none => .ok e.clearPending
  | some p => do
    let limit ← add e.buffer.length 1
    let here ← offsetAt e.buffer e.cursor
    let offset ← (if d = .forward ∧ first = false then add here 1 else .ok here)
    match ← findNth e.buffer p d (min e.count limit) offset with
    | some hit => recordHit e.dropCounts hit
    | none => return e.dropCounts.recordMiss

/-- Repeats the last search, or searches the other way. -/
def repeatSearch (e : Editor) (reverse : Bool) : Checked Editor :=
  let d := e.searchDirection.getD .forward
  runSearch e (if reverse then d.opposite else d) false

/-- Searches for a new query. -/
def searchFor (e : Editor) (settings : Settings) (query : Text) : Checked Editor :=
  let e := { e with registers := e.registers.write searchRegister query }
  match SearchPattern.compile query settings.ignoreCase with
  | .ok p =>
    runSearch { e with searchPattern := some p, searchError := none }
      (e.searchDirection.getD .forward) true
  | .error err => .ok { e with searchError := some err, searchPattern := none }.recordMiss

/-- Commits the query being typed. -/
def commitSearch (e : Editor) (settings : Settings) : Checked Editor :=
  let query := e.searchQuery.text
  let e := { e with mode := .normal, searchQuery := {} }
  if query.isEmpty then repeatSearch (e.recallPattern settings) false
  else searchFor e settings query

theorem findAt_ok {r : Regex} {t : Text} {offset : Nat} (h : offset ≤ t.length) :
    findAt r t offset = .ok (r.find? t offset) := if_pos h

theorem lastMatch_ok {r : Regex} {t : Text} {pos : Nat} (h : pos ≤ t.length) (last : Option Span) :
    lastMatch r t pos last = .ok ((r.lastFrom t pos).or last) := by
  fun_induction lastMatch r t pos last with
  | case1 pos last hpos hfind =>
    rw [Regex.lastFrom_eq_of_find? hpos, hfind]
    rfl
  | case2 pos last hpos m hfind hlt ih =>
    rw [Regex.lastFrom_eq_of_find? hpos, hfind, ih hlt]
    dsimp only
    rw [if_pos hlt, Option.or_assoc, Option.some_or]
  | case3 pos last hpos m hfind hlt =>
    rw [Regex.lastFrom_eq_of_find? hpos, hfind]
    dsimp only
    rw [if_neg hlt, Option.some_or]
  | case4 pos last hpos => exact absurd h hpos

theorem lastMatch_zero_ok (r : Regex) (t : Text) : lastMatch r t 0 none = .ok (r.findLast? t) := by
  rw [lastMatch_ok (Nat.zero_le _), Option.or_none]
  rfl

theorem findTowards_ok (b : Buffer) (p : SearchPattern) (d : Direction) (offset : Nat) :
    findTowards b p d offset = .ok (b.findTowards p d offset) := by
  cases d with
  | forward =>
    have hstart : min offset b.length ≤ b.text.length := Nat.min_le_right _ _
    unfold findTowards findNext Buffer.findTowards Buffer.findNext
    dsimp only
    rw [findAt_ok hstart, findAt_ok (Nat.zero_le _), ok_bind]
    cases p.regex.find? b.text (min offset b.length) <;> rfl
  | backward =>
    unfold findTowards findPrevious Buffer.findTowards Buffer.findPrevious
    dsimp only
    rw [lastMatch_zero_ok, lastMatch_zero_ok, ok_bind]
    cases p.regex.findLast? (b.text.take offset) <;> rfl

theorem offsetAfter_ok {b : Buffer} (hb : b.Fits) {d : Direction} {hit : SearchHit}
    (hhit : hit.span.start ≤ b.length) :
    offsetAfter d hit = .ok (Buffer.offsetAfter d hit) := by
  have hlong := hb.add_two_le
  cases d with
  | forward => exact add_ok (by omega)
  | backward => rfl

theorem findNth_ok {b : Buffer} (hb : b.Fits) (p : SearchPattern) (d : Direction) (n offset : Nat) :
    findNth b p d n offset = .ok (b.findNth p d n offset) := by
  induction n generalizing offset with
  | zero => rfl
  | succ n ih =>
    unfold findNth Buffer.findNth
    rw [findTowards_ok, ok_bind]
    cases hfind : b.findTowards p d offset with
    | none => rfl
    | some hit =>
      dsimp only
      rw [offsetAfter_ok hb (Buffer.findTowards_start hfind), ok_bind, ih]
      rfl

theorem recordHit_ok (hb : e.buffer.Fits) {hit : SearchHit}
    (hhit : hit.span.start ≤ e.buffer.length) : recordHit e hit = .ok (e.recordHit hit) :=
  reach_ok (e := { e with
    matchFound := true
    matchWrapped := hit.wrapped
    matchSpan := some hit.span }) hb hhit

theorem runSearch_ok (hb : e.buffer.Fits) (d : Direction) (first : Bool) :
    runSearch e d first = .ok (e.runSearch d first) := by
  have hlong := hb.add_two_le
  have hhere := e.buffer.offsetAt_le_length e.cursor
  unfold runSearch Editor.runSearch
  cases e.searchPattern with
  | none => rfl
  | some p =>
    dsimp only
    have hoffset : (if d = .forward ∧ first = false then add (e.buffer.offsetAt e.cursor) 1
          else .ok (e.buffer.offsetAt e.cursor)) =
        .ok (if d = .forward ∧ first = false then e.cursorOffset + 1 else e.cursorOffset) := by
      split
      · exact add_ok (by omega)
      · rfl
    rw [add_ok (by omega), ok_bind, offsetAt_ok hb, ok_bind, hoffset, ok_bind, findNth_ok hb,
      ok_bind]
    cases hfind : e.buffer.findNth p d (min e.count (e.buffer.length + 1))
        (if d = .forward ∧ first = false then e.cursorOffset + 1 else e.cursorOffset) with
    | none => rfl
    | some hit => exact recordHit_ok (e := e.dropCounts) hb (Buffer.findNth_start hfind)

theorem repeatSearch_ok (hb : e.buffer.Fits) (reverse : Bool) :
    repeatSearch e reverse = .ok (e.repeatSearch reverse) := runSearch_ok hb _ false

theorem searchFor_ok (hb : e.buffer.Fits) (settings : Settings) (query : Text) :
    searchFor e settings query = .ok (e.searchFor settings query) := by
  unfold searchFor Editor.searchFor
  dsimp only
  cases SearchPattern.compile query settings.ignoreCase with
  | ok p =>
    dsimp only
    refine runSearch_ok ?_ _ true
    exact hb
  | error err => rfl

/-- Recalling a pattern keeps the text. -/
theorem buffer_recallPattern (e : Editor) (settings : Settings) :
    (e.recallPattern settings).buffer = e.buffer := by
  unfold Editor.recallPattern
  dsimp only
  split
  · rfl
  · split <;> rfl

theorem commitSearch_ok (hb : e.buffer.Fits) (settings : Settings) :
    commitSearch e settings = .ok (e.commitSearch settings) := by
  unfold commitSearch Editor.commitSearch
  dsimp only
  split
  · refine repeatSearch_ok ?_ false
    rw [buffer_recallPattern]
    exact hb
  · refine searchFor_ok ?_ settings _
    exact hb

end Checked

end ModalEditor
