import ModalEditor.Proofs.Places
import ModalEditor.Proofs.TextObjects

/-!
# The ends of a selection

A selection has two ends, the anchor and the cursor, and an operator treats them alike. What it
leaves of the text, what it records and the mode that it goes to depend on the rows and columns that
it is given, which are put in order first, and not on the cursor (`sameOutcome_applyRows`,
`sameOutcome_applyBlock`). For characters not even the cursor can differ, since it goes to the first
of them before anything is done. The characters that are taken are those whose position is between
the ends, both included (`exists_selected_chars`): offsets have the same order as positions.
-/

namespace ModalEditor

/-- The keys of an operator where a selection is made. -/
def Operator.selectionKeys : Operator → List Char
  | delete => ['d', 'x']
  | change => ['c']
  | yank => ['y']

namespace Editor

variable {e e' : Editor} {op : Operator} {kind : VisualKind} {p q : Position}

/-! ### What does not depend on the cursor -/

/-- **The same outcome**: the text, the registers and the mode. -/
structure SameOutcome (e e' : Editor) : Prop where
  /-- The same text. -/
  buffer : e'.buffer = e.buffer
  /-- The same registers. -/
  registers : e'.registers = e.registers
  /-- The same mode. -/
  mode : e'.mode = e.mode

theorem SameOutcome.clampCursor (h : SameOutcome e e') :
    SameOutcome e.clampCursor e'.clampCursor := ⟨h.buffer, h.registers, h.mode⟩

/-- All that an operator reads but the cursor: the text, the registers with the chosen one, the mode
and the operator itself. -/
structure Armed (op : Operator) (e e' : Editor) : Prop extends SameOutcome e e' where
  /-- The same register is chosen. -/
  selected : e'.selected = e.selected
  /-- The operator is pending in the one. -/
  operator : e.operator = some op
  /-- And in the other. -/
  operator' : e'.operator = some op

theorem Armed.registersAfter_eq (h : Armed op e e') (t : Text) :
    e'.registersAfter op t = e.registersAfter op t := by
  simp only [registersAfter, recordTaken, h.registers, h.selected]

/-- **Whole rows are treated alike wherever the cursor is**; it is left in the same place by all
operators but a yank. -/
theorem Armed.applyRows (h : Armed op e e') (first last : Nat) :
    SameOutcome (e.applyRows first last) (e'.applyRows first last) ∧
      (op ≠ .yank → (e'.applyRows first last).cursor = (e.applyRows first last).cursor) := by
  have hoperated := operated_applyRows e first last
  have hoperated' := operated_applyRows e' first last
  rw [h.operator] at hoperated
  rw [h.operator'] at hoperated'
  refine ⟨⟨?_, ?_, ?_⟩, fun hne => ?_⟩
  · rw [buffer_applyRows, buffer_applyRows, h.buffer, h.operator, h.operator']
  · rw [registers_applyRows h.operator, registers_applyRows h.operator', h.buffer,
      h.registersAfter_eq]
  · rw [hoperated.mode_eq, hoperated'.mode_eq, h.mode]
  · unfold Editor.applyRows
    rw [h.operator, h.operator', h.buffer]
    cases op with
    | yank => exact absurd rfl hne
    | delete | change => rfl

/-- **So are the pieces of a rectangle.** -/
theorem Armed.applyBlock (h : Armed op e e') (top bottom left right : Nat) :
    SameOutcome (e.applyBlock top bottom left right) (e'.applyBlock top bottom left right) := by
  have hoperated := operated_applyBlock e top bottom left right
  have hoperated' := operated_applyBlock e' top bottom left right
  rw [h.operator] at hoperated
  rw [h.operator'] at hoperated'
  refine ⟨?_, ?_, ?_⟩
  · unfold Editor.applyBlock
    rw [h.operator, h.operator', h.buffer]
    cases op <;> rfl
  · rw [registers_applyBlock h.operator, registers_applyBlock h.operator', h.buffer,
      h.registersAfter_eq]
  · rw [hoperated.mode_eq, hoperated'.mode_eq, h.mode]

/-! ### Exchanged ends -/

/-- **A selection** with one end at the anchor and one at the cursor. -/
def selecting (e : Editor) (kind : VisualKind) (anchor cursor : Position) : Editor :=
  { e with mode := .visual kind, visualAnchor := some anchor, cursor := cursor }

theorem operateOnSelection_char_comm (e : Editor) (op : Operator) (p q : Position) :
    (e.selecting .char p q).operateOnSelection .char op =
      (e.selecting .char q p).operateOnSelection .char op := by
  unfold operateOnSelection selecting
  dsimp only [Option.getD_some]
  rw [Span.ordered_comm]
  rfl

/-- **An operator treats the ends of a selection alike.** -/
theorem sameOutcome_operateOnSelection (e : Editor) (kind : VisualKind) (op : Operator)
    (p q : Position) :
    SameOutcome ((e.selecting kind p q).operateOnSelection kind op)
      ((e.selecting kind q p).operateOnSelection kind op) := by
  let begun (cursor : Position) : Editor :=
    { e with
      mode := .normal
      visualAnchor := none
      repeatCount := none
      operator := some op
      cursor := cursor }
  have harmed : Armed op (begun q) (begun p) := ⟨⟨rfl, rfl, rfl⟩, rfl, rfl, rfl⟩
  cases kind with
  | char =>
    rw [operateOnSelection_char_comm]
    exact ⟨rfl, rfl, rfl⟩
  | line =>
    have hrows := (harmed.applyRows (min p.row q.row) (max p.row q.row)).1
    unfold operateOnSelection selecting
    dsimp only [Option.getD_some]
    rw [Nat.min_comm q.row, Nat.max_comm q.row]
    exact hrows
  | block =>
    have hblock := harmed.applyBlock (min p.row q.row) (max p.row q.row) (min p.col q.col)
      (max p.col q.col)
    unfold operateOnSelection selecting
    dsimp only [Option.getD_some]
    rw [Nat.min_comm q.row, Nat.max_comm q.row, Nat.min_comm q.col, Nat.max_comm q.col]
    exact hblock

/-! ### The characters between the ends -/

/-- **The characters that are taken** are those from the first end to the last, both included, as
far as there are any. -/
theorem exists_selected_chars (hmod : e.modifier = none) (hp : e.buffer.Has p)
    (hq : e.buffer.Has q) (op : Operator) :
    let e' := ((e.selecting .char p q).operateOnSelection .char op).clampCursor
    ∃ before t after, e.buffer.text = before ++ t ++ after ∧ RegistersHold e.selected t e' ∧
      e'.buffer = (if op = .yank then e.buffer else ⟨before ++ after⟩) ∧
      ∀ offset < e.buffer.length,
        (before.length ≤ offset ∧ offset < before.length + t.length ↔
          p ≤ e.buffer.positionAt offset ∧ e.buffer.positionAt offset ≤ q ∨
            q ≤ e.buffer.positionAt offset ∧ e.buffer.positionAt offset ≤ p) := by
  intro e'
  let first := min (e.buffer.offsetAt p) (e.buffer.offsetAt q)
  let last := max (e.buffer.offsetAt p) (e.buffer.offsetAt q)
  let s : Span := ⟨first, min (last + 1) e.buffer.length⟩
  have hfirst : first ≤ e.buffer.length :=
    Nat.le_trans (Nat.min_le_left _ _) (e.buffer.offsetAt_le_length p)
  have hle : s.start ≤ s.stop := by
    simp only [s, first, last] at hfirst ⊢
    omega
  let e₁ : Editor :=
    { e with
      mode := .normal
      visualAnchor := none
      repeatCount := none
      operator := some op
      cursor := e.buffer.positionAt first }
  have hrun : (e.selecting .char p q).operateOnSelection .char op =
      e₁.applyRange s.start s.stop := by
    unfold operateOnSelection selecting
    dsimp only [Option.getD_some]
    rw [Span.ordered_start, Span.ordered_stop]
    rfl
  have hspan : e₁.rangeSpan s.start s.stop = s :=
    (rangeSpan_of_no_modifier (e := e₁) hmod s.start s.stop).trans (if_pos hle)
  obtain ⟨before, after, htext, hs⟩ := Buffer.exists_text_eq hle (Nat.min_le_right _ _)
  obtain ⟨htaken, hleft⟩ := taken_applyRange (e := e₁) rfl htext (hspan.trans hs)
  have he' : e' = _ := congrArg Editor.clampCursor hrun
  rw [he']
  refine ⟨before, _, after, htext, htaken, hleft, fun offset hoffset => ?_⟩
  have hinside : before.length ≤ offset ∧ offset < before.length + (e.buffer.slice s).length ↔
      first ≤ offset ∧ offset ≤ last := by
    have hstart : first = before.length := congrArg Span.start hs
    have hstop : min (last + 1) e.buffer.length = _ := congrArg Span.stop hs
    rw [← hstart]
    dsimp only at hstop
    omega
  have hpos := Nat.le_of_lt hoffset
  rw [hinside, ← Buffer.offsetAt_le_iff hp hpos, ← Buffer.offsetAt_le_iff hq hpos,
    ← Buffer.le_offsetAt_iff hp hpos, ← Buffer.le_offsetAt_iff hq hpos]
  omega

/-! ### The keys -/

theorem press_selectionKey (hm : e.mode = .visual kind) (hk : e.continuation = none)
    (settings : Settings) {c : Char} (hc : c ∈ op.selectionKeys) :
    e.press settings (.char c) = .done (e.operateOnSelection kind op) := by
  have hkey : c = op.key ∨ c = 'x' ∧ op = .delete := by
    cases op <;> simpa [Operator.selectionKeys, Operator.key] using hc
  rcases hkey with rfl | ⟨rfl, rfl⟩
  · exact press_operator_of_visual hm hk settings op
  · exact press_visualKey hm hk settings rfl rfl

theorem after_selectionKey (hk : e.continuation = none) (settings : Settings) (kind : VisualKind)
    {c : Char} (hc : c ∈ op.selectionKeys) (p q : Position) :
    (e.selecting kind p q).after settings [.char c] =
      (((e.captured [.char c]).selecting kind p q).operateOnSelection kind op).clampCursor := by
  refine after_singleton_of_done ?_
  rw [capture_eq]
  exact press_selectionKey (e := (e.captured [.char c]).selecting kind p q) rfl hk settings hc

theorem selecting_self (hm : e.mode = .visual kind) (hanchor : e.visualAnchor = some p) :
    e.selecting kind p e.cursor = e :=
  congrArg₂ (fun mode anchor => ({ e with mode := mode, visualAnchor := anchor } : Editor)) hm.symm
    hanchor.symm

/-- **A selection has no direction.** With no second key waited for: an operator leaves the same
text, registers and mode whichever end of a selection the cursor is at, whatever the shape. Of
characters, with no modifier pending and both ends in the text, it takes those whose position is
between the ends, both included: of a row the newline too where an end is behind its characters, and
nothing behind the text. -/
theorem selection_has_no_direction (hk : e.continuation = none) (settings : Settings)
    (kind : VisualKind) {c : Char} (hc : c ∈ op.selectionKeys) (p q : Position) :
    let forth := (e.selecting kind p q).after settings [.char c]
    let back := (e.selecting kind q p).after settings [.char c]
    SameOutcome forth back ∧
      (kind = .char → e.modifier = none → e.buffer.Has p → e.buffer.Has q →
        ∃ before t after, e.buffer.text = before ++ t ++ after ∧
          RegistersHold e.selected t forth ∧
          forth.buffer = (if op = .yank then e.buffer else ⟨before ++ after⟩) ∧
          ∀ offset < e.buffer.length,
            (before.length ≤ offset ∧ offset < before.length + t.length ↔
              p ≤ e.buffer.positionAt offset ∧ e.buffer.positionAt offset ≤ q ∨
                q ≤ e.buffer.positionAt offset ∧ e.buffer.positionAt offset ≤ p)) := by
  intro forth back
  have hforth : forth = _ := after_selectionKey hk settings kind hc p q
  have hback : back = _ := after_selectionKey hk settings kind hc q p
  rw [hforth, hback]
  refine ⟨(sameOutcome_operateOnSelection (e.captured [.char c]) kind op p q).clampCursor, ?_⟩
  rintro rfl hmod hp hq
  exact exists_selected_chars (e := e.captured [.char c]) hmod hp hq op

/-- Over an empty row, from the end of the first row: the newlines between are taken. -/
theorem selection_has_no_direction_over_rows :
    ∃ e : Editor, Reachable ⟨['a', 'b', '\n', '\n', 'c', 'd']⟩ e ∧ e.mode = .visual .char ∧
      e.visualAnchor = some ⟨0, 1⟩ ∧ e.cursor = ⟨2, 0⟩ ∧
      let e' := e.after {} [.char 'x']
      e'.buffer = ⟨['a', 'd']⟩ ∧ RegistersHold none ['b', '\n', '\n', 'c'] e' ∧
        SameOutcome e' ((e.selecting .char ⟨2, 0⟩ ⟨0, 1⟩).after {} [.char 'x']) := by
  obtain ⟨e, he, hm, hk, hanchor, hcursor, hmod, hsel, hp, hq, hbuffer, hread⟩ :
      ∃ e : Editor, Reachable ⟨['a', 'b', '\n', '\n', 'c', 'd']⟩ e ∧ e.mode = .visual .char ∧
        e.continuation = none ∧ e.visualAnchor = some ⟨0, 1⟩ ∧ e.cursor = ⟨2, 0⟩ ∧
        e.modifier = none ∧ e.selected = none ∧ e.buffer.Has ⟨0, 1⟩ ∧ e.buffer.Has ⟨2, 0⟩ ∧
        (e.after {} [.char 'x']).buffer = ⟨['a', 'd']⟩ ∧
        (e.after {} [.char 'x']).registers.read unnamedRegister = ['b', '\n', '\n', 'c'] :=
    ⟨_, .first {} [.char 'l', .char 'v', .char 'j', .char 'j'], by decide +kernel⟩
  have hself : e.selecting .char ⟨0, 1⟩ ⟨2, 0⟩ = e := hcursor ▸ selecting_self hm hanchor
  have hc : 'x' ∈ Operator.delete.selectionKeys := by decide
  obtain ⟨hsame, hchars⟩ := selection_has_no_direction hk {} .char hc ⟨0, 1⟩ ⟨2, 0⟩
  obtain ⟨before, t, after, -, htaken, -, -⟩ := hchars rfl hmod hp hq
  rw [hself] at hsame htaken
  obtain rfl : ['b', '\n', '\n', 'c'] = t := hread.symm.trans htaken.unnamed
  exact ⟨e, he, hm, hanchor, hcursor, hbuffer, hsel ▸ htaken, hsame⟩

end Editor

end ModalEditor
