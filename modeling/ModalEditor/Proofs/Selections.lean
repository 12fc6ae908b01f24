import ModalEditor.Proofs.Browsing
import ModalEditor.Proofs.CountPlacement
import ModalEditor.Proofs.Rows

/-!
# Selections

While a selection is made, a motion moves the cursor and leaves the other end, the mode and the text
alone, and an operator takes the text between the two ends (`Buffer.selected`). A search is the one
motion that does not keep to this: the key that commits the query goes to normal mode wherever the
query was begun, and leaves the anchor behind. `motion_extends_selection` has both cases.
-/

namespace ModalEditor

/-- Whether a motion is one for which a query is typed. -/
def Motion.searches : Motion → Bool
  | search _ _ => true
  | _ => false

namespace Buffer

/-! ### The text of a selection -/

/-- **The text that is selected** from one end to the other, whichever comes first: the characters
between them, both included, the rows between them, each with a newline, or the rectangle that has
them in its corners, row by row. -/
def selected (b : Buffer) (kind : VisualKind) (p q : Position) : Text :=
  let rows := (b.rows.drop (min p.row q.row)).take (max p.row q.row + 1 - min p.row q.row)
  match kind with
  | .char =>
    let first := min (b.offsetAt p) (b.offsetAt q)
    let last := max (b.offsetAt p) (b.offsetAt q)
    (b.text.drop first).take (last + 1 - first)
  | .line => rows.flatMap (· ++ ['\n'])
  | .block =>
    let left := min p.col q.col
    let right := max p.col q.col
    List.intercalate ['\n'] (rows.map fun row => (row.drop left).take (right + 1 - left))

variable (b : Buffer)

theorem map_rowText (first last : Nat) :
    (List.range' first (min last b.lastRow + 1 - first)).map b.rowText =
      (b.rows.drop first).take (last + 1 - first) := by
  have hrows : b.rows.length = b.lastRow + 1 := b.length_rows
  refine List.ext_getElem ?_ ?_
  · simp only [List.length_map, List.length_range', List.length_take, List.length_drop, hrows]
    omega
  · intro i hi hi'
    have hlt : first + i < b.rows.length := by
      simp only [List.length_map, List.length_range'] at hi
      omega
    simp [rowText_eq, List.getElem?_eq_getElem hlt]

theorem rowsText_eq (first last : Nat) :
    b.rowsText first (min last b.lastRow) =
      ((b.rows.drop first).take (last + 1 - first)).flatMap (· ++ ['\n']) := by
  rw [← map_rowText, List.flatMap_map]
  rfl

variable {b}

theorem slice_row {row : Nat} (h : row ≤ b.lastRow) (left right : Nat) :
    b.slice ⟨b.offsetAt ⟨row, left⟩, b.offsetAt ⟨row, right + 1⟩⟩ =
      ((b.rowText row).drop left).take (right + 1 - left) := by
  have hdrop := drop_rowStart_eq h
  generalize (b.rows.drop (row + 1)).flatMap ('\n' :: ·) = rest at hdrop
  generalize hrow : b.rowText row = text at hdrop
  have hlength : b.rowLength row = text.length := congrArg List.length hrow
  simp only [slice, Span.length, offsetAt, Nat.min_eq_left h, hlength]
  rw [← List.drop_drop, hdrop, Nat.add_sub_add_left]
  by_cases hleft : left ≤ text.length
  · rw [Nat.min_eq_left hleft, List.drop_append_of_le_length hleft,
      List.take_append_of_le_length (by rw [List.length_drop]; omega)]
    by_cases hright : right + 1 ≤ text.length
    · rw [Nat.min_eq_left hright]
    · rw [List.take_of_length_le (by rw [List.length_drop]; omega),
        List.take_of_length_le (by rw [List.length_drop]; omega)]
  · have hnone : min (right + 1) text.length - min left text.length = 0 := by omega
    rw [hnone, List.drop_eq_nil_of_le (Nat.le_of_not_le hleft), List.take_nil]
    rfl

/-- The characters from an offset up to another, as far as there are any. -/
theorem slice_ordered (b : Buffer) {first last : Nat} (hfirst : first ≤ b.length)
    (h : first ≤ last) :
    b.slice (.ordered first (min (last + 1) b.length)) =
      (b.text.drop first).take (last + 1 - first) := by
  have hle : first ≤ min (last + 1) b.length := by omega
  simp only [Span.ordered, if_pos hle, slice, Span.length]
  by_cases hlast : last + 1 ≤ b.length
  · rw [Nat.min_eq_left hlast]
  · have hlength : (b.text.drop first).length = b.length - first := List.length_drop
    rw [List.take_of_length_le (by omega), List.take_of_length_le (by omega)]

/-- The pieces of a rectangle, row by row. -/
theorem map_slice_blockSpans (b : Buffer) (top bottom left right : Nat) :
    (b.blockSpans top bottom left right).map b.slice =
      ((b.rows.drop top).take (bottom + 1 - top)).map fun row =>
        (row.drop left).take (right + 1 - left) := by
  rw [← map_rowText, List.map_map, blockSpans, List.map_map]
  refine List.map_congr_left ?_
  intro row hrow
  have hle : row ≤ b.lastRow := by
    simp only [List.mem_range'_1] at hrow
    omega
  exact slice_row hle left right

end Buffer

/-! ### What operators record -/

/-- A capital letter in lower case is a lower-case letter. -/
theorem toLower_ne_of_isUpper {name c : Char} (h : name.isUpper = true)
    (hc : c.toLower.val.toNat < 97) : name.toLower ≠ c.toLower := by
  intro heq
  have hletter : 'A'.val ≤ name.val ∧ name.val ≤ 'Z'.val := of_decide_eq_true h
  have hlower : name.toLower.val = name.val + ('a'.val - 'A'.val) :=
    congrArg Char.val (dif_pos hletter)
  rw [← heq, hlower, UInt32.toNat_add] at hc
  have hle : 65 ≤ name.val.toNat ∧ name.val.toNat ≤ 90 := hletter
  have hdiff : ('a'.val - 'A'.val).toNat = 32 := rfl
  omega

namespace Editor

variable {e : Editor}

/-- What an operator takes is in the registers that record it, whatever register is chosen for it. -/
theorem read_recordTaken (e : Editor) (t : Text) {c : Char} (hc : c.toLower.val.toNat < 97)
    (hrecord : (e.registers.record t).read c = t) : (e.recordTaken t).registers.read c = t := by
  cases hselected : e.selected with
  | none => simpa [recordTaken, hselected] using hrecord
  | some name =>
    simp only [recordTaken, hselected, Option.elim_some, RegisterFile.read_store]
    by_cases hname : name.toLower = c.toLower
    · have hupper : name.isUpper = false :=
        Bool.eq_false_iff.2 fun h => toLower_ne_of_isUpper h hc hname
      simp [hname, hupper]
    · rw [if_neg hname, hrecord]

/-- **The registers after an operator** that took a text: it is recorded, and a change also forgets
what was typed last. -/
def registersAfter (e : Editor) (op : Operator) (t : Text) : RegisterFile :=
  match op with
  | .change => (e.recordTaken t).registers.clear lastInsertRegister
  | .delete | .yank => (e.recordTaken t).registers

theorem read_registersAfter (e : Editor) (op : Operator) (t : Text) :
    (e.registersAfter op t).read unnamedRegister = t := by
  have hread : (e.recordTaken t).registers.read unnamedRegister = t :=
    read_recordTaken e t (by decide) (by simp [RegisterFile.record, unnamedRegister])
  cases op with
  | delete | yank => exact hread
  | change =>
    have hclear (r : RegisterFile) :
        (r.clear lastInsertRegister).read unnamedRegister = r.read unnamedRegister := by
      simp [lastInsertRegister, unnamedRegister]
    exact (hclear _).trans hread

/-- **The span that an operator takes** between two offsets: with a modifier it is grown to whole
words. -/
def rangeSpan (e : Editor) (source target : Nat) : Span :=
  let span := Span.ordered source target
  if e.modifier.isSome then e.buffer.expandWord span else span

theorem rangeSpan_of_no_modifier (hmod : e.modifier = none) (source target : Nat) :
    e.rangeSpan source target = .ordered source target := by
  unfold rangeSpan
  rw [hmod]
  rfl

theorem registers_applyRange {op : Operator} (hop : e.operator = some op) (source target : Nat) :
    (e.applyRange source target).registers =
      e.registersAfter op (e.buffer.slice (e.rangeSpan source target)) := by
  unfold applyRange
  rw [hop]
  cases op with
  | delete | change => rfl
  | yank =>
    dsimp only
    split
    · rfl
    · rfl

theorem registers_applyRows {op : Operator} (hop : e.operator = some op) (first last : Nat) :
    (e.applyRows first last).registers =
      e.registersAfter op (e.buffer.rowsText (min first e.buffer.lastRow)
        (min (max last (min first e.buffer.lastRow)) e.buffer.lastRow)) := by
  unfold applyRows
  rw [hop]
  cases op <;> rfl

theorem registers_applyBlock {op : Operator} (hop : e.operator = some op)
    (top bottom left right : Nat) :
    (e.applyBlock top bottom left right).registers =
      e.registersAfter op (List.intercalate ['\n']
        ((e.buffer.blockSpans top bottom left right).map e.buffer.slice)) := by
  unfold applyBlock
  rw [hop]
  cases op <;> rfl

/-- **An operator takes the text of the selection.** -/
theorem read_operateOnSelection {anchor : Position} (hanchor : e.visualAnchor = some anchor)
    (hmod : e.modifier = none) (hrow : e.cursor.row ≤ e.buffer.lastRow) (kind : VisualKind)
    (op : Operator) :
    (e.operateOnSelection kind op).registers.read unnamedRegister =
      e.buffer.selected kind anchor e.cursor := by
  have hgetD : e.visualAnchor.getD e.cursor = anchor := by rw [hanchor, Option.getD_some]
  have hfirst : min anchor.row e.cursor.row ≤ e.buffer.lastRow :=
    Nat.le_trans (Nat.min_le_right _ _) hrow
  let e₁ : Editor :=
    { e with mode := .normal, visualAnchor := none, repeatCount := none, operator := some op }
  have hop : e₁.operator = some op := rfl
  unfold operateOnSelection
  dsimp only
  rw [hgetD]
  cases kind with
  | char =>
    let span := Span.ordered (e.buffer.offsetAt anchor) (e.buffer.offsetAt e.cursor)
    rw [registers_applyRange (e := e₁.moveTo span.start) hop, read_registersAfter,
      rangeSpan_of_no_modifier (e := e₁.moveTo span.start) hmod]
    show e.buffer.slice (.ordered span.start (min (span.stop + 1) e.buffer.length)) = _
    rw [Span.ordered_start, Span.ordered_stop]
    have hstart : min (e.buffer.offsetAt anchor) (e.buffer.offsetAt e.cursor) ≤ e.buffer.length :=
      Nat.le_trans (Nat.min_le_left _ _) (e.buffer.offsetAt_le_length _)
    exact e.buffer.slice_ordered hstart (by omega)
  | line =>
    rw [registers_applyRows hop, read_registersAfter]
    show e.buffer.rowsText (min (min anchor.row e.cursor.row) e.buffer.lastRow)
      (min (max (max anchor.row e.cursor.row) (min (min anchor.row e.cursor.row) e.buffer.lastRow))
        e.buffer.lastRow) = _
    have hlast : max (max anchor.row e.cursor.row) (min anchor.row e.cursor.row) =
        max anchor.row e.cursor.row := by omega
    rw [Nat.min_eq_left hfirst, hlast, Buffer.rowsText_eq]
    rfl
  | block =>
    rw [registers_applyBlock hop, read_registersAfter]
    show List.intercalate ['\n'] ((e.buffer.blockSpans _ _ _ _).map e.buffer.slice) = _
    rw [Buffer.map_slice_blockSpans]
    rfl

theorem press_visualKey {kind : VisualKind} (hm : e.mode = .visual kind)
    (hk : e.continuation = none) (settings : Settings) {key : Key} (hesc : key.isEscape = false)
    (hcount : e.countDigit? key = none) :
    e.press settings key = .done (e.visualKey kind key) := by
  have hmode : e.modeKey settings key = e.visualKey kind key := by
    unfold modeKey
    rw [hm]
    dsimp only
    rw [hcount]
  rw [press_of_modeKey settings hesc (.inl hk), continued_of_none hk, hmode]

theorem press_operator_of_visual {kind : VisualKind} (hm : e.mode = .visual kind)
    (hk : e.continuation = none) (settings : Settings) (op : Operator) :
    e.press settings (.char op.key) = .done (e.operateOnSelection kind op) := by
  have hcount : e.countDigit? (.char op.key) = none := by cases op <;> rfl
  have hvisual : e.visualKey kind (.char op.key) = e.operateOnSelection kind op := by
    cases op <;> rfl
  rw [press_visualKey hm hk settings rfl hcount, hvisual]

/-- The text of the selection is in the unnamed register after the key of an operator. -/
theorem read_after_operator (he : e.clampCursor = e) (ho : e.control.Orderly) {kind : VisualKind}
    (hm : e.mode = .visual kind) (hk : e.continuation = none) {anchor : Position}
    (hanchor : e.visualAnchor = some anchor) (settings : Settings) (op : Operator) :
    (e.after settings [.char op.key]).registers.read unnamedRegister =
      e.buffer.selected kind anchor e.cursor := by
  have hop : e.operator = none :=
    ho.operator_eq_none (by simp [control, hm]) (by simp [control, hm])
  have hmod : e.modifier = none := ho.modifier_eq_none hop
  have hrow : e.cursor.row ≤ e.buffer.lastRow := (cursor_le_of_clampCursor_eq he).1
  obtain ⟨registers, hcapture, -⟩ := exists_capture e (.char op.key)
  have hpress : (e.capture (.char op.key)).press settings (.char op.key) =
      .done (({ e with registers := registers } : Editor).operateOnSelection kind op) := by
    rw [hcapture]
    exact press_operator_of_visual (e := { e with registers := registers }) hm hk settings op
  rw [after_singleton_of_done hpress]
  exact read_operateOnSelection (e := { e with registers := registers }) hanchor hmod hrow kind op

/-! ### Motions -/

/-- **Only the cursor moves**: the text and the other end of a selection stay, no second key is
waited for, and the mode is the one that is named. -/
structure Shifted (e e' : Editor) (mode : Mode) : Prop where
  /-- The text. -/
  buffer : e'.buffer = e.buffer
  /-- The other end of the selection. -/
  visualAnchor : e'.visualAnchor = e.visualAnchor
  /-- The mode. -/
  mode : e'.mode = mode
  /-- No second key is waited for. -/
  continuation : e'.continuation = none

theorem Settles.shifted {e' : Editor} {target? : Option Target} (h : Settles e target? e')
    (hop : e.operator = none) (hk : e.continuation = none) : Shifted e e' e.mode := by
  obtain ⟨hr⟩ := h
  rename_i e₁
  have hmode : e₁.mode = e.mode := congrArg Control.mode hr.control
  have hk₁ : e₁.continuation = none := (congrArg Control.continuation hr.control).trans hk
  have hop₁ : e₁.operator = none := (congrArg (·.operator) hr.control).trans hop
  cases target? with
  | none => exact ⟨hr.buffer, hr.visualAnchor, hmode, hk₁⟩
  | some target =>
    obtain ⟨cursor, modifier, selected, hreach⟩ := reach_of_no_operator hop₁ target
    show Shifted e (e₁.reach target) e.mode
    rw [hreach]
    exact ⟨hr.buffer, hr.visualAnchor, hmode, hk₁⟩

/-- **A motion without an operator moves the cursor at most.** Only a search that is committed
leaves for normal mode. -/
theorem shifted_run (m : Motion) (settings : Settings) (hm : e.Commanding)
    (hk : e.continuation = none) (hop : e.operator = none)
    (hz : m = .rowStart → e.repeatCount = none) :
    Shifted e (m.run settings e) (if m.searches then .normal else e.mode) := by
  have hconcluded : Shifted e (m.begin e).concluded (if m.searches then .normal else e.mode) ∧
      (m.begin e).concluded.operator = none := by
    have hcommand (h : (m.begin e).mode ≠ .search) := concluded_of_ne_search h
    cases m with
    | search d q => exact ⟨⟨rfl, rfl, rfl, rfl⟩, hop⟩
    | _ =>
      rw [hcommand hm.ne_search]
      exact ⟨⟨rfl, rfl, rfl, rfl⟩, hop⟩
  obtain ⟨hstart, hnone⟩ := hconcluded
  rcases settles_run m settings hm hk hz with hs | ⟨name, rfl, -, hsame⟩
  · have hshift := hs.shifted hnone hstart.continuation
    exact ⟨hshift.buffer.trans hstart.buffer, hshift.visualAnchor.trans hstart.visualAnchor,
      hshift.mode.trans hstart.mode, hshift.continuation⟩
  · rw [hsame]
    exact ⟨rfl, rfl, rfl, hk⟩

/-- Recorded digits change the registers at most. -/
theorem exists_after_pushDigits (he : e.clampCursor = e) (hm : e.Commanding)
    (hk : e.continuation = none) (settings : Settings) (keys : List Key) {digits : Text}
    (hd : digits.all Char.isDigit = true)
    (hz : e.repeatCount.isSome = true ∨ digits.head? ≠ some '0') :
    ∃ registers, e.after settings (digits.map Key.char ++ keys) =
      ({ e with registers := registers, repeatCount := pushDigits e.repeatCount digits } :
        Editor).after settings keys :=
  ⟨_, after_pushDigits settings he hm hk keys hd hz⟩

/-- A count of which no more need be known than that it stays where no digits are typed. -/
theorem exists_after_digits (he : e.clampCursor = e) (hm : e.Commanding)
    (hk : e.continuation = none) (settings : Settings) (keys : List Key) {digits : Text}
    (hd : digits.all Char.isDigit = true)
    (hz : e.repeatCount.isSome = true ∨ digits.head? ≠ some '0') :
    ∃ registers count?,
      e.after settings (digits.map Key.char ++ keys) =
          ({ e with registers := registers, repeatCount := count? } : Editor).after settings keys ∧
        (digits = [] → count? = e.repeatCount) := by
  obtain ⟨registers, hafter⟩ := exists_after_pushDigits he hm hk settings keys hd hz
  exact ⟨registers, _, hafter, fun hnil => congrArg (pushDigits e.repeatCount) hnil⟩

/-- **Motions extend a selection**, but for searches. Wherever a run has led to while a selection is
made: a motion, after a count or none, and whether it has a target or not, leaves the text and the
other end of the selection alone. One that is no search stays in the mode, so that an operator takes
the text from that end to the new cursor. A query that is committed leaves for normal mode. -/
theorem motion_extends_selection {b : Buffer} (he : Reachable b e) {kind : VisualKind}
    (hm : e.mode = .visual kind) (hk : e.continuation = none) (settings : Settings)
    (digits : Text) (hd : digits.all Char.isDigit = true)
    (hz : e.repeatCount.isSome = true ∨ digits.head? ≠ some '0') (m : Motion)
    (hstart : m = .rowStart → digits = [] ∧ e.repeatCount = none) :
    let e' := e.after settings (digits.map Key.char ++ m.keys)
    e'.buffer = e.buffer ∧ e'.visualAnchor = e.visualAnchor ∧
      (m.searches = true → e'.mode = .normal) ∧
      (m.searches = false → e'.mode = e.mode ∧ ∃ anchor, e.visualAnchor = some anchor ∧
        ∀ op : Operator, (e'.after settings [.char op.key]).registers.read unnamedRegister =
          e.buffer.selected kind anchor e'.cursor) := by
  intro e'
  have hclamped := he.clampCursor_eq
  have ho := he.traceable.orderly
  have hcommanding : e.Commanding := .inr (by simp [hm, Mode.isVisual])
  have hop : e.operator = none :=
    ho.operator_eq_none (by simp [control, hm]) (by simp [control, hm])
  obtain ⟨registers, count?, hcount, hnone⟩ :=
    exists_after_digits hclamped hcommanding hk settings m.keys hd hz
  let e₁ : Editor := { e with registers := registers, repeatCount := count? }
  have hclamped₁ : e₁.clampCursor = e₁ := clampCursor_of_eq hclamped rfl rfl rfl
  have hz₁ : m = .rowStart → e₁.repeatCount = none := by
    intro hrow
    obtain ⟨hdigits, hn⟩ := hstart hrow
    exact (hnone hdigits).trans hn
  obtain ⟨registers', hkeys, -⟩ := exists_after_keys m hclamped₁ hcommanding hk hz₁ settings
  have hshift : Shifted e e' (if m.searches then .normal else e.mode) := by
    let e₂ : Editor := { e₁ with registers := registers' }
    have hrun : Shifted e₂ (m.run settings e₂) _ := shifted_run m settings hcommanding hk hop hz₁
    have heq : e' = (m.run settings e₂).clampCursor := hcount.trans hkeys
    rw [heq]
    exact ⟨hrun.buffer, hrun.visualAnchor, hrun.mode, hrun.continuation⟩
  refine ⟨hshift.buffer, hshift.visualAnchor, ?_, ?_⟩
  · intro hsearch
    simpa [hsearch] using hshift.mode
  · intro hsearch
    have hmode : e'.mode = e.mode := by simpa [hsearch] using hshift.mode
    have hanchored : e.visualAnchor.isSome = true :=
      ho.anchored (by simp [control, hm, Mode.isVisual])
    obtain ⟨anchor, hanchor⟩ := Option.isSome_iff_exists.1 hanchored
    refine ⟨hmode, anchor, hanchor, ?_⟩
    intro op
    have he' : Reachable b e' := he.next settings _
    rw [read_after_operator he'.clampCursor_eq he'.traceable.orderly (hmode.trans hm)
      hshift.continuation (hshift.visualAnchor.trans hanchor), hshift.buffer]

/-- A rectangle is extended while a macro is recorded, and then a search is committed. -/
theorem motion_extends_selection_block :
    ∃ e : Editor, Reachable ⟨['a', 'b', '\n', 'c', 'd', 'e']⟩ e ∧ e.mode = .visual .block ∧
      e.continuation = none ∧ e.repeatCount = none ∧ e.recording = some 'a' ∧
      e.visualAnchor = some ⟨0, 1⟩ ∧
      (let e' := e.after {} [.char '2', .char '\'', .char 'm']
      e'.mode = .visual .block ∧ e'.cursor = ⟨1, 2⟩ ∧
        (e'.after {} [.char 'y']).registers.read unnamedRegister = ['b', '\n', 'd', 'e']) ∧
      (e.after {} [.char '/', .char 'c', .enter]).mode = .normal := by
  obtain ⟨e, he, hm, hk, hn, hrec, hanchor, hcursor, hselected⟩ :
      ∃ e : Editor, Reachable ⟨['a', 'b', '\n', 'c', 'd', 'e']⟩ e ∧ e.mode = .visual .block ∧
        e.continuation = none ∧ e.repeatCount = none ∧ e.recording = some 'a' ∧
        e.visualAnchor = some ⟨0, 1⟩ ∧
        (e.after {} [.char '2', .char '\'', .char 'm']).cursor = ⟨1, 2⟩ ∧
        e.buffer.selected .block ⟨0, 1⟩ ⟨1, 2⟩ = ['b', '\n', 'd', 'e'] :=
    ⟨_, .first {} [.char 'q', .char 'a', .char 'j', .char '$', .char 'm', .char 'm', .char 'k',
      .ctrlV], by decide +kernel⟩
  obtain ⟨-, -, -, hextends⟩ :=
    motion_extends_selection he hm hk {} ['2'] (by decide) (.inr (by decide)) (.mark 'm') (by simp)
  obtain ⟨-, -, hleaves, -⟩ :=
    motion_extends_selection he hm hk {} [] (by decide) (.inr (by decide))
      (.search .forward (.ofText ['c'])) (by simp)
  obtain ⟨hmode, anchor, hanchor', htaken⟩ := hextends rfl
  obtain rfl : ⟨0, 1⟩ = anchor := Option.some.inj (hanchor.symm.trans hanchor')
  refine ⟨e, he, hm, hk, hn, hrec, hanchor, ⟨hmode.trans hm, hcursor, ?_⟩, hleaves rfl⟩
  have hyank := htaken .yank
  have hcursor' : (e.after {} (['2'].map Key.char ++ (Motion.mark 'm').keys)).cursor = ⟨1, 2⟩ :=
    hcursor
  rw [hcursor', hselected] at hyank
  exact hyank

/-- A search from visual mode ends in normal mode: the operator typed next waits for a motion, and
the selection is not taken. -/
theorem search_ends_selection :
    ∃ e : Editor, Reachable ⟨['a', 'b', 'c', 'd']⟩ e ∧ e.mode = .visual .char ∧
      e.continuation = none ∧
      let e' := e.after {} [.char '/', .char 'c', .enter]
      e'.mode ≠ e.mode ∧ e'.cursor = ⟨0, 2⟩ ∧ e'.visualAnchor = some ⟨0, 0⟩ ∧
        (e'.after {} [.char 'd']).buffer = e.buffer ∧
        (e'.after {} [.char 'd']).operator = some .delete := by
  have he : Reachable ⟨['a', 'b', 'c', 'd']⟩ _ := .first {} [.char 'v']
  exact ⟨_, he, by decide +kernel⟩

end Editor

end ModalEditor
