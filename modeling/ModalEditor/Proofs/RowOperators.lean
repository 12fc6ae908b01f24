import ModalEditor.Proofs.Selections

/-!
# Operators on whole rows and on rectangles

What an operator does to whole rows (`operator_on_rows`), or to the pieces of rows in a rectangle
(`operator_on_rectangle`), is said by the list of rows alone: which rows are left, what is left of
each, and which text is recorded. The offsets that the text is cut at do not appear. Both hold in any
state with an operator pending, whatever rows and columns are given.
-/

namespace ModalEditor

namespace Buffer

/-- **A rectangle is cut out of its rows**, and all other rows stay. -/
theorem rows_remove_blockSpans (b : Buffer) {left right : Nat} (hle : left ≤ right)
    (top bottom : Nat) :
    ((b.blockSpans top bottom left right).foldr (fun s acc => acc.remove s) b).rows =
      b.rows.mapIdx fun i row =>
        if top ≤ i ∧ i ≤ min bottom b.lastRow then row.take left ++ row.drop (right + 1)
        else row := by
  have hright : left ≤ right + 1 := by omega
  have hrows : min bottom b.lastRow + 1 - top ≤ b.lastRow + 1 - top := by omega
  rw [blockSpans, rows_foldr_remove hright hrows]
  refine List.mapIdx_eq_mapIdx_iff.2 ?_
  intro i hi
  have hsame : top ≤ i ∧ i < top + (min bottom b.lastRow + 1 - top) ↔
      top ≤ i ∧ i ≤ min bottom b.lastRow := by omega
  simp only [hsame]

end Buffer

namespace Editor

/-- A deletion leaves the other rows, and the cursor goes to the row that is then in their place. -/
theorem rows_deleteRows (e : Editor) {first last : Nat} (hfirst : first ≤ last)
    (hlast : last ≤ e.buffer.lastRow) :
    let kept := e.buffer.rows.take first ++ e.buffer.rows.drop (last + 1)
    let e' := e.deleteRows first last
    e'.buffer.rows = (if kept = [] then [[]] else kept) ∧
      e'.cursor.row = min first e'.buffer.lastRow ∧
      e'.cursor.col = (leadingBlanks (e'.buffer.rowText e'.cursor.row)).length := by
  intro kept e'
  have hrows : e'.buffer.rows = if kept = [] then [[]] else kept :=
    Buffer.rows_remove_rowsSpan hfirst hlast
  exact ⟨hrows, rfl, rfl⟩

/-- A change leaves the indentation of the first row, which is no more than one row. -/
theorem rows_changeRows (e : Editor) {first last : Nat} (hfirst : first ≤ last)
    (hlast : last ≤ e.buffer.lastRow) :
    let indent := leadingBlanks (e.buffer.rowText first)
    let e' := e.changeRows first last
    e'.buffer.rows = e.buffer.rows.take first ++ indent :: e.buffer.rows.drop (last + 1) ∧
      e'.cursor = ⟨first, indent.length⟩ ∧ e'.mode = .insert := by
  intro indent e'
  have hindent : '\n' ∉ indent := by
    intro hmem
    exact e.buffer.newline_notMem_rowText first ((List.takeWhile_sublist _).mem hmem)
  exact ⟨Buffer.rows_replace_rows hfirst hlast hindent, rfl, rfl⟩

/-- **An operator on whole rows** acts on the list of rows. The rows from the first to the last,
both moved into the buffer, are recorded, each with a newline. A deletion leaves the other rows, or
one empty row if there are none, with the cursor behind the indentation of the row that is then at
the place of the first, or of the last row there is. A change leaves the indentation of the first
row in place of them all, to type behind it. Copying leaves the buffer as it is. -/
theorem operator_on_rows (e : Editor) {op : Operator} (hop : e.operator = some op)
    (first last : Nat) :
    let top := min first e.buffer.lastRow
    let bottom := min (max last top) e.buffer.lastRow
    let rows := e.buffer.rows
    let taken := ((rows.drop top).take (bottom + 1 - top)).flatMap (· ++ ['\n'])
    let kept := rows.take top ++ rows.drop (bottom + 1)
    let indent := leadingBlanks (e.buffer.rowText top)
    let e' := e.applyRows first last
    e'.registers = e.registersAfter op taken ∧ e'.registers.read unnamedRegister = taken ∧
      match op with
      | .delete =>
        e'.buffer.rows = (if kept = [] then [[]] else kept) ∧
          e'.cursor.row = min top e'.buffer.lastRow ∧
          e'.cursor.col = (leadingBlanks (e'.buffer.rowText e'.cursor.row)).length
      | .change =>
        e'.buffer.rows = rows.take top ++ indent :: rows.drop (bottom + 1) ∧
          e'.cursor = ⟨top, indent.length⟩ ∧ e'.mode = .insert
      | .yank => e'.buffer = e.buffer := by
  intro top bottom rows taken kept indent e'
  have htop : top ≤ bottom := by omega
  have hbottom : bottom ≤ e.buffer.lastRow := Nat.min_le_right _ _
  have htaken : e.buffer.rowsText top bottom = taken := by
    have htext := e.buffer.rowsText_eq top bottom
    rwa [Nat.min_eq_left hbottom] at htext
  have hregisters : e'.registers = e.registersAfter op taken := by
    rw [← htaken]
    exact registers_applyRows hop first last
  refine ⟨hregisters, by rw [hregisters, read_registersAfter], ?_⟩
  let e₁ : Editor := { e with operator := none, modifier := none }
  cases op with
  | delete =>
    have hrun : e' = { e₁.deleteRows top bottom with selected := none } := by
      show e.applyRows first last = _
      rw [applyRows, hop]
    rw [hrun]
    exact rows_deleteRows e₁ htop hbottom
  | change =>
    have hrun : e' = { e₁.changeRows top bottom with selected := none } := by
      show e.applyRows first last = _
      rw [applyRows, hop]
    rw [hrun]
    exact rows_changeRows e₁ htop hbottom
  | yank =>
    show (e.applyRows first last).buffer = e.buffer
    rw [applyRows, hop]
    rfl

/-- A change of the last rows, one of them empty, that reaches past the end. -/
theorem operator_on_rows_past_end :
    ∃ e : Editor, e.buffer.rows = [['a'], ['\t', 'b'], []] ∧ e.operator = some .change ∧
      let e' := e.applyRows 1 7
      e'.buffer.rows = [['a'], ['\t']] ∧ e'.cursor = ⟨1, 1⟩ ∧ e'.mode = .insert ∧
        e'.registers.read unnamedRegister = ['\t', 'b', '\n', '\n'] := by
  let e := ofResult (interpret {} ⟨['a', '\n', '\t', 'b', '\n']⟩ none [.char 'c'])
  have hop : e.operator = some .change := by decide +kernel
  obtain ⟨-, htaken, hrows, hcursor, hmode⟩ := operator_on_rows e hop 1 7
  exact ⟨e, by decide +kernel, hop, hrows.trans (by decide +kernel),
    hcursor.trans (by decide +kernel), hmode, htaken.trans (by decide +kernel)⟩

/-- **An operator on a rectangle** takes the same columns out of each of its rows. The pieces are
recorded, joined by newlines; they are cut out unless they are only copied. Rows that end before the
rectangle lose nothing, no row is removed, and no other row changes. -/
theorem operator_on_rectangle (e : Editor) {op : Operator} (hop : e.operator = some op)
    {left right : Nat} (hle : left ≤ right) (top bottom : Nat) :
    let last := min bottom e.buffer.lastRow
    let rows := e.buffer.rows
    let taken := List.intercalate ['\n'] (((rows.drop top).take (last + 1 - top)).map fun row =>
      (row.drop left).take (right + 1 - left))
    let e' := e.applyBlock top bottom left right
    e'.registers = e.registersAfter op taken ∧ e'.registers.read unnamedRegister = taken ∧
      match op with
      | .delete | .change =>
        e'.buffer.lineCount = e.buffer.lineCount ∧
          e'.buffer.rows = rows.mapIdx fun i row =>
            if top ≤ i ∧ i ≤ last then row.take left ++ row.drop (right + 1) else row
      | .yank => e'.buffer = e.buffer := by
  intro last rows taken e'
  let spans := e.buffer.blockSpans top bottom left right
  have hlast : e.buffer.blockSpans top last left right = spans := by
    simp only [Buffer.blockSpans, spans, last, Nat.min_assoc, Nat.min_self]
  have htaken : List.intercalate ['\n'] (spans.map e.buffer.slice) = taken := by
    rw [← hlast, Buffer.map_slice_blockSpans]
  have hregisters : e'.registers = e.registersAfter op taken := by
    rw [← htaken]
    exact registers_applyBlock hop top bottom left right
  have hcut (h : e'.buffer = spans.foldr (fun s b => b.remove s) e.buffer) :
      e'.buffer.lineCount = e.buffer.lineCount ∧
        e'.buffer.rows = rows.mapIdx fun i row =>
          if top ≤ i ∧ i ≤ last then row.take left ++ row.drop (right + 1) else row := by
    have hrows := e.buffer.rows_remove_blockSpans hle top bottom
    rw [← h] at hrows
    refine ⟨?_, hrows⟩
    rw [← Buffer.length_rows, ← Buffer.length_rows, hrows, List.length_mapIdx]
  refine ⟨hregisters, by rw [hregisters, read_registersAfter], ?_⟩
  cases op with
  | delete | change =>
    refine hcut ?_
    show (e.applyBlock top bottom left right).buffer = _
    rw [applyBlock, hop]
    rfl
  | yank =>
    show (e.applyBlock top bottom left right).buffer = e.buffer
    rw [applyBlock, hop]
    rfl

/-- A rectangle of ragged rows, one of them empty, that reaches below the last row. -/
theorem operator_on_rectangle_ragged :
    ∃ e : Editor,
      e.buffer.rows = [['x', 'y'], ['a', 'b', 'c', 'd'], [], ['a', 'b']] ∧
        e.operator = some .delete ∧
        let e' := e.applyBlock 1 9 1 2
        e'.buffer.rows = [['x', 'y'], ['a', 'd'], [], ['a']] ∧
          e'.registers.read unnamedRegister = ['b', 'c', '\n', '\n', 'b'] := by
  let e := ofResult (interpret {}
    ⟨['x', 'y', '\n', 'a', 'b', 'c', 'd', '\n', '\n', 'a', 'b']⟩ none [.char 'd'])
  have hop : e.operator = some .delete := by decide +kernel
  have hle : 1 ≤ 2 := by decide
  obtain ⟨-, htaken, -, hrows⟩ := operator_on_rectangle e hop hle 1 9
  exact ⟨e, by decide +kernel, hop, hrows.trans (by decide +kernel),
    htaken.trans (by decide +kernel)⟩

end Editor

end ModalEditor
