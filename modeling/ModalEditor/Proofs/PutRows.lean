import ModalEditor.Proofs.PutBack
import ModalEditor.Proofs.RegisterRing

/-!
# Whole rows that are put

A text that stands for whole rows has a newline behind each. Between rows it can be put as it is;
below the last row its last newline goes in front. In the list of rows this makes no difference: the
rows come after those before the place where they are put, repeated as often as the count says
(`Buffer.rows_insert_rowStart`, `Buffer.rows_insert_rowEnd`). So a put is told by the list of rows
alone (`rows_put`), and copying rows is what brings them into the register (`Copied`).
-/

namespace ModalEditor

/-! ### Counts -/

/-- The count that digits write; one, if there are none. -/
def countOf (digits : Text) : Nat := if digits.isEmpty then 1 else ofDigits digits

theorem le_foldl_digits (digits : Text) (n : Nat) :
    n ≤ digits.foldl (fun n c => 10 * n + (c.toNat - '0'.toNat)) n := by
  induction digits generalizing n with
  | nil => exact Nat.le_refl n
  | cons c digits ih =>
    refine Nat.le_trans ?_ (ih _)
    show n ≤ 10 * n + _
    omega

theorem countOf_pos {digits : Text} (hd : digits.all Char.isDigit = true)
    (hz : digits.head? ≠ some '0') : 0 < countOf digits := by
  cases digits with
  | nil => exact Nat.one_pos
  | cons c digits =>
    have hdigit : c.isDigit = true := List.all_eq_true.1 hd c List.mem_cons_self
    have hne : c ≠ '0' := by simpa using hz
    have hle : '0'.toNat ≤ c.toNat := of_decide_eq_true ((Bool.and_eq_true _ _).mp hdigit).1
    have hlt : '0'.toNat < c.toNat := by
      refine Nat.lt_of_le_of_ne hle fun heq => hne (Char.ext (UInt32.toNat_inj.1 heq.symm))
    refine Nat.lt_of_lt_of_le (Nat.sub_pos_of_lt hlt) ?_
    refine Nat.le_trans ?_ (le_foldl_digits digits _)
    show _ ≤ 10 * 0 + (c.toNat - '0'.toNat)
    omega

theorem getD_typedCount?_eq_min (digits : Text) :
    (Editor.typedCount? digits).getD 1 = min (countOf digits) maxCount := by
  rw [Editor.getD_typedCount?, countOf]
  split
  · decide
  · rfl

theorem take_min_of_length_le {α : Type} {l : List α} {n k : Nat} (h : (l.take n).length ≤ k) :
    l.take (min n k) = l.take n := by
  rw [Nat.min_comm, ← List.take_take, List.take_of_length_le h]

namespace Buffer

variable {b : Buffer} {row : Nat} {rows : List Text}

/-! ### How much rows take -/

theorem length_le_byteSize (t : Text) : t.length ≤ Editor.byteSize t := by
  induction t with
  | nil => exact Nat.le_refl 0
  | cons c t ih =>
    have hc := c.utf8Size_pos
    have hsize : Editor.byteSize (c :: t) = Editor.byteSize [c] + Editor.byteSize t :=
      Editor.byteSize_append [c] t
    have hone : Editor.byteSize [c] = c.utf8Size := Nat.zero_add _
    rw [List.length_cons]
    omega

theorem length_le_byteSize_rows (rows : List Text) :
    rows.length ≤ Editor.byteSize (rows.flatMap (· ++ ['\n'])) := by
  refine Nat.le_trans ?_ (length_le_byteSize _)
  induction rows with
  | nil => exact Nat.le_refl 0
  | cons row rows ih =>
    rw [List.flatMap_cons, List.length_append, List.length_append, List.length_cons,
      List.length_singleton]
    omega

/-! ### Rows that are put between rows -/

theorem flatten_replicate_flatMap (rows : List Text) (n : Nat) :
    (List.replicate n (rows.flatMap (· ++ ['\n']))).flatten =
      (List.replicate n rows).flatten.flatMap (· ++ ['\n']) := by
  induction n with
  | zero => rfl
  | succ n ih =>
    rw [List.replicate_succ, List.replicate_succ, List.flatten_cons, List.flatten_cons,
      List.flatMap_append, ih]

/-- **At the start of a row**, rows are put before it. -/
theorem rows_insert_rowStart (hrow : row ≤ b.lastRow) (hrows : ∀ r ∈ rows, '\n' ∉ r) :
    (b.insert (b.rowStart row) (rows.flatMap (· ++ ['\n']))).rows =
      b.rows.take row ++ rows ++ b.rows.drop row := by
  have hall : ∀ r ∈ b.rows.take row ++ rows, '\n' ∉ r := by
    intro r hr
    rcases List.mem_append.1 hr with hr | hr
    · exact newline_notMem_of_mem_rows (List.mem_of_mem_take hr)
    · exact hrows r hr
  have hbelow : splitRows (b.text.drop (b.rowStart row)) = b.rows.drop row := by
    rw [text_drop_rowStart hrow]
    exact splitRows_dropRows hrow
  rw [Buffer.rows, text_insert, take_rowStart hrow, ← List.flatMap_append,
    splitRows_flatMap_append hall, hbelow]

/-- **At the end of a row**, rows with their last newline in front are put behind it. -/
theorem rows_insert_rowEnd (hrow : row ≤ b.lastRow) (hrows : ∀ r ∈ rows, '\n' ∉ r)
    (hne : rows ≠ []) :
    (b.insert (b.rowEnd row) ('\n' :: (rows.flatMap (· ++ ['\n'])).dropLast)).rows =
      b.rows.take (row + 1) ++ rows ++ b.rows.drop (row + 1) := by
  have hall : ∀ r ∈ rows ++ b.rows.drop (row + 1), '\n' ∉ r := by
    intro r hr
    rcases List.mem_append.1 hr with hr | hr
    · exact hrows r hr
    · exact newline_notMem_of_mem_rows (List.mem_of_mem_drop hr)
  have hfront : '\n' :: (rows.flatMap (· ++ ['\n'])).dropLast = rows.flatMap ('\n' :: ·) := by
    rw [← List.dropLast_cons_of_ne_nil (ne_nil_of_isLinewise (isLinewise_flatMap hne)),
      ← flatMap_cons_newline, List.dropLast_concat]
  have habove : splitRows (b.text.take (b.rowEnd row)) = b.rows.take (row + 1) := by
    rw [take_rowEnd hrow]
    refine splitRows_intercalate (fun r hr => ?_) ?_
    · exact newline_notMem_of_mem_rows (List.mem_of_mem_take hr)
    · rw [take_rows_succ hrow]
      exact List.concat_ne_nil _ _
  rw [Buffer.rows, text_insert, hfront, drop_rowEnd hrow, List.append_assoc, ← List.flatMap_append,
    splitRows_append_flatMap hall, habove, List.append_assoc]

end Buffer

/-! ### Keys that are recorded elsewhere -/

theorem RegisterFile.read_captureAll_of_ne {name? : Option Char} {c : Char}
    (h : ∀ name ∈ name?, name.toLower ≠ c.toLower) (r : RegisterFile) (keys : List Key) :
    (r.captureAll name? keys).read c = r.read c := by
  cases name? with
  | none => rfl
  | some name =>
    have hname := h name rfl
    unfold captureAll
    rw [Option.elim_some]
    induction keys generalizing r with
    | nil => rfl
    | cons key keys ih =>
      rw [List.foldl_cons, ih, capture, read_append, if_neg hname]

namespace Editor

variable {e e₁ : Editor} {rows : List Text}

/-- Keys that are not recorded into a register leave it alone, if its name is no letter. -/
theorem read_captured {c : Char} (hc : c.isAlpha = false) (hrec : e.recording ≠ some c)
    (keys : List Key) : (e.captured keys).registers.read c = e.registers.read c := by
  refine RegisterFile.read_captureAll_of_ne (fun name hname heq => hrec ?_) _ _
  have hsame : c.toLower = c := (RegisterFile.toLower_eq_iff hc).2 rfl
  rw [hsame] at heq
  exact hname.trans (congrArg some ((RegisterFile.toLower_eq_iff hc).1 heq))

/-! ### What a put of rows does -/

/-- **The cursor is on a row**, on the first character that is no blank, or on the last. -/
def AtIndent (row : Nat) (e : Editor) : Prop :=
  e.cursor =
    ⟨row, min (leadingBlanks (e.buffer.rowText row)).length (e.buffer.rowLength row - 1)⟩

/-- **Rows that have come to a row** are there when the cursor has been put in order on the first of
them. -/
theorem rows_moveToIndent (hm : e.mode = .normal) {b : Buffer} {row : Nat} (hne : rows ≠ [])
    (hrow : row ≤ e.buffer.lineCount)
    (hrows : b.rows = e.buffer.rows.take row ++ rows ++ e.buffer.rows.drop row) :
    let e' := (({ e with buffer := b } : Editor).moveToIndent row).clampCursor
    e'.buffer.rows = e.buffer.rows.take row ++ rows ++ e.buffer.rows.drop row ∧
      e'.AtIndent row := by
  intro e'
  have hrow' : row ≤ b.lastRow := by
    have hlength := b.length_rows
    have hpos := List.length_pos_iff.2 hne
    rw [hrows, List.length_append, List.length_append, List.length_take, e.buffer.length_rows,
      Nat.min_eq_left hrow, Buffer.lineCount] at hlength
    omega
  refine ⟨hrows, ?_⟩
  show e'.cursor = _
  simp only [e', clampCursor, moveToIndent, Nat.min_eq_left hrow', lastColumn, hm,
    Mode.cursorPastEnd, Bool.false_eq_true, if_false]

/-- **A text that stands for whole rows** is put between rows. -/
theorem rows_putRows (hm : e.mode = .normal) (hne : rows ≠ []) (hrows : ∀ r ∈ rows, '\n' ∉ r)
    (hrow : e.cursor.row ≤ e.buffer.lastRow) (below : Bool) :
    let row := if below then e.cursor.row + 1 else e.cursor.row
    let e' := (e.putRows (rows.flatMap (· ++ ['\n'])) below).clampCursor
    e'.buffer.rows = e.buffer.rows.take row ++ rows ++ e.buffer.rows.drop row ∧
      e'.AtIndent row := by
  have hcount : e.cursor.row + 1 ≤ e.buffer.lineCount := Nat.succ_le_succ hrow
  intro row e'
  cases below with
  | false =>
    exact rows_moveToIndent hm hne (Nat.le_of_lt hcount) (Buffer.rows_insert_rowStart hrow hrows)
  | true =>
    by_cases hlast : e.cursor.row < e.buffer.lastRow
    · have he' : e' = _ := congrArg clampCursor (if_pos hlast)
      rw [he']
      exact rows_moveToIndent hm hne hcount (Buffer.rows_insert_rowStart hlast hrows)
    · have he' : e' = _ := congrArg clampCursor (if_neg hlast)
      rw [he']
      exact rows_moveToIndent hm hne hcount (Buffer.rows_insert_rowEnd hrow hrows hne)

/-- **What is put** are the rows in the register, as often as the count says. -/
theorem rows_put (hread : e.registers.read (e.selected.getD unnamedRegister) =
      rows.flatMap (· ++ ['\n'])) (hm : e.mode = .normal) (hne : rows ≠ [])
    (hrows : ∀ r ∈ rows, '\n' ∉ r) (hpos : 0 < e.count)
    (hsize : byteSize (rows.flatMap (· ++ ['\n'])) * e.count ≤ maxCount)
    (hrow : e.cursor.row ≤ e.buffer.lastRow) (below : Bool) :
    let row := if below then e.cursor.row + 1 else e.cursor.row
    let e' := (e.put below).clampCursor
    e'.buffer.rows = e.buffer.rows.take row ++ (List.replicate e.count rows).flatten ++
        e.buffer.rows.drop row ∧
      e'.AtIndent row := by
  let copies := (List.replicate e.count rows).flatten
  let e₁ : Editor := ({ e.dropCounts with selected := none } : Editor).takeCheckpoint
  have hcopies : copies ≠ [] := by
    simp [copies, hne, Nat.pos_iff_ne_zero.1 hpos]
  have hnone : ∀ r ∈ copies, '\n' ∉ r := by
    intro r hr
    obtain ⟨l, hl, hr⟩ := List.mem_flatten.1 hr
    exact hrows r (List.eq_of_mem_replicate hl ▸ hr)
  have hput := put_eq_of_le hread (ne_nil_of_isLinewise (Buffer.isLinewise_flatMap hne)) hsize below
  dsimp only at hput
  rw [Buffer.flatten_replicate_flatMap, if_pos (Buffer.isLinewise_flatMap hcopies)] at hput
  rw [hput]
  exact rows_putRows (e := e₁) hm hcopies hnone hrow below

/-! ### Rows that are copied -/

/-- **After rows have been copied** a command may start where the cursor was, and they are in the
unnamed register, beside which none is chosen. -/
structure Copied (rows : List Text) (e e₁ : Editor) : Prop where
  /-- The same text. -/
  buffer : e₁.buffer = e.buffer
  /-- The same cursor. -/
  cursor : e₁.cursor = e.cursor
  /-- The same mode. -/
  mode : e₁.mode = e.mode
  /-- The same macro is being recorded, if any. -/
  recording : e₁.recording = e.recording
  /-- No command is half typed. -/
  waiting : e₁.waiting = false
  /-- No count is left before an operator. -/
  operatorCount : e₁.operatorCount = none
  /-- No count is left. -/
  repeatCount : e₁.repeatCount = none
  /-- No register is chosen. -/
  selected : e₁.selected = none
  /-- The rows, each with a newline. -/
  unnamed : e₁.registers.read unnamedRegister = rows.flatMap (· ++ ['\n'])

/-- **Copying rows leaves them in the unnamed register**, all that are counted and there. (`hsize`
only excludes rows that are in no memory.) -/
theorem exists_copied (he : e.clampCursor = e) (hm : e.mode = .normal) (hw : e.waiting = false)
    (hn : e.repeatCount = none) (settings : Settings) {digits : Text}
    (hd : digits.all Char.isDigit = true) (hz : digits.head? ≠ some '0')
    (hsize : ((e.buffer.rows.drop e.cursor.row).take (countOf digits)).length ≤ maxCount)
    (keys : List Key) :
    ∃ e₁, Copied ((e.buffer.rows.drop e.cursor.row).take (countOf digits)) e e₁ ∧
      e.after settings (digits.map Key.char ++ (.char 'y' :: .char 'y' :: keys)) =
        e₁.after settings keys := by
  have hrow := (cursor_le_of_clampCursor_eq he).1
  have hk := continuation_of_not_waiting hw
  let h : OperatorHead := { early := [], before := digits, digits_before := hd, head_before := hz }
  let e₂ : Editor := (h.typed .yank (e.captured (h.keys .yank))).captured [.char 'y']
  let n := e₂.count
  let e₁ : Editor := e₂.dropCounts.applyRows e.cursor.row (e.cursor.row + (n - 1))
  have hpress : e₂.press settings (.char 'y') = .done e₁ :=
    press_operator (e := e₂) settings hm hk .yank
  have hcursor : e₁.cursor = e.cursor := by
    show (⟨min e.cursor.row (min e.cursor.row e.buffer.lastRow), e.cursor.col⟩ : Position) = _
    rw [Nat.min_eq_left hrow, Nat.min_self]
  have hcount : n = min (countOf digits) maxCount := by
    rw [← getD_typedCount?_eq_min]
    exact count_of_repeatCount (e := e₂) rfl
  have hpos : 0 < n := hcount ▸ Nat.lt_min.2 ⟨countOf_pos hd hz, by decide⟩
  have hsame : (e.buffer.rows.drop e.cursor.row).take (e.cursor.row + (n - 1) + 1 - e.cursor.row) =
      (e.buffer.rows.drop e.cursor.row).take (countOf digits) := by
    rw [← take_min_of_length_le hsize, ← hcount]
    congr 1
    omega
  refine ⟨e₁, ⟨rfl, hcursor, rfl, rfl, waiting_eq_false rfl hk hm, rfl, rfl, rfl, ?_⟩, ?_⟩
  · have hlast : max (e.cursor.row + (n - 1)) e.cursor.row = e.cursor.row + (n - 1) :=
      Nat.max_eq_left (Nat.le_add_right _ _)
    have hregisters : e₁.registers = e₂.dropCounts.registersAfter .yank _ :=
      registers_applyRows rfl _ _
    rw [hregisters, read_registersAfter]
    show e.buffer.rowsText (min e.cursor.row e.buffer.lastRow)
      (min (max (e.cursor.row + (n - 1)) (min e.cursor.row e.buffer.lastRow)) e.buffer.lastRow) = _
    rw [Nat.min_eq_left hrow, hlast, Buffer.rowsText_eq, hsame]
  · have hhead := after_head settings he hm hk (operator_of_not_waiting hw) hn h .yank
      (.char 'y' :: keys)
    rw [after_cons_of_captured hpress (clampCursor_of_eq he rfl rfl hcursor)] at hhead
    rw [← hhead]
    simp [h, OperatorHead.keys, OperatorHead.registerKeys, OperatorHead.modifierKeys, Operator.key]

/-- **Rows that have been copied are put**, as often as is counted. -/
theorem Copied.rows_after_put (h : Copied rows e e₁) (he : e.clampCursor = e)
    (hm : e.mode = .normal) (hrec : e.recording ≠ some unnamedRegister) (hne : rows ≠ [])
    (hrows : ∀ r ∈ rows, '\n' ∉ r) (settings : Settings) {digits : Text}
    (hd : digits.all Char.isDigit = true) (hz : digits.head? ≠ some '0')
    (hsize : byteSize (rows.flatMap (· ++ ['\n'])) * countOf digits ≤ maxCount) (below : Bool) :
    let row := if below then e.cursor.row + 1 else e.cursor.row
    let e' := e₁.after settings
      (digits.map Key.char ++ [.char (if below then 'p' else 'P')])
    e'.buffer.rows = e.buffer.rows.take row ++ (List.replicate (countOf digits) rows).flatten ++
        e.buffer.rows.drop row ∧
      e'.AtIndent row := by
  intro row e'
  let c : Char := if below then 'p' else 'P'
  let e₂ : Editor :=
    { e₁.captured (digits.map Key.char) with repeatCount := pushDigits e₁.repeatCount digits }
  let e₃ : Editor := e₂.captured [.char c]
  have he₁ : e₁.clampCursor = e₁ := clampCursor_of_eq he h.buffer h.mode h.cursor
  have hm₁ : e₁.mode = .normal := h.mode.trans hm
  have hk : e₁.continuation = none := continuation_of_not_waiting h.waiting
  have hrec₁ : e₁.recording ≠ some unnamedRegister := h.recording ▸ hrec
  have hpress : e₃.press settings (.char c) = .done (e₃.put below) := by
    have hop : e₃.operator = none := operator_of_not_waiting h.waiting
    cases below with
    | false => exact press_command (e := e₃) (c := 'P') hm₁ hk hop settings rfl rfl rfl (by decide)
    | true => exact press_command (e := e₃) (c := 'p') hm₁ hk hop settings rfl rfl rfl (by decide)
  have hafter : e' = (e₃.put below).clampCursor := by
    have hdigits := after_pushDigits settings he₁ (.inl hm₁) hk [.char c] hd (.inr hz)
    refine hdigits.trans (after_singleton_of_done ?_)
    rw [capture_eq]
    exact hpress
  have hcount : e₃.count = countOf digits := by
    have hlength := Nat.le_trans (List.length_pos_iff.2 hne) (Buffer.length_le_byteSize_rows rows)
    have hle : countOf digits ≤ maxCount := Nat.le_trans (Nat.le_mul_of_pos_left _ hlength) hsize
    have hrepeat : e₃.repeatCount = typedCount? digits := by
      show pushDigits e₁.repeatCount digits = _
      rw [h.repeatCount, pushDigits_none]
    rw [count_of_operatorCount (e := e₃) h.operatorCount, hrepeat, getD_typedCount?_eq_min,
      Nat.min_eq_left hle]
  have hread : e₃.registers.read (e₃.selected.getD unnamedRegister) =
      rows.flatMap (· ++ ['\n']) := by
    have hselected : e₃.selected = none := h.selected
    rw [hselected, Option.getD_none]
    exact (read_captured (e := e₂) (by decide) hrec₁ _).trans
      ((read_captured (by decide) hrec₁ _).trans h.unnamed)
  have hput := rows_put hread hm₁ hne hrows (by rw [hcount]; exact countOf_pos hd hz)
    (hcount.symm ▸ hsize) (cursor_le_of_clampCursor_eq (e := e₁) he₁).1 below
  dsimp only at hput
  rw [← hafter, hcount] at hput
  have hbuffer : e₃.buffer = e.buffer := h.buffer
  have hcursor : e₃.cursor = e.cursor := h.cursor
  rw [hbuffer, hcursor] at hput
  exact hput

/-- **Rows that are copied and put.** In normal mode, with nothing half typed, and no macro being
recorded into the unnamed register: the rows from the cursor down are copied, as many as a first
count says and as there are, and put below the row of the cursor, or above it, as often as a second
count says. They are then there, between the rows above and those below, and the cursor is at the
end of the indentation of the first of them. (`hsize` only excludes texts that are in no
memory.) -/
theorem copied_rows_put (he : e.clampCursor = e) (hm : e.mode = .normal) (hw : e.waiting = false)
    (hn : e.repeatCount = none) (hrec : e.recording ≠ some unnamedRegister) (settings : Settings)
    {rowDigits putDigits : Text} (hd : rowDigits.all Char.isDigit = true)
    (hz : rowDigits.head? ≠ some '0') (hd' : putDigits.all Char.isDigit = true)
    (hz' : putDigits.head? ≠ some '0')
    (hsize : byteSize (((e.buffer.rows.drop e.cursor.row).take (countOf rowDigits)).flatMap
      (· ++ ['\n'])) * countOf putDigits ≤ maxCount) :
    let row := e.cursor.row
    let rows := e.buffer.rows
    let put := (List.replicate (countOf putDigits)
      ((rows.drop row).take (countOf rowDigits))).flatten
    let keys := rowDigits.map Key.char ++ (.char 'y' :: .char 'y' :: putDigits.map Key.char)
    let below := e.after settings (keys ++ [.char 'p'])
    let above := e.after settings (keys ++ [.char 'P'])
    (below.buffer.rows = rows.take (row + 1) ++ put ++ rows.drop (row + 1) ∧
        below.AtIndent (row + 1)) ∧
      above.buffer.rows = rows.take row ++ put ++ rows.drop row ∧ above.AtIndent row := by
  intro row rows put keys below above
  let copied := (rows.drop row).take (countOf rowDigits)
  have hrow : row ≤ e.buffer.lastRow := (cursor_le_of_clampCursor_eq he).1
  have hne : copied ≠ [] := by
    have hpos := countOf_pos hd hz
    have hlength : rows.length = e.buffer.lastRow + 1 := e.buffer.length_rows
    refine List.length_pos_iff.1 ?_
    rw [List.length_take, List.length_drop]
    omega
  have hcopied : ∀ r ∈ copied, '\n' ∉ r := fun r hr =>
    Buffer.newline_notMem_of_mem_rows (List.mem_of_mem_drop (List.mem_of_mem_take hr))
  have hfits : copied.length ≤ maxCount := by
    refine Nat.le_trans (Buffer.length_le_byteSize_rows copied) (Nat.le_trans ?_ hsize)
    exact Nat.le_mul_of_pos_right _ (countOf_pos hd' hz')
  have hput (c : Char) :
      ∃ e₁, Copied copied e e₁ ∧ e.after settings (keys ++ [.char c]) =
        e₁.after settings (putDigits.map Key.char ++ [.char c]) := by
    have h := exists_copied he hm hw hn settings hd hz hfits (putDigits.map Key.char ++ [.char c])
    simpa [keys] using h
  constructor
  · obtain ⟨e₁, h, hafter⟩ := hput 'p'
    have hbelow : below = _ := hafter
    rw [hbelow]
    exact h.rows_after_put he hm hrec hne hcopied settings hd' hz' hsize true
  · obtain ⟨e₁, h, hafter⟩ := hput 'P'
    have habove : above = _ := hafter
    rw [habove]
    exact h.rows_after_put he hm hrec hne hcopied settings hd' hz' hsize false

/-- The last rows, an empty one among them, more being counted than there are: twice below the row
of the cursor, and twice above it. -/
theorem copied_rows_put_twice :
    ∃ e : Editor, Reachable ⟨['a', '\n', ' ', 'b', '\n']⟩ e ∧
      e.buffer.rows = [['a'], [' ', 'b'], []] ∧ e.cursor = ⟨1, 0⟩ ∧
      let below := e.after {} [.char '9', .char 'y', .char 'y', .char '2', .char 'p']
      let above := e.after {} [.char '9', .char 'y', .char 'y', .char '2', .char 'P']
      below.buffer.rows = [['a'], [' ', 'b'], [' ', 'b'], [], [' ', 'b'], [], []] ∧
        below.cursor = ⟨2, 1⟩ ∧
        above.buffer.rows = [['a'], [' ', 'b'], [], [' ', 'b'], [], [' ', 'b'], []] ∧
        above.cursor = ⟨1, 1⟩ := by
  let e : Editor := ofResult (interpret {} ⟨['a', '\n', ' ', 'b', '\n']⟩ none [.char 'j'])
  have he : Reachable ⟨['a', '\n', ' ', 'b', '\n']⟩ e := .first {} [.char 'j']
  have hbuffer : e.buffer = ⟨['a', '\n', ' ', 'b', '\n']⟩ := by decide +kernel
  have hcursor : e.cursor = ⟨1, 0⟩ := by decide +kernel
  have hrows : e.buffer.rows = [['a'], [' ', 'b'], []] := by
    rw [hbuffer]
    decide
  have hnine : ['9'].all Char.isDigit = true := by decide
  have htwo : ['2'].all Char.isDigit = true := by decide
  obtain ⟨⟨hbelow, hindent⟩, habove, hindent'⟩ :=
    copied_rows_put he.clampCursor_eq (by decide +kernel) (by decide +kernel) (by decide +kernel)
      (by decide +kernel) {} hnine (by decide) htwo (by decide) (by decide +kernel)
  simp only [hrows, hcursor, List.map_cons, List.map_nil, List.cons_append, List.nil_append]
    at hbelow hindent habove hindent'
  refine ⟨e, he, hrows, hcursor, hbelow.trans (by decide), ?_, habove.trans (by decide), ?_⟩
  · exact Eq.trans hindent (by decide +kernel)
  · exact Eq.trans hindent' (by decide +kernel)

end Editor

end ModalEditor
