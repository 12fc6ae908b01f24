import ModalEditor.Proofs.Browsing
import ModalEditor.Proofs.CountPlacement
import ModalEditor.Proofs.Undo

/-!
# Counts of undo and redo

Undo and redo with a count go where as many presses go, and leave the editor in the same state
(`counted_undo_redo`). Both are moves along the line of checkpoints (`Editor.travel`), and one move
after another is one move (`travel_travel`), which is all that repeated presses need; a place on the
line is its index, so that counts are sums cut off at the two ends. Only the first undo of a row of
them can have a live text to keep: the move that it makes leaves the text of the current checkpoint
live (`kept_travel`), and the others start from the same line. So redo, pressed as often as undo
brought something back, returns to the text that the first undo kept.
-/

namespace ModalEditor

namespace History

variable {σ : Type} {h : History σ}

/-! ### Places on the line -/

@[simp] theorem back_zero (h : History σ) : h.back 0 = h := by cases h <;> rfl

@[simp] theorem forth_zero (h : History σ) : h.forth 0 = h := by cases h <;> rfl

@[simp] theorem size_back (n : Nat) (h : History σ) : (h.back n).size = h.size := by
  rw [← length_entries, entries_back, length_entries]

@[simp] theorem size_forth (n : Nat) (h : History σ) : (h.forth n).size = h.size := by
  rw [← length_entries, entries_forth, length_entries]

/-- Going on moves the index up by the count, at most to the last checkpoint. -/
@[simp] theorem index?_forth (n : Nat) (h : History σ) :
    (h.forth n).index? = h.index?.map fun i => min (i + n) (h.size - 1) := by
  fun_induction forth n h with
  | case1 n before current c after ih =>
    rw [ih]
    simp only [index?, size, List.length_cons, Option.map_some, Option.some.injEq]
    omega
  | case2 n h hne =>
    cases h with
    | empty => rfl
    | line before current after =>
      cases after with
      | nil =>
        simp only [index?, size, List.length_nil, Option.map_some, Option.some.injEq]
        omega
      | cons c after =>
        cases n with
        | zero =>
          simp only [index?, size, List.length_cons, Option.map_some, Option.some.injEq]
          omega
        | succ n => exact absurd rfl (hne n before current c after rfl)

theorem back_back (m n : Nat) (h : History σ) : (h.back m).back n = h.back (m + n) := by
  refine eq_of_entries_eq (by simp) ?_
  cases hi : h.index? with
  | none => simp [hi]
  | some i =>
    simp only [index?_back, hi, Option.map_some, Option.some.injEq]
    omega

theorem forth_forth (m n : Nat) (h : History σ) : (h.forth m).forth n = h.forth (m + n) := by
  refine eq_of_entries_eq (by simp) ?_
  cases hi : h.index? with
  | none => simp [hi]
  | some i =>
    simp only [index?_forth, size_forth, hi, Option.map_some, Option.some.injEq]
    omega

/-- Going back, counts that are cut off at the first checkpoint lead to the same place. -/
theorem back_congr {i m n : Nat} (hi : h.index? = some i) (hmn : i - m = i - n) :
    h.back m = h.back n := by
  refine eq_of_entries_eq (by simp) ?_
  simp only [index?_back, hi, Option.map_some, hmn]

/-- So do counts as large as the line, going on. -/
theorem forth_congr {m n : Nat} (hmn : m = n ∨ h.size ≤ min m n) : h.forth m = h.forth n := by
  refine eq_of_entries_eq (by simp) ?_
  cases hi : h.index? with
  | none => simp [hi]
  | some i =>
    simp only [index?_forth, hi, Option.map_some, Option.some.injEq]
    omega

/-- **Going on as often as going back led anywhere returns to where it began.** -/
theorem forth_back {i : Nat} (hi : h.index? = some i) (n : Nat) :
    (h.back n).forth (min n i) = h := by
  have hlt := lt_size_of_index? hi
  refine eq_of_entries_eq (by simp) ?_
  simp only [index?_forth, index?_back, size_back, hi, Option.map_some, Option.some.injEq]
  omega

/-- With the live text current, undo has nothing to keep. -/
theorem keepLive_of_currentBuffer? [DecidableEq σ] {live : Checkpoint σ}
    (hc : h.currentBuffer? = some live.buffer) : h.keepLive live = h := by
  unfold keepLive
  split
  · rename_i c hcur
    rw [currentBuffer?, hcur] at hc
    exact if_pos (Option.some.inj hc)
  · rfl

end History

namespace Editor

/-! ### Moves along the line -/

/-- The line that undo starts from: the current checkpoint has the live text. -/
def kept (e : Editor) : History Snapshot := e.history.keepLive ⟨e.buffer, e.snapshot⟩

/-- Whether undo has a checkpoint to bring back. -/
def canUndo (e : Editor) : Bool := (e.history.undo ⟨e.buffer, e.snapshot⟩ e.count).2.isSome

/-- **A move along the line**, from one place on it to another. -/
def travel (e : Editor) (h h' : History Snapshot) : Editor :=
  (e.dropCounts.goTo h' (h.arrival? h')).clampCursor

/-- **A command may start**: nothing is half typed, not even a count, and nothing is recorded. -/
structure Rests (e : Editor) : Prop where
  /-- The mode. -/
  mode : e.mode = .normal
  /-- No command is half typed. -/
  waiting : e.waiting = false
  /-- No macro is being recorded. -/
  recording : e.recording = none
  /-- No count stands before an operator. -/
  operatorCount : e.operatorCount = none
  /-- Nor is one being typed. -/
  repeatCount : e.repeatCount = none

variable {e : Editor} {h h' h'' : History Snapshot}

theorem Rests.count_eq_one (hr : e.Rests) : e.count = 1 := by
  rw [count_of_operatorCount hr.operatorCount, hr.repeatCount]
  rfl

theorem Rests.travel (hr : e.Rests) (h h' : History Snapshot) : (e.travel h h').Rests := by
  unfold Editor.travel
  cases h.arrival? h' <;> exact ⟨hr.mode, hr.waiting, hr.recording, rfl, rfl⟩

theorem history_travel (e : Editor) (h h' : History Snapshot) : (e.travel h h').history = h' :=
  history_goTo e.dropCounts h' _

theorem buffer_travel (e : Editor) (h h' : History Snapshot) :
    (e.travel h h').buffer = ((h.arrival? h').map (·.buffer)).getD e.buffer :=
  buffer_goTo e.dropCounts h' _

theorem travel_self (hr : e.Rests) (he : e.clampCursor = e) : e.travel e.history e.history = e := by
  have hdrop : e.dropCounts = e := dropCounts_eq hr.operatorCount hr.repeatCount
  have harrival : e.history.arrival? e.history = none := if_pos rfl
  rw [travel, harrival, hdrop]
  exact he

/-- **One move after another** is one move, if the two together lead nowhere only where the first
does. -/
theorem travel_travel (he : h'.entries = h.entries) (he' : h''.entries = h.entries)
    (hi : h.index? = h''.index? → h.index? = h'.index?) :
    (e.travel h h').travel h' h'' = e.travel h h'' := by
  by_cases hsame : h'.index? = h''.index?
  · obtain rfl := History.eq_of_entries_eq (he.trans he'.symm) hsame
    have harrival : h'.arrival? h' = none := if_pos rfl
    unfold travel
    rw [harrival]
    cases h.arrival? h' <;> exact clampCursor_clampCursor _
  · have hmoved : h.index? ≠ h''.index? := fun hnone => hsame ((hi hnone).symm.trans hnone)
    obtain ⟨c, hcur, harrival⟩ := History.exists_arrival_of_ne (he'.trans he.symm) hsame
    obtain ⟨c', hcur', harrival'⟩ := History.exists_arrival_of_ne he' hmoved
    obtain rfl : c = c' := Option.some.inj (hcur.symm.trans hcur')
    simp only [travel, harrival, harrival']
    cases h.arrival? h' <;> rfl

/-- A move from the live text brings back the text of the place that it leads to. -/
theorem currentBuffer?_travel (he : h'.entries = h.entries)
    (hc : h.currentBuffer? = some e.buffer) : h'.currentBuffer? = some (e.travel h h').buffer := by
  rw [buffer_travel]
  exact History.currentBuffer?_arrival he hc

/-- After it, undo starts from that place. -/
theorem kept_travel (he : h'.entries = h.entries) (hc : h.currentBuffer? = some e.buffer) :
    (e.travel h h').kept = h' := by
  rw [kept, history_travel]
  exact History.keepLive_of_currentBuffer? (currentBuffer?_travel he hc)

theorem canUndo_iff (hr : e.Rests) {i : Nat} (hi : e.kept.index? = some i) :
    e.canUndo = true ↔ 0 < i := by
  have hindex : (e.kept.back 1).index? = some (i - 1) := by
    rw [History.index?_back, hi, Option.map_some]
  have hundo : e.canUndo = (e.kept.arrival? (e.kept.back 1)).isSome := by
    rw [← hr.count_eq_one]
    rfl
  rw [hundo]
  by_cases hzero : i = 0
  · have hnone : e.kept.arrival? (e.kept.back 1) = none := if_pos (by rw [hi, hindex, hzero])
    simp [hnone, hzero]
  · have hne : e.kept.index? ≠ (e.kept.back 1).index? := by
      rw [hi, hindex, ne_eq, Option.some.injEq]
      omega
    obtain ⟨c, -, harrival⟩ := History.exists_arrival_of_ne (History.entries_back 1 e.kept) hne
    rw [harrival]
    exact iff_of_true rfl (Nat.pos_of_ne_zero hzero)

/-! ### Keys -/

section Keys

variable (settings : Settings)

theorem after_concat_undo (keys : List Key) {e₁ : Editor} (h : e.after settings keys = e₁)
    (hm : e₁.mode = .normal) (hw : e₁.waiting = false) (hrec : e₁.recording = none) :
    e.after settings (keys ++ [.char 'u']) = e₁.travel e₁.kept (e₁.kept.back e₁.count) := by
  have hpress : ((e.after settings keys).capture (.char 'u')).press settings (.char 'u') =
      .done e₁.undo := by
    rw [h, capture_of_none hrec]
    exact press_undo hm hw settings
  exact after_concat_of_done hpress

theorem after_concat_redo (keys : List Key) {e₁ : Editor} (h : e.after settings keys = e₁)
    (hm : e₁.mode = .normal) (hw : e₁.waiting = false) (hrec : e₁.recording = none) :
    e.after settings (keys ++ [.ctrlR]) =
      e₁.travel e₁.history (e₁.history.forth e₁.count) := by
  have hpress : ((e.after settings keys).capture .ctrlR).press settings .ctrlR =
      .done e₁.redo := by
    rw [h, capture_of_none hrec]
    exact press_redo hm hw settings
  exact after_concat_of_done hpress

/-- **Undo, pressed again and again**, goes back along the line that the first press leaves: only
that one can have a live text to keep. -/
theorem after_undos (hr : e.Rests) (hc : e.kept.currentBuffer? = some e.buffer) (n : Nat) :
    e.after settings (List.replicate (n + 1) (.char 'u')) =
      e.travel e.kept (e.kept.back (n + 1)) := by
  induction n with
  | zero =>
    have hnone : e.after settings [] = e := rfl
    have hone := after_concat_undo settings [] hnone hr.mode hr.waiting hr.recording
    rwa [hr.count_eq_one] at hone
  | succ n ih =>
    have hr' := hr.travel e.kept (e.kept.back (n + 1))
    have hentries (m : Nat) : (e.kept.back m).entries = e.kept.entries := History.entries_back m _
    rw [List.replicate_succ', after_concat_undo settings _ ih hr'.mode hr'.waiting hr'.recording,
      hr'.count_eq_one, kept_travel (hentries _) hc, History.back_back]
    refine travel_travel (hentries _) (hentries _) ?_
    rw [History.index?_back, History.index?_back]
    cases e.kept.index? with
    | none => exact fun _ => rfl
    | some i =>
      simp only [Option.map_some, Option.some.injEq]
      omega

theorem kept_after_undos (hr : e.Rests) (hc : e.kept.currentBuffer? = some e.buffer) (n : Nat) :
    (e.after settings (List.replicate n (.char 'u'))).Rests ∧
      (e.after settings (List.replicate n (.char 'u'))).kept = e.kept.back n := by
  cases n with
  | zero => exact ⟨hr, (History.back_zero _).symm⟩
  | succ n =>
    rw [after_undos settings hr hc]
    exact ⟨hr.travel _ _, kept_travel (History.entries_back _ _) hc⟩

/-- **Redo, pressed again and again**, goes on along the line. -/
theorem after_append_redos (keys : List Key) {e₁ : Editor} (h : e.after settings keys = e₁)
    (hr : e₁.Rests) (he₁ : e₁.clampCursor = e₁) (n : Nat) :
    e.after settings (keys ++ List.replicate n .ctrlR) =
      e₁.travel e₁.history (e₁.history.forth n) := by
  induction n with
  | zero =>
    rw [List.replicate_zero, List.append_nil, h, History.forth_zero, travel_self hr he₁]
  | succ n ih =>
    have hr' := hr.travel e₁.history (e₁.history.forth n)
    have hentries (m : Nat) : (e₁.history.forth m).entries = e₁.history.entries :=
      History.entries_forth m _
    rw [List.replicate_succ', ← List.append_assoc,
      after_concat_redo settings _ ih hr'.mode hr'.waiting hr'.recording, hr'.count_eq_one,
      history_travel, History.forth_forth]
    refine travel_travel (hentries _) (hentries _) ?_
    rw [History.index?_forth, History.index?_forth]
    cases hi : e₁.history.index? with
    | none => exact fun _ => rfl
    | some i =>
      have hlt := History.lt_size_of_index? hi
      simp only [Option.map_some, Option.some.injEq]
      omega

/-- How many presses of undo bring back a checkpoint: as many as there are before the first one. -/
theorem countP_canUndo (hr : e.Rests) (hc : e.kept.currentBuffer? = some e.buffer) {i : Nat}
    (hi : e.kept.index? = some i) (n : Nat) :
    (List.range n).countP (fun k =>
      (e.after settings (List.replicate k (.char 'u'))).canUndo) = min n i := by
  induction n with
  | zero => rw [List.range_zero, List.countP_nil, Nat.zero_min]
  | succ n ih =>
    obtain ⟨hrests, hkept⟩ := kept_after_undos settings hr hc n
    have hindex : (e.after settings (List.replicate n (.char 'u'))).kept.index? = some (i - n) := by
      rw [hkept, History.index?_back, hi, Option.map_some]
    have hcan := canUndo_iff hrests hindex
    rw [List.range_succ, List.countP_append, ih, List.countP_singleton]
    split
    · have hpos := hcan.1 ‹_›
      omega
    · have hzero := mt hcan.2 ‹_›
      omega

/-- **Redo returns from a row of undos**, when it is pressed as often as they led anywhere. -/
theorem buffer_after_undos_redos (hr : e.Rests) (hc : e.kept.currentBuffer? = some e.buffer)
    {i : Nat} (hi : e.kept.index? = some i) (n : Nat) :
    (e.after settings (List.replicate (n + 1) (.char 'u') ++
      List.replicate (min (n + 1) i) .ctrlR)).buffer = e.buffer := by
  have hentries := History.entries_back (n + 1) e.kept
  have hundos := after_undos settings hr hc n
  let e₁ := e.travel e.kept (e.kept.back (n + 1))
  have he₁ : e₁.clampCursor = e₁ := clampCursor_clampCursor _
  have hlive : (e.kept.back (n + 1)).currentBuffer? = some e₁.buffer :=
    currentBuffer?_travel hentries hc
  rw [after_append_redos settings _ hundos (hr.travel _ _) he₁, history_travel, History.forth_back hi]
  have hback := currentBuffer?_travel hentries.symm hlive
  rw [hc] at hback
  exact (Option.some.inj hback).symm

end Keys

/-! ### What is left alone -/

/-- **What undo leaves alone is the same**: registers, marks, the recording and the mode. -/
structure Undisturbed (e e' : Editor) : Prop where
  /-- The registers. -/
  registers : e'.registers = e.registers
  /-- The marks. -/
  marks : e'.marks = e.marks
  /-- The recording. -/
  recording : e'.recording = e.recording
  /-- The mode. -/
  mode : e'.mode = e.mode

theorem Undisturbed.trans {e₁ e₂ : Editor} (h : Undisturbed e e₁) (h' : Undisturbed e₁ e₂) :
    Undisturbed e e₂ :=
  ⟨h'.registers.trans h.registers, h'.marks.trans h.marks, h'.recording.trans h.recording,
    h'.mode.trans h.mode⟩

theorem undisturbed_goTo (e : Editor) (h : History Snapshot) (c? : Option (Checkpoint Snapshot)) :
    Undisturbed e (e.dropCounts.goTo h c?) := by
  cases c? <;> exact ⟨rfl, rfl, rfl, rfl⟩

end Editor

/-- Whether a key is typed to undo and redo: a digit of a count, or one of the two commands. -/
def Key.retraces : Key → Bool
  | .char c => c.isDigit || c == 'u'
  | .ctrlR => true
  | .escape | .ctrlC | .backspace | .enter | .ctrlV => false

namespace Editor

variable {e : Editor}

theorem undisturbed_press_digit (hm : e.mode = .normal) (hw : e.waiting = false)
    (settings : Settings) {c : Char} (hc : c.isDigit = true) :
    ∃ e', e.press settings (.char c) = .done e' ∧ Undisturbed e e' ∧ e'.waiting = false := by
  have hk := continuation_of_not_waiting hw
  have hop := operator_of_not_waiting hw
  cases hcount : e.countDigit? (.char c) with
  | some d => exact ⟨_, press_digit (.inl hm) hk settings hcount, ⟨rfl, rfl, rfl, rfl⟩, hw⟩
  | none =>
    obtain rfl : c = '0' := by
      refine Decidable.byContradiction fun hne => ?_
      simp [countDigit?, hne, hc] at hcount
    have hpress : e.press settings (.char '0') = .done (e.reach e.rowStartTarget) := by
      rw [press_of_modeKey settings rfl (.inl hk), continued_of_none hk,
        modeKey_of_motionKey? (.inl hm) settings hcount rfl]
    obtain ⟨cursor, modifier, selected, hreach⟩ := reach_of_no_operator hop e.rowStartTarget
    refine ⟨_, hpress, ?_⟩
    rw [hreach]
    exact ⟨⟨rfl, rfl, rfl, rfl⟩, hw⟩

/-- Undo, redo and the digits of their counts leave registers, marks, the recording and the mode
alone. -/
theorem undisturbed_press (hm : e.mode = .normal) (hw : e.waiting = false) (settings : Settings)
    {key : Key} (hkey : key.retraces = true) :
    ∃ e', e.press settings key = .done e' ∧ Undisturbed e e' ∧ e'.waiting = false := by
  have hwaits (h : History Snapshot) (c? : Option (Checkpoint Snapshot)) :
      (e.dropCounts.goTo h c?).waiting = false := by
    cases c? <;> exact hw
  cases key with
  | char c =>
    rw [Key.retraces, Bool.or_eq_true, beq_iff_eq] at hkey
    rcases hkey with hc | rfl
    · exact undisturbed_press_digit hm hw settings hc
    · exact ⟨_, press_undo hm hw settings, undisturbed_goTo e _ _, hwaits _ _⟩
  | ctrlR => exact ⟨_, press_redo hm hw settings, undisturbed_goTo e _ _, hwaits _ _⟩
  | escape | ctrlC | backspace | enter | ctrlV => exact absurd hkey (by decide)

/-- However they are mixed: none of them plays a macro, so each may have a call of its own. -/
theorem undisturbed_after (hm : e.mode = .normal) (hw : e.waiting = false)
    (hrec : e.recording = none) (settings : Settings) {keys : List Key}
    (hkeys : ∀ key ∈ keys, key.retraces = true) : Undisturbed e (e.after settings keys) := by
  induction keys generalizing e with
  | nil => exact ⟨rfl, rfl, rfl, rfl⟩
  | cons key keys ih =>
    obtain ⟨hkey, hrest⟩ := List.forall_mem_cons.1 hkeys
    obtain ⟨e', hpress, hsame, hw'⟩ := undisturbed_press hm hw settings hkey
    rw [← capture_of_none hrec key] at hpress
    rw [after_cons_of_done hpress, after_singleton_of_done hpress]
    have hclamped : Undisturbed e e'.clampCursor := ⟨hsame.1, hsame.2, hsame.3, hsame.4⟩
    exact hclamped.trans
      (ih (hsame.mode.trans hm) hw' (hsame.recording.trans hrec) hrest)

/-! ### Counts -/

/-- **Counted undo and redo go along a line.** Wherever a run has led to, in normal mode with
nothing half typed and no macro being recorded: undo with a count leaves the same text and the same
state as so many presses of undo, and so it is with redo. As many presses of redo as there were
presses of undo that brought back a checkpoint then bring back the text from before the first of
them. None of these keys, in whatever order, changes a register, a mark, the recording or the mode.
The count is one that can be held, or else the history is shorter than the largest that can. -/
theorem counted_undo_redo {b : Buffer} (he : Reachable b e) (hm : e.mode = .normal)
    (hw : e.waiting = false) (hn : e.repeatCount = none) (hrec : e.recording = none)
    (settings : Settings) (digits : Text) (hd : digits.all Char.isDigit = true)
    (hz : digits.head? ≠ some '0') (hpos : 0 < ofDigits digits)
    (hfits : ofDigits digits ≤ maxCount ∨ e.history.size < maxCount) :
    let n := ofDigits digits
    let count := digits.map Key.char
    let undos (k : Nat) : List Key := List.replicate k (.char 'u')
    let redos (k : Nat) : List Key := List.replicate k .ctrlR
    let restored := (List.range n).countP fun k => (e.after settings (undos k)).canUndo
    e.after settings (count ++ [.char 'u']) = e.after settings (undos n) ∧
      e.after settings (count ++ [.ctrlR]) = e.after settings (redos n) ∧
      (e.after settings (undos n ++ redos restored)).buffer = e.buffer ∧
      ∀ keys : List Key, (∀ key ∈ keys, key.retraces = true) →
        Undisturbed e (e.after settings keys) := by
  intro n count undos redos restored
  have hclamped := he.clampCursor_eq
  have hk := continuation_of_not_waiting hw
  have hnone : e.operatorCount = none :=
    he.traceable.orderly.operatorCount_eq_none (operator_of_not_waiting hw)
  have hr : e.Rests := ⟨hm, hw, hrec, hnone, hn⟩
  have hlive : e.kept.currentBuffer? = some e.buffer :=
    History.currentBuffer?_keepLive he.traceable.anchored he.traceable.history_ne_empty _
  have hsize : e.kept.size ≤ e.history.size + 1 := History.size_keepLive_le _ _
  obtain ⟨i, hi⟩ := History.exists_index_of_currentBuffer? hlive
  have hlt := History.lt_size_of_index? hi
  obtain ⟨k, hsucc⟩ : ∃ k, n = k + 1 := Nat.exists_eq_add_one.2 hpos
  have hundos : e.after settings (undos n) = e.travel e.kept (e.kept.back n) := by
    rw [hsucc]
    exact after_undos settings hr hlive k
  have hredos : e.after settings (redos n) = e.travel e.history (e.history.forth n) :=
    after_append_redos settings [] rfl hr hclamped n
  let e₁ : Editor := { e with repeatCount := typedCount? digits }
  have hcounted : e.after settings count = e₁ := by
    have hafter := after_count settings hclamped (.inl hm) hk hrec hn hd hz []
    rwa [List.append_nil] at hafter
  have hcount : e₁.count = min n maxCount := by
    have hdigits : digits.isEmpty ≠ true := by
      intro hnil
      rw [List.isEmpty_iff.1 hnil] at hpos
      exact Nat.lt_irrefl 0 hpos
    rw [count_of_operatorCount (e := e₁) hnone, getD_typedCount?, if_neg hdigits]
  refine ⟨?_, ?_, ?_, fun keys hkeys => undisturbed_after hm hw hrec settings hkeys⟩
  · rw [hundos, ← History.back_congr hi (m := min n maxCount) (by omega), ← hcount]
    exact after_concat_undo settings count hcounted hm hw hrec
  · rw [hredos, ← History.forth_congr (m := min n maxCount) (by omega), ← hcount]
    exact after_concat_redo settings count hcounted hm hw hrec
  · have hrestored : restored = min n i := countP_canUndo settings hr hlive hi n
    rw [hrestored, hsucc]
    exact buffer_after_undos_redos settings hr hlive hi k

/-- The first of three undos keeps the live text, and the third has nowhere to go. -/
theorem counted_undo_redo_past_first :
    ∃ e : Editor, Reachable ⟨['a', 'b', 'c']⟩ e ∧ e.history.size = 2 ∧
      (e.after {} [.char '3', .char 'u']).history.size = 3 ∧
      e.after {} [.char '3', .char 'u'] = e.after {} [.char 'u', .char 'u', .char 'u'] ∧
      e.after {} [.char '3', .ctrlR] = e.after {} [.ctrlR, .ctrlR, .ctrlR] ∧
      (e.after {} [.char 'u', .char 'u', .char 'u', .ctrlR, .ctrlR]).buffer = e.buffer ∧
      Undisturbed e (e.after {} [.char '3', .char 'u']) := by
  have he : Reachable ⟨['a', 'b', 'c']⟩ _ := .first {} [.char 'x', .char 'x']
  obtain ⟨hundo, hredo, hback, hsame⟩ := counted_undo_redo he (by decide +kernel)
    (by decide +kernel) (by decide +kernel) (by decide +kernel) {} ['3'] (by decide) (by decide)
    (by decide) (.inl (by decide))
  exact ⟨_, he, by decide +kernel, by decide +kernel, hundo, hredo, hback, hsame _ (by decide)⟩

end Editor

end ModalEditor
