import ModalEditor.Proofs.Runs

/-!
# Half-typed commands

What the keys typed so far have left open: the mode, the parts of a command that wait for a motion,
the command that waits for its second key, and the lines being typed. `Control.Orderly` says which
of these can stand together. It is kept by all that keys do to them: counts are dropped, a selection
is begun or ended, an operator is applied, an insert session is begun.
-/

namespace ModalEditor

/-- Whether the second key completes a motion, so that an operator may be pending meanwhile. -/
def Continuation.opensMotion : Continuation → Bool
  | findChar _ | toChar _ | jumpToMark | gotoPrefix => true
  | _ => false

namespace LineInput

theorem atEnd_insert {l : LineInput} (h : l.cursor = l.text.length) (c : Char) :
    (l.insert c).cursor = (l.insert c).text.length := by
  simp [insert_of_atEnd h]

theorem atEnd_backspace {l : LineInput} (h : l.cursor = l.text.length) :
    l.backspace.cursor = l.backspace.text.length := by
  simp [backspace_of_atEnd h]

end LineInput

/-- What the keys typed so far have left open. -/
structure Control extends Pending where
  /-- What keys mean. -/
  mode : Mode
  /-- The command that waits for its second key. -/
  continuation : Option Continuation
  /-- Whether leaving insert mode moves the cursor back. -/
  insertAppend : Bool
  /-- Whether a selection has an anchor. -/
  anchored : Bool
  /-- The search query being typed. -/
  searchQuery : LineInput
  /-- The command line being typed. -/
  commandQuery : LineInput
  deriving DecidableEq

namespace Control

/-- Forgets the counts. -/
def dropCounts (c : Control) : Control := { c with operatorCount := none, repeatCount := none }

/-- Forgets the operator, its modifier and the counts. -/
def clearPending (c : Control) : Control := { c with toPending := {} }

/-- Goes to insert mode. -/
def enterInsert (c : Control) : Control := { c with mode := .insert, insertAppend := true }

/-- What is left after an operator has been applied. -/
def operated (c : Control) (op : Option Operator) : Control :=
  let c := { c with operator := none, modifier := none }
  if op = some .change then c.enterInsert else c

/-- Whether a command is half typed: an operator without its motion, the first of two keys, a query,
a command line or an insert session. -/
def waiting (c : Control) : Bool :=
  c.operator.isSome || c.continuation.isSome || c.mode.isLineInput || c.mode == .insert

theorem waiting_clearPending {c : Control} (hk : c.continuation = none)
    (hm : c.mode = .normal ∨ c.mode.isVisual = true) : c.clearPending.waiting = false := by
  rcases hm with hm | hm
  · simp [waiting, clearPending, hk, hm, Mode.isLineInput]
  · cases hmode : c.mode <;> simp_all [waiting, clearPending, Mode.isLineInput, Mode.isVisual]

theorem waiting_operated {c : Control} (hk : c.continuation = none)
    (hm : c.mode = .normal ∨ c.mode.isVisual = true) {op : Option Operator}
    (hop : op ≠ some .change) : (c.operated op).waiting = false := by
  have hw := waiting_clearPending hk hm
  simpa [operated, hop, waiting, clearPending] using hw

/-- **What can be left open together.** -/
structure Orderly (c : Control) : Prop where
  /-- Only an operator has a modifier. -/
  modifier : c.modifier.isSome = true → c.operator.isSome = true ∧ c.mode = .normal
  /-- The first count belongs to an operator. -/
  operatorCount : c.operatorCount.isSome = true → c.operator.isSome = true
  /-- An operator waits for a motion, which a search may be. -/
  operator : c.operator.isSome = true → c.mode = .normal ∨ c.mode = .search
  /-- Only commands and motions wait for a second key, and under an operator only motions. -/
  continuation : ∀ k, c.continuation = some k →
    c.mode = .normal ∧ (k.opensMotion = true ∨ c.operator = none) ∨
      c.mode.isVisual = true ∧ (k.opensMotion = true ∨ k = .setRegister)
  /-- A count is never zero. -/
  repeatCount_ne_zero : c.repeatCount ≠ some 0
  /-- Neither is the count before an operator. -/
  operatorCount_ne_zero : c.operatorCount ≠ some 0
  /-- Insert mode is left with a step back. -/
  insertAppend : c.insertAppend = true ↔ c.mode = .insert
  /-- Typed text takes no count. -/
  typing : c.mode = .insert ∨ c.mode = .commandLine → c.repeatCount = none
  /-- A selection has an anchor. -/
  anchored : c.mode.isVisual = true → c.anchored = true
  /-- A query is only typed in search mode. -/
  searchQuery : c.mode ≠ .search → c.searchQuery = {}
  /-- A command line is only typed in its mode. -/
  commandQuery : c.mode ≠ .commandLine → c.commandQuery = {}
  /-- A query is typed at its end. -/
  searchQuery_atEnd : c.searchQuery.cursor = c.searchQuery.text.length
  /-- So is a command line. -/
  commandQuery_atEnd : c.commandQuery.cursor = c.commandQuery.text.length

namespace Orderly

variable {c : Control}

/-- Only where motions are typed, or a query, can an operator be pending. -/
theorem operator_eq_none (h : c.Orderly) (hn : c.mode ≠ .normal) (hs : c.mode ≠ .search) :
    c.operator = none := by
  cases hop : c.operator with
  | none => rfl
  | some op =>
    rcases h.operator (by simp [hop]) with hm | hm
    · exact absurd hm hn
    · exact absurd hm hs

/-- Without an operator there is only one count. -/
theorem operatorCount_eq_none (h : c.Orderly) (hop : c.operator = none) :
    c.operatorCount = none := by
  cases hn : c.operatorCount with
  | none => rfl
  | some n => simpa [hop] using h.operatorCount (by simp [hn])

/-- Without an operator there is no modifier. -/
theorem modifier_eq_none (h : c.Orderly) (hop : c.operator = none) : c.modifier = none := by
  cases hm : c.modifier with
  | none => rfl
  | some m => simpa [hop] using (h.modifier (by simp [hm])).1

/-- Only where commands and motions are typed can a second key be waited for. -/
theorem continuation_eq_none (h : c.Orderly) (hn : c.mode ≠ .normal)
    (hv : c.mode.isVisual = false) : c.continuation = none := by
  cases hk : c.continuation with
  | none => rfl
  | some k =>
    rcases h.continuation k hk with ⟨hm, -⟩ | ⟨hm, -⟩
    · exact absurd hm hn
    · simp [hv] at hm

theorem rest : Orderly ⟨{}, .normal, none, false, false, {}, {}⟩ := by
  constructor <;> simp [Mode.isVisual]

theorem dropCounts (h : c.Orderly) : c.dropCounts.Orderly :=
  { h with
    operatorCount := by simp [Control.dropCounts]
    repeatCount_ne_zero := by simp [Control.dropCounts]
    operatorCount_ne_zero := by simp [Control.dropCounts]
    typing := fun _ => rfl }

theorem clearPending (h : c.Orderly) : c.clearPending.Orderly :=
  { h with
    modifier := by simp [Control.clearPending]
    operatorCount := by simp [Control.clearPending]
    operator := by simp [Control.clearPending]
    continuation := fun k hk => (h.continuation k hk).imp (fun hn => ⟨hn.1, .inr rfl⟩) id
    repeatCount_ne_zero := by simp [Control.clearPending]
    operatorCount_ne_zero := by simp [Control.clearPending]
    typing := fun _ => rfl }

theorem continued (h : c.Orderly) : Orderly { c with continuation := none } :=
  { h with continuation := by simp }

/-- A selection starts, changes its shape or ends, with nothing pending. -/
theorem toggled (h : c.Orderly) (hk : c.continuation = none) (hi : c.mode ≠ .insert)
    (hs : c.mode ≠ .search) (hl : c.mode ≠ .commandLine) {m : Mode} {anchored : Bool}
    (hm : m = .normal ∨ m.isVisual = true ∧ anchored = true) :
    Orderly { c.clearPending with mode := m, anchored := anchored } := by
  have happ : c.insertAppend = false := by simpa [hi] using h.insertAppend
  have hmi : m ≠ .insert := by
    rintro rfl
    simp [Mode.isVisual] at hm
  exact { h.clearPending with
    modifier := by simp [Control.clearPending]
    operator := by simp [Control.clearPending]
    continuation := by simp [Control.clearPending, hk]
    insertAppend := by simp [Control.clearPending, happ, hmi]
    typing := fun _ => rfl
    anchored := by
      rintro hv
      rcases hm with rfl | hm
      · simp [Mode.isVisual] at hv
      · exact hm.2
    searchQuery := fun _ => h.searchQuery hs
    commandQuery := fun _ => h.commandQuery hl }

/-- Insert mode is entered with nothing pending. -/
theorem enterInsert (h : c.Orderly) (hk : c.continuation = none) (hop : c.operator = none)
    (hn : c.repeatCount = none) (hs : c.mode ≠ .search) (hl : c.mode ≠ .commandLine) :
    c.enterInsert.Orderly :=
  { h with
    modifier := fun hm => absurd (h.modifier hm).1 (by simp [hop])
    operator := by simp [Control.enterInsert, hop]
    continuation := by simp [Control.enterInsert, hk]
    insertAppend := by simp [Control.enterInsert]
    typing := fun _ => hn
    anchored := by simp [Control.enterInsert, Mode.isVisual]
    searchQuery := fun _ => h.searchQuery hs
    commandQuery := fun _ => h.commandQuery hl }

theorem operated (h : c.Orderly) (hk : c.continuation = none) (hn : c.operatorCount = none)
    (hr : c.repeatCount = none) (hs : c.mode ≠ .search) (hl : c.mode ≠ .commandLine)
    (op : Option Operator) : (c.operated op).Orderly := by
  have hnone : Orderly { c with operator := none, modifier := none } :=
    { h with
      modifier := by simp
      operatorCount := by simp [hn]
      operator := by simp
      continuation := by simp [hk] }
  unfold Control.operated
  split
  · exact hnone.enterInsert hk rfl hr hs hl
  · exact hnone

end Orderly

end Control

end ModalEditor
