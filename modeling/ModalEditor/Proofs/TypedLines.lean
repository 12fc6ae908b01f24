import ModalEditor.Proofs.SearchProgress

/-!
# Lines that are typed

A command line and a query are edited alike. Their cursor is always at the end, so the line is no
more than a stack of characters: a character is put on top, a backspace takes the top away if there
is one, and no other key of those that keep the line open does anything (`foldl_edit_ofStack`).

`Editor.typed_lines` says what becomes of the text that has been stacked up. A command line is kept
for the host and nothing else happens; a query goes to the search register and what it is compiled
to is searched for from the cursor (`Editor.SearchedFor`).
-/

namespace ModalEditor

/-! ### Stacks of characters -/

/-- What a key does to a stack of characters, the top first. -/
def Key.stack (s : Text) : Key → Text
  | .char c => c :: s
  | .backspace => s.tail
  | _ => s

/-- The text that keys stack up. -/
def typedText (keys : List Key) : Text := (keys.foldl Key.stack []).reverse

namespace LineInput

/-- The line that a stack stands for. The cursor is at its end. -/
def ofStack (s : Text) : LineInput := ⟨s.reverse, s.length⟩

/-- **A key does to a line what it does to its stack.** -/
theorem edit_ofStack (s : Text) (key : Key) : (ofStack s).edit key = ofStack (key.stack s) := by
  have hend : (ofStack s).cursor = (ofStack s).text.length := s.length_reverse.symm
  cases key with
  | char c =>
    calc
      (ofStack s).insert c = ⟨s.reverse ++ [c], s.reverse.length + 1⟩ := insert_of_atEnd hend c
      _ = ⟨(c :: s).reverse, s.length + 1⟩ := by rw [List.reverse_cons, List.length_reverse]
  | backspace =>
    calc
      (ofStack s).backspace = ⟨s.reverse.dropLast, s.reverse.length - 1⟩ := backspace_of_atEnd hend
      _ = ⟨s.tail.reverse, s.tail.length⟩ := by
        rw [List.dropLast_reverse, List.length_reverse, List.length_tail]
  | _ => rfl

theorem foldl_edit_ofStack (keys : List Key) (s : Text) :
    keys.foldl edit (ofStack s) = ofStack (keys.foldl Key.stack s) := by
  induction keys generalizing s with
  | nil => rfl
  | cons key keys ih => rw [List.foldl_cons, edit_ofStack, ih, List.foldl_cons]

/-- The line that keys make. -/
theorem foldl_edit (keys : List Key) :
    keys.foldl edit {} = ⟨typedText keys, (typedText keys).length⟩ := by
  rw [typedText, List.length_reverse]
  exact foldl_edit_ofStack keys []

end LineInput

theorem Query.text_eq (q : Query) : q.text = typedText q.keys :=
  congrArg LineInput.text (LineInput.foldl_edit q.keys)

theorem Buffer.findNth_one (b : Buffer) (p : SearchPattern) (d : Direction) (offset : Nat) :
    b.findNth p d 1 offset = b.findTowards p d offset := by
  unfold findNth
  cases b.findTowards p d offset <;> rfl

namespace Editor

variable {b : Buffer} {e : Editor} {settings : Settings} {d : Direction} {t : Text}

/-! ### Command lines -/

/-- The keys of a command line only change it. The induction is on the keys, with the cursor in
order after each of them. -/
theorem after_commandLine_append (he : e.clampCursor = e) (hm : e.mode = .commandLine)
    (hk : e.continuation = none) (hrec : e.recording = none) (settings : Settings)
    {keys : List Key} (hkeys : ∀ key ∈ keys, key ≠ .enter ∧ key.isEscape = false)
    (rest : List Key) :
    e.after settings (keys ++ rest) =
      ({ e with commandQuery := keys.foldl LineInput.edit e.commandQuery } : Editor).after settings
        rest := by
  induction keys generalizing e with
  | nil => rfl
  | cons key keys ih =>
    obtain ⟨⟨henter, hesc⟩, hrest⟩ := List.forall_mem_cons.1 hkeys
    let e₁ : Editor := { e with commandQuery := e.commandQuery.edit key }
    have hpress : e.press settings key = .done e₁ := by
      rw [press_of_modeKey settings hesc (.inl hk), continued_of_none hk]
      unfold modeKey
      rw [hm]
      cases key with
      | enter => exact absurd rfl henter
      | _ => rfl
    have hclamped : e₁.clampCursor = e₁ := clampCursor_of_eq he rfl rfl rfl
    rw [List.cons_append, after_cons_of_press hrec hpress hclamped, ih hclamped hm hk hrec hrest]
    rfl

/-- **A command line is kept**, and nothing else happens. -/
theorem after_commandLine (he : e.clampCursor = e) (ho : e.control.Orderly) (hm : e.mode = .normal)
    (hw : e.waiting = false) (hn : e.repeatCount = none) (hrec : e.recording = none)
    (settings : Settings) (q : Query) :
    e.after settings (.char ':' :: q.keys ++ [.enter]) =
      { e with lastCommand := some q.text } := by
  have hk := continuation_of_not_waiting hw
  have hcommand : e.commandQuery = {} := ho.commandQuery (by simp [control, hm])
  let e₁ : Editor := { e with mode := .commandLine, commandQuery := {}, repeatCount := none }
  have hbegin : e.press settings (.char ':') = .done e₁ :=
    press_command hm hk (operator_of_not_waiting hw) settings (by decide) rfl rfl (by decide)
  have hclamped : e₁.clampCursor = e₁ :=
    clampCursor_of_agree he rfl rfl (congrArg Mode.cursorPastEnd hm).symm
  let e₂ : Editor := { e₁ with commandQuery := q.line }
  have henter : e₂.press settings .enter = .done (e₂.commandLineKey .enter) := by
    rw [press_of_modeKey (e := e₂) settings (show Key.enter.isEscape = false from rfl) (.inl hk),
      continued_of_none (e := e₂) hk]
    rfl
  have hsame : e₂.commandLineKey .enter = { e with lastCommand := some q.text } := by
    have hidle : ({ e with mode := .normal, commandQuery := {}, repeatCount := none } : Editor) =
        e := by
      rw [← hm, ← hcommand, ← hn]
    exact congrArg (fun e : Editor => ({ e with lastCommand := some q.text } : Editor)) hidle
  rw [List.cons_append, after_cons_of_press hrec hbegin hclamped,
    after_commandLine_append hclamped rfl hk hrec settings q.goes_on]
  show e₂.after settings [.enter] = _
  rw [after_singleton_of_press (e := e₂) hrec henter, hsame]
  exact clampCursor_of_eq he rfl rfl rfl

/-! ### Queries -/

/-- The editor with a query in the search register, a direction and what a search has left. -/
def noting (e : Editor) (d : Direction) (t : Text) (s : SearchStatus) : Editor :=
  { e with
    registers := e.registers.write searchRegister t
    searchDirection := some d
    searchPattern := s.pattern
    searchError := s.error
    matchFound := s.found
    matchWrapped := s.wrapped
    matchSpan := s.span }

/-- **What a search for a text leads to**, from the cursor towards a direction. -/
inductive SearchedFor (settings : Settings) (d : Direction) (t : Text) (e : Editor) :
    Editor → Prop where
  /-- The text is a pattern, and the cursor goes to the nearest match. -/
  | hit {p : SearchPattern} {hit : SearchHit}
    (compiles : SearchPattern.compile t settings.ignoreCase = .ok p)
    (found : e.buffer.findTowards p d e.cursorOffset = some hit) :
    SearchedFor settings d t e
      ({ (e.noting d t ⟨some p, none, true, hit.wrapped, some hit.span⟩).moveTo hit.span.start with
        selected := none } : Editor).clampCursor
  /-- There is no match, and the cursor stays. -/
  | miss {p : SearchPattern} (compiles : SearchPattern.compile t settings.ignoreCase = .ok p)
    (missed : e.buffer.findTowards p d e.cursorOffset = none) :
    SearchedFor settings d t e (e.noting d t ⟨some p, none, false, false, none⟩)
  /-- The text is no pattern, and nothing is searched for. -/
  | malformed {err : PatternError}
    (fails : SearchPattern.compile t settings.ignoreCase = .error err) :
    SearchedFor settings d t e (e.noting d t ⟨none, some err, false, false, none⟩)

theorem SearchedFor.read {e' : Editor} (h : SearchedFor settings d t e e') :
    e'.registers.read searchRegister = t := by
  have hwrite : (e.registers.write searchRegister t).read searchRegister = t := by simp
  cases h <;> exact hwrite

theorem clearPending_noting (hpending : e.toPending = {}) (d : Direction) (t : Text)
    (s : SearchStatus) : (e.noting d t s).clearPending = e.noting d t s := by
  show ({ e.noting d t s with toPending := {} } : Editor) = e.noting d t s
  rw [← hpending]
  rfl

theorem clampCursor_noting (he : e.clampCursor = e) (d : Direction) (t : Text)
    (s : SearchStatus) : (e.noting d t s).clampCursor = e.noting d t s :=
  clampCursor_of_eq he rfl rfl rfl

/-- A first search without a count starts at the cursor and looks for one match. -/
theorem searchHit?_first (hcount : e.count = 1) (p : SearchPattern) (d : Direction) :
    e.searchHit? p d true = e.buffer.findTowards p d e.cursorOffset := by
  have hstart : ¬ (d = .forward ∧ true = false) := fun h => Bool.noConfusion h.2
  rw [searchHit?, hcount, Nat.min_eq_left (Nat.le_add_left 1 _), if_neg hstart]
  exact e.buffer.findNth_one p d e.cursorOffset

/-- With nothing pending a search for a text leads to what is said of it. -/
theorem searchedFor_searchFor (he : e.clampCursor = e) (hpending : e.toPending = {})
    (settings : Settings) (d : Direction) (t : Text) :
    SearchedFor settings d t e
      (({ e with searchDirection := some d } : Editor).searchFor settings t).clampCursor := by
  unfold searchFor
  dsimp only
  cases hcompile : SearchPattern.compile t settings.ignoreCase with
  | error err =>
    show SearchedFor settings d t e
      (e.noting d t ⟨none, some err, false, false, none⟩).clearPending.clampCursor
    rw [clearPending_noting hpending, clampCursor_noting he]
    exact .malformed hcompile
  | ok p =>
    let e₁ : Editor :=
      { e with
        registers := e.registers.write searchRegister t
        searchDirection := some d
        searchPattern := some p
        searchError := none }
    have hpending₁ : e₁.toPending = {} := hpending
    have hhit : e₁.searchHit? p d true = e.buffer.findTowards p d e.cursorOffset :=
      searchHit?_first (by rw [hpending₁]; rfl) p d
    show SearchedFor settings d t e (e₁.runSearch d true).clampCursor
    cases hfind : e.buffer.findTowards p d e.cursorOffset with
    | none =>
      rw [runSearch_of_some (e := e₁) rfl, hhit, hfind]
      show SearchedFor settings d t e
        (e.noting d t ⟨some p, none, false, false, none⟩).clearPending.clampCursor
      rw [clearPending_noting hpending, clampCursor_noting he]
      exact .miss hcompile hfind
    | some hit =>
      let e₂ := e.noting d t ⟨some p, none, true, hit.wrapped, some hit.span⟩
      have hop : e₁.operator = none := congrArg Pending.operator hpending
      -- Whatever a hit drops is not there, since nothing is pending.
      have hkept : (⟨e.operator, none, none, none⟩ : Pending) = e.toPending := by rw [hpending]
      have hat : e₁.atHit hit =
          { e₂.moveTo hit.span.start with
            toPending := ⟨e.operator, none, none, none⟩
            selected := none } := rfl
      rw [runSearch_of_hit (e := e₁) hop rfl (hhit.trans hfind), hat, hkept]
      exact .hit hcompile hfind

/-- **A query that is committed is searched for.** -/
theorem searchedFor_commitSearch (he : e.clampCursor = e) (ho : e.control.Orderly)
    (hm : e.mode = .normal) (hw : e.waiting = false) (hn : e.repeatCount = none) {l : LineInput}
    (hl : l.text ≠ []) (settings : Settings) (d : Direction) :
    SearchedFor settings d l.text e
      (({ e.startSearch d with searchQuery := l } : Editor).commitSearch settings).clampCursor := by
  have hquery : e.searchQuery = {} := ho.searchQuery (by simp [control, hm])
  have hpending : e.toPending = {} := by
    rw [toPending_of_no_operator ho (operator_of_not_waiting hw), hn]
  have hmodifier : e.modifier = none := congrArg Pending.modifier hpending
  have hidle : ({ e with modifier := none, mode := .normal, searchQuery := {} } : Editor) = e := by
    rw [← hm, ← hquery, ← hmodifier]
  have hcommit : ({ e.startSearch d with searchQuery := l } : Editor).commitSearch settings =
      ({ e with searchDirection := some d } : Editor).searchFor settings l.text := by
    unfold commitSearch
    dsimp only
    rw [if_neg (by simpa using hl)]
    exact congrArg (fun e : Editor =>
      ({ e with searchDirection := some d } : Editor).searchFor settings l.text) hidle
  rw [hcommit]
  exact searchedFor_searchFor he hpending settings d l.text

/-! ### What becomes of a line -/

/-- **Lines are edited like a stack and committed as they are.** Wherever a run has led to, in
normal mode, with nothing half typed and no macro being recorded: let some keys be typed that keep a
line open, and `t` be what they stack up. As a command line `t` is kept for the host, and nothing
else changes. As a query, unless it is empty, `t` goes to the search register, and the pattern that
it is compiled to is searched for. -/
theorem typed_lines (he : Reachable b e) (hm : e.mode = .normal) (hw : e.waiting = false)
    (hn : e.repeatCount = none) (hrec : e.recording = none) (settings : Settings) (q : Query) :
    let t := typedText q.keys
    e.after settings (.char ':' :: q.keys ++ [.enter]) = { e with lastCommand := some t } ∧
      ∀ d : Direction, t ≠ [] →
        let e' := e.after settings (.char d.searchKey :: q.keys ++ [.enter])
        e'.registers.read searchRegister = t ∧ SearchedFor settings d t e e' := by
  intro t
  have hclamped := he.clampCursor_eq
  have ho := he.traceable.orderly
  have htext : q.text = t := q.text_eq
  constructor
  · rw [← htext]
    exact after_commandLine hclamped ho hm hw hn hrec settings q
  · intro d ht e'
    have hk := continuation_of_not_waiting hw
    let e₁ : Editor := { e.startSearch d with searchQuery := q.line }
    have hcommitted : e' = (e₁.commitSearch settings).clampCursor := by
      have hkeys : e' = ((Motion.search d q).run settings e).clampCursor :=
        after_keys (.search d q) hclamped (.inl hm) hk hrec (by simp) settings
      have hrun : (Motion.search d q).run settings e =
          ({ e₁ with continuation := none } : Editor).commitSearch settings := rfl
      rw [hkeys, hrun, continued_of_none (e := e₁) hk]
    have hsearch : SearchedFor settings d t e e' := by
      rw [hcommitted, ← htext]
      exact searchedFor_commitSearch hclamped ho hm hw hn (l := q.line) (by rwa [← htext] at ht)
        settings d
    exact ⟨hsearch.read, hsearch⟩

/-- A backspace too many and one that takes a character of two bytes, in a row with matches on both
sides of the cursor. -/
theorem typed_lines_ab :
    ∃ e : Editor, Reachable ⟨['a', 'b', ' ', 'x', ' ', 'a', 'b']⟩ e ∧ e.mode = .normal ∧
      e.waiting = false ∧ e.repeatCount = none ∧ e.recording = none ∧
      let q : Query :=
        ⟨[.backspace, .char 'a', .ctrlR, .char 'é', .backspace, .ctrlV, .char 'b'], by decide⟩
      e.after {} (.char ':' :: q.keys ++ [.enter]) = { e with lastCommand := some ['a', 'b'] } ∧
        SearchedFor {} .forward ['a', 'b'] e (e.after {} (.char '/' :: q.keys ++ [.enter])) ∧
        (e.after {} (.char '/' :: q.keys ++ [.enter])).cursor = ⟨0, 5⟩ ∧
        SearchedFor {} .backward ['a', 'b'] e (e.after {} (.char '?' :: q.keys ++ [.enter])) ∧
        (e.after {} (.char '?' :: q.keys ++ [.enter])).cursor = ⟨0, 0⟩ := by
  have he : Reachable ⟨['a', 'b', ' ', 'x', ' ', 'a', 'b']⟩ _ := .first {} [.char 'w']
  obtain ⟨hm, hw, hn, hrec⟩ :
      let e := ofResult (interpret {} ⟨['a', 'b', ' ', 'x', ' ', 'a', 'b']⟩ none [.char 'w'])
      e.mode = .normal ∧ e.waiting = false ∧ e.repeatCount = none ∧ e.recording = none := by
    decide +kernel
  let q : Query :=
    ⟨[.backspace, .char 'a', .ctrlR, .char 'é', .backspace, .ctrlV, .char 'b'], by decide⟩
  have htext : typedText q.keys = ['a', 'b'] := rfl
  obtain ⟨hcommand, hquery⟩ := typed_lines he hm hw hn hrec {} q
  rw [htext] at hcommand hquery
  exact ⟨_, he, hm, hw, hn, hrec, hcommand, (hquery .forward (by simp)).2, by decide +kernel,
    (hquery .backward (by simp)).2, by decide +kernel⟩

end Editor

end ModalEditor
