import ModalEditor.Proofs.CountedSearch
import ModalEditor.Proofs.NearestMatch

/-!
# Progress of a search that is repeated

A search that is repeated starts at the cursor, not at the match that was found before. The cursor is
sent to the start of a match and comes to stand there, unless the start is past the last place of the
cursor (`Buffer.Past`): from the newline that ends a row it falls back on the last character of the
row, and past the end of the text there is nowhere to go on. So one character after the cursor is one
after the start of the match, or else that start again (`Buffer.min_landing_succ`).

`FoundForward` says that a search forward has just found a match; what is needed of it is that the
cursor has been sent there (`SentTo`). One press of `n` leads from such a state to another
(`OnMatch.after_searchAgain`), and `search_makes_progress` follows by induction on the presses and on
what is left of the text.
-/

namespace ModalEditor

/-! ### Where the cursor comes to stand -/

namespace Buffer

variable {b : Buffer} {row offset : Nat}

/-- **Where the cursor comes to stand** that is sent to an offset: there, or on the last character of
the row if the offset is behind it. -/
def landing (b : Buffer) (offset : Nat) : Nat :=
  let pos := b.positionAt offset
  b.offsetAt ⟨pos.row, min pos.col (b.rowLength pos.row - 1)⟩

/-- **Offsets past the last place of the cursor**: the end of the text, and the newline that ends a
row which is not empty. -/
def Past (b : Buffer) (offset : Nat) : Prop :=
  offset = b.length ∨
    b.charAt? offset = some '\n' ∧ 0 < offset ∧ b.charAt? (offset - 1) ≠ some '\n'

instance (b : Buffer) (offset : Nat) : Decidable (b.Past offset) :=
  inferInstanceAs (Decidable (_ ∨ _))

theorem landing_eq (b : Buffer) (offset : Nat) :
    b.landing offset =
      b.rowStart (b.positionAt offset).row +
        min (b.positionAt offset).col (b.rowLength (b.positionAt offset).row - 1) := by
  unfold landing offsetAt
  dsimp only
  rw [Nat.min_eq_left (positionAt_row_le b offset)]
  omega

theorem charAt?_before_rowEnd_iff (h : row ≤ b.lastRow) :
    0 < b.rowEnd row ∧ b.charAt? (b.rowEnd row - 1) ≠ some '\n' ↔ 0 < b.rowLength row := by
  rw [rowEnd_eq h]
  constructor
  · rintro ⟨hpos, hchar⟩
    refine Nat.pos_of_ne_zero fun hzero => hchar ?_
    rw [hzero, Nat.add_zero] at hpos ⊢
    exact charAt?_before_rowStart h hpos
  · intro hpos
    have hchar := charAt?_ne_newline h (Nat.sub_one_lt_of_lt hpos)
    rw [← Nat.add_sub_assoc hpos] at hchar
    exact ⟨Nat.add_pos_right _ hpos, hchar⟩

/-- Offsets in a row are not past the last place of the cursor, and the end of a row is if the row is
not empty, or the last. -/
theorem past_iff (h : offset ≤ b.length) :
    b.Past offset ↔
      (b.positionAt offset).col = b.rowLength (b.positionAt offset).row ∧
        (0 < (b.positionAt offset).col ∨ offset = b.length) := by
  obtain ⟨hsum, hcol⟩ := positionAt_bounds h
  have hrow := positionAt_row_le b offset
  generalize (b.positionAt offset).row = row at *
  generalize (b.positionAt offset).col = col at *
  have hend := rowEnd_eq hrow
  obtain hlt | rfl := Nat.lt_or_eq_of_le hcol
  · have hchar := charAt?_ne_newline hrow hlt
    have hle := rowStart_add_rowLength_le hrow
    rw [hsum] at hchar
    refine iff_of_false ?_ fun hright => Nat.ne_of_lt hlt hright.1
    rintro (hlast | ⟨hnewline, -⟩)
    · omega
    · exact hchar hnewline
  · have hbefore := charAt?_before_rowEnd_iff hrow
    rw [hend, hsum] at hbefore
    unfold Past
    rw [hbefore]
    obtain hlt | rfl := Nat.lt_or_eq_of_le hrow
    · have hnewline := charAt?_rowEnd hlt
      rw [hend, hsum] at hnewline
      simp only [hnewline, true_and]
      exact or_comm
    · have hlast : offset = b.length := by rw [← hsum, ← hend, rowEnd_lastRow]
      simp [hlast]

/-- **Where a search goes on** from an offset that the cursor was sent to: one character further, but
at the same offset if that is past the last place of the cursor. -/
def searchStart (b : Buffer) (offset : Nat) : Nat := if b.Past offset then offset else offset + 1

theorem min_landing_succ (h : offset ≤ b.length) :
    min (b.landing offset + 1) b.length = b.searchStart offset := by
  obtain ⟨hsum, hcol⟩ := positionAt_bounds h
  have hle := rowStart_add_rowLength_le (positionAt_row_le b offset)
  rw [landing_eq]
  unfold searchStart
  split
  · rename_i hpast
    obtain ⟨heq, hpos⟩ := (past_iff h).1 hpast
    omega
  · rename_i hpast
    rw [past_iff h, Decidable.not_and_iff_or_not] at hpast
    omega

end Buffer

/-! ### Searches forward that have found a match -/

/-- A search forward: for a query, or again in that direction. -/
def Motion.SearchesForward (e : Editor) : Motion → Prop
  | .search d _ => d = .forward
  | .searchAgain reverse => reverse = false ∧ e.searchDirection.getD .forward = .forward
  | _ => False

namespace Editor

variable {p : SearchPattern} {span : Span} {e e' : Editor} {settings : Settings}

/-- **A search forward has just found a match.** -/
inductive FoundForward (p : SearchPattern) (span : Span) : Editor → Prop where
  /-- The last key of the search, typed or played, has reported it. -/
  | search {e₀ e₁ : Editor} {settings : Settings} {m : Motion} (hbegun : m.Begun e₀)
    (hforward : m.SearchesForward e₀) (hop : e₀.operator = none)
    (hpress : e₀.press settings m.last = .done e₁) (hp : e₁.searchPattern = some p)
    (hfound : e₁.matchFound = true) (hspan : e₁.matchSpan = some span) :
    FoundForward p span e₁.clampCursor
  /-- Neither the text, the cursor, the pattern nor the direction has been touched since. -/
  | untouched {e e' : Editor} (h : FoundForward p span e) (hbuffer : e'.buffer = e.buffer)
    (hcursor : e'.cursor = e.cursor) (hpattern : e'.searchPattern = e.searchPattern)
    (hdirection : e'.searchDirection = e.searchDirection) : FoundForward p span e'

/-- **What is left of it**: a match to which the cursor has been sent. -/
structure SentTo (p : SearchPattern) (span : Span) (e : Editor) : Prop where
  /-- The pattern is remembered. -/
  pattern : e.searchPattern = some p
  /-- So is the direction. -/
  direction : e.searchDirection.getD .forward = .forward
  /-- The match starts in the text. -/
  start_mem : span.start ∈ matchStarts p.regex.matchAt? e.buffer.text
  /-- It is the match there. -/
  isMatch : p.regex.matchAt? e.buffer.text span.start = some span
  /-- The cursor is where it comes to stand that is sent there. -/
  cursor : e.cursorOffset = e.buffer.landing span.start

theorem cursorOffset_clampCursor (hm : e.mode ≠ .insert) {offset : Nat}
    (hcursor : e.cursor = e.buffer.positionAt offset) :
    e.clampCursor.cursorOffset = e.buffer.landing offset := by
  have hrow : min (e.buffer.positionAt offset).row e.buffer.lastRow =
      (e.buffer.positionAt offset).row :=
    Nat.min_eq_left (e.buffer.positionAt_row_le offset)
  simp only [cursorOffset, clampCursor, lastColumn, cursorPastEnd_of_ne_insert hm, hcursor, hrow]
  rfl

theorem isMatch_of_findNth {b : Buffer} {n offset : Nat} {hit : SearchHit}
    (h : b.findNth p .forward n offset = some hit) :
    hit.span.start ∈ matchStarts p.regex.matchAt? b.text ∧
      p.regex.matchAt? b.text hit.span.start = some hit.span := by
  induction n generalizing offset with
  | zero => simp [Buffer.findNth] at h
  | succ n ih =>
    unfold Buffer.findNth at h
    split at h
    · simp at h
    · rename_i first hfirst
      obtain hnext | ⟨-, heq⟩ := Option.or_eq_some_iff.1 h
      · exact ih hnext
      · obtain rfl := Option.some.inj heq
        have hnext := b.isNextMatch_findNext p offset
        have hfirst : b.findNext p offset = some first := hfirst
        rw [hfirst] at hnext
        exact hnext.isMatch

/-- The editor in which a match has been reported and the cursor sent there. -/
def atHit (e : Editor) (hit : SearchHit) : Editor :=
  { e.dropCounts with
    matchFound := true
    matchWrapped := hit.wrapped
    matchSpan := some hit.span
    cursor := e.buffer.positionAt hit.span.start
    modifier := none
    selected := none }

/-- Without an operator a search that finds a match moves the cursor. -/
theorem runSearch_of_hit (hop : e.operator = none) (hp : e.searchPattern = some p) {d : Direction}
    {first : Bool} {hit : SearchHit} (hhit : e.searchHit? p d first = some hit) :
    e.runSearch d first = e.atHit hit := by
  rw [runSearch_of_some hp, hhit]
  exact reach_char_of_no_operator (e := { e with
    matchFound := true
    matchWrapped := hit.wrapped
    matchSpan := some hit.span }) hop _ _

/-- **A search forward that finds a match sends the cursor there.** -/
theorem sentTo_runSearch (hm : e.mode ≠ .insert) (hop : e.operator = none)
    (hd : e.searchDirection.getD .forward = .forward) {first : Bool}
    (hp : (e.runSearch .forward first).searchPattern = some p)
    (hfound : (e.runSearch .forward first).matchFound = true)
    (hspan : (e.runSearch .forward first).matchSpan = some span) :
    SentTo p span (e.runSearch .forward first).clampCursor := by
  cases hpattern : e.searchPattern with
  | none =>
    rw [runSearch_of_none hpattern] at hp
    exact absurd (hpattern.symm.trans hp) (by simp)
  | some p' =>
    cases hhit : e.searchHit? p' .forward first with
    | none =>
      rw [runSearch_of_some hpattern, hhit] at hfound
      exact absurd hfound Bool.false_ne_true
    | some hit =>
      rw [runSearch_of_hit hop hpattern hhit] at hp hspan ⊢
      obtain rfl : p' = p := Option.some.inj (hpattern.symm.trans hp)
      obtain rfl : hit.span = span := Option.some.inj hspan
      obtain ⟨hstart, hmatch⟩ := isMatch_of_findNth hhit
      exact ⟨hp, hd, hstart, hmatch, cursorOffset_clampCursor (e := e.atHit hit) hm rfl⟩

/-- To commit a query is to search in the direction that was chosen, unless no pattern is left. -/
theorem commitSearch_cases (e : Editor) (settings : Settings) :
    (∃ (e₁ : Editor) (first : Bool),
      e.commitSearch settings = e₁.runSearch (e.searchDirection.getD .forward) first ∧
        e₁.mode = .normal ∧ e₁.operator = e.operator ∧ e₁.searchDirection = e.searchDirection) ∨
      (e.commitSearch settings).searchPattern = none := by
  let e₁ : Editor := { e with mode := .normal, searchQuery := {} }
  unfold commitSearch
  dsimp only
  split
  · have hrecall := reminded_recallPattern e₁ settings
    have hdirection := searchDirection_recallPattern e₁ settings
    refine .inl ⟨e₁.recallPattern settings, false, ?_, ?_, ?_, hdirection⟩
    · show (e₁.recallPattern settings).runSearch
        ((e₁.recallPattern settings).searchDirection.getD .forward) false = _
      rw [hdirection]
    · exact congrArg Control.mode hrecall.control
    · exact congrArg (·.operator) hrecall.control
  · unfold searchFor
    dsimp only
    split
    · exact .inl ⟨_, true, rfl, rfl, rfl, rfl⟩
    · exact .inr rfl

/-- As long as nothing has been touched, the cursor is where the search has sent it. -/
theorem FoundForward.sentTo (h : FoundForward p span e) : SentTo p span e := by
  induction h with
  | @search e₀ e₁ settings m hbegun hforward hop hpress hp hfound hspan =>
    have hfinish : m.finish settings { e₀ with continuation := none } = e₁ := by
      simpa [press_of_begun hbegun] using hpress
    subst hfinish
    cases m with
    | search d q =>
      obtain ⟨-, -, hd, -⟩ := hbegun
      obtain rfl : d = .forward := hforward
      obtain ⟨e₂, first, hcommit, hm, hop₂, hd₂⟩ | hnone :=
        commitSearch_cases { e₀ with continuation := none } settings
      · have hrun : (Motion.search .forward q).finish settings { e₀ with continuation := none } =
            e₂.runSearch .forward first := by
          rw [← hd]
          exact hcommit
        rw [hrun] at hp hfound hspan ⊢
        exact sentTo_runSearch (by simp [hm]) (hop₂.trans hop) (hd₂ ▸ hd) hp hfound hspan
      · exact absurd (hnone.symm.trans hp) (by simp)
    | searchAgain reverse =>
      obtain ⟨rfl, hd⟩ := hforward
      obtain ⟨hm, -, -⟩ := hbegun
      let e₂ : Editor := { e₀ with continuation := none }
      have hrun : (Motion.searchAgain false).finish settings e₂ = e₂.runSearch .forward false := by
        rw [← hd]
        rfl
      rw [hrun] at hp hfound hspan ⊢
      exact sentTo_runSearch (e := e₂) hm.ne_insert hop hd hp hfound hspan
    | _ => exact hforward.elim
  | untouched h hbuffer hcursor hpattern hdirection ih =>
    have hoffset : cursorOffset _ = cursorOffset _ := congrArg₂ Buffer.offsetAt hbuffer hcursor
    exact ⟨hpattern.trans ih.pattern, hdirection ▸ ih.direction, hbuffer ▸ ih.start_mem,
      hbuffer ▸ ih.isMatch, by rw [hoffset, hbuffer, ih.cursor]⟩

/-! ### Going on -/

/-- **A search may go on** from a match: nothing is half typed. -/
structure OnMatch (p : SearchPattern) (span : Span) (e : Editor) : Prop extends SentTo p span e where
  /-- Commands are typed. -/
  mode : e.mode = .normal
  /-- No second key is waited for. -/
  continuation : e.continuation = none
  /-- No operator is pending. -/
  operator : e.operator = none
  /-- No count stands before one. -/
  operatorCount : e.operatorCount = none
  /-- Nor is one being typed. -/
  repeatCount : e.repeatCount = none

theorem OnMatch.exists_searchHit? (h : OnMatch p span e) :
    ∃ hit, e.searchHit? p .forward false = some hit ∧
      StartsOver (IsFirstMatch p.regex.matchAt? e.buffer.text (e.buffer.searchStart span.start))
        (IsFirstMatch p.regex.matchAt? e.buffer.text 0) (some hit) := by
  have hcount : min e.count (e.buffer.length + 1) = 1 := by
    rw [count_of_operatorCount h.operatorCount, h.repeatCount, Option.getD_none]
    omega
  have hnext := e.buffer.isNextMatch_findNext p (e.cursorOffset + 1)
  unfold IsNextMatch at hnext
  have hmin : min (e.cursorOffset + 1) e.buffer.text.length = e.buffer.searchStart span.start := by
    rw [h.cursor]
    exact Buffer.min_landing_succ h.start_mem.1
  rw [hmin] at hnext
  cases hfind : e.buffer.findNext p (e.cursorOffset + 1) with
  | none =>
    rw [hfind] at hnext
    cases hnext with
    | none hnear hfar => exact absurd (hfar _ h.start_mem) (Nat.not_lt_zero _)
  | some hit =>
    rw [hfind] at hnext
    refine ⟨hit, ?_, hnext⟩
    unfold searchHit?
    rw [hcount, if_pos ⟨rfl, rfl⟩]
    simp [Buffer.findNth, Buffer.findTowards, hfind]

/-- **Pressing `n` leads from one match to the next.** The keys after it may as well have a call of
their own. -/
theorem OnMatch.after_searchAgain (h : OnMatch p span e) (settings : Settings) :
    ∃ hit,
      StartsOver (IsFirstMatch p.regex.matchAt? e.buffer.text (e.buffer.searchStart span.start))
        (IsFirstMatch p.regex.matchAt? e.buffer.text 0) (some hit) ∧
      (e.after settings [.char 'n']).reported? = some hit ∧
      OnMatch p hit.span (e.after settings [.char 'n']) ∧
      (e.after settings [.char 'n']).buffer = e.buffer ∧
      ∀ keys, e.after settings (.char 'n' :: keys) =
        (e.after settings [.char 'n']).after settings keys := by
  obtain ⟨hit, hhit, hnext⟩ := h.exists_searchHit?
  obtain ⟨registers, hcapture, -⟩ := exists_capture e (.char 'n')
  let e₁ : Editor := { e with registers := registers }
  have hbegun : (Motion.searchAgain false).Begun e₁ := ⟨.inl h.mode, .inl h.continuation, by simp⟩
  have hsame : ({ e₁ with continuation := none } : Editor) = e₁ := continued_of_none h.continuation
  have hrun : e₁.runSearch .forward false = e₁.atHit hit :=
    runSearch_of_hit (e := e₁) h.operator h.pattern hhit
  have hpress : (e.capture (.char 'n')).press settings (.char 'n') = .done (e₁.atHit hit) := by
    rw [hcapture, ← hrun, ← h.direction]
    have hdone := press_of_begun hbegun settings
    rw [hsame] at hdone
    exact hdone
  have hafter := after_singleton_of_done hpress
  obtain ⟨hstart, hmatch⟩ := isMatch_of_findNth hhit
  have hm : e.mode ≠ .insert := by simp [h.mode]
  have hcursor : (e₁.atHit hit).clampCursor.cursorOffset = e.buffer.landing hit.span.start :=
    cursorOffset_clampCursor (e := e₁.atHit hit) hm rfl
  refine ⟨hit, hnext, ?_, ?_, ?_, after_cons_of_done hpress⟩
  · rw [hafter]
    rfl
  · rw [hafter]
    exact ⟨⟨h.pattern, h.direction, hstart, hmatch, hcursor⟩, h.mode, h.continuation, h.operator,
      rfl, rfl⟩
  · rw [hafter]
    rfl

/-- The keys of a search that is repeated so many times. -/
def searches (n : Nat) : List Key := List.replicate n (.char 'n')

theorem eq_of_isFirstMatch {matchAt : Text → Nat → Option Span} {t : Text} {m : Span}
    (hstart : span.start ∈ matchStarts matchAt t) (hmatch : matchAt t span.start = some span)
    (h : IsFirstMatch matchAt t span.start (some m)) : m = span := by
  obtain ⟨⟨⟨-, hge⟩, hleast⟩, hm⟩ := h
  have heq : m.start = span.start := Nat.le_antisymm (hleast ⟨hstart, Nat.le_refl _⟩) hge
  rw [heq, hmatch] at hm
  exact (Option.some.inj hm).symm

/-- From a match past the last place of the cursor `n` leads to it again. -/
theorem OnMatch.after_searchAgain_of_past (h : OnMatch p span e) (hpast : e.buffer.Past span.start)
    (settings : Settings) :
    (e.after settings [.char 'n']).reported? = some ⟨span, false⟩ ∧
      OnMatch p span (e.after settings [.char 'n']) ∧
      (e.after settings [.char 'n']).buffer = e.buffer ∧
      ∀ keys, e.after settings (.char 'n' :: keys) =
        (e.after settings [.char 'n']).after settings keys := by
  obtain ⟨hit, hnext, hreported, hafter⟩ := h.after_searchAgain settings
  rw [Buffer.searchStart, if_pos hpast] at hnext
  cases hnext with
  | far hnear => exact absurd (hnear _ h.start_mem) (Nat.lt_irrefl _)
  | near hnear =>
    obtain rfl := eq_of_isFirstMatch h.start_mem h.isMatch hnear
    exact ⟨hreported, hafter⟩

/-- **A search gets stuck** at a match past the last place of the cursor. -/
theorem OnMatch.reported?_of_past (h : OnMatch p span e) (hpast : e.buffer.Past span.start)
    (settings : Settings) (n : Nat) :
    (e.after settings (searches (n + 1))).reported? = some ⟨span, false⟩ := by
  induction n generalizing e with
  | zero =>
    obtain ⟨hreported, -⟩ := h.after_searchAgain_of_past hpast settings
    exact hreported
  | succ n ih =>
    obtain ⟨-, hafter, hbuffer, hkeys⟩ := h.after_searchAgain_of_past hpast settings
    exact (congrArg reported? (hkeys (searches (n + 1)))).trans (ih hafter (by rwa [hbuffer]))

/-- An offset is visited by a search that is repeated often enough. -/
def Visits (settings : Settings) (e : Editor) (offset : Nat) : Prop :=
  ∃ n hit, (e.after settings (searches (n + 1))).reported? = some hit ∧ hit.span.start = offset

/-- The next match is visited. -/
theorem visits_of_reported? {hit : SearchHit}
    (h : (e.after settings [.char 'n']).reported? = some hit) : Visits settings e hit.span.start :=
  ⟨0, hit, h, rfl⟩

/-- So is what is visited from there. -/
theorem Visits.of_after {offset : Nat} (h : Visits settings (e.after settings [.char 'n']) offset)
    (hkeys : ∀ keys, e.after settings (.char 'n' :: keys) =
      (e.after settings [.char 'n']).after settings keys) : Visits settings e offset := by
  obtain ⟨n, hit, hreported, hstart⟩ := h
  exact ⟨n + 1, hit, (congrArg reported? (hkeys (searches (n + 1)))).trans hreported, hstart⟩

section Visits

variable {b : Buffer} {offset : Nat} (hfree : ∀ o ∈ matchStarts p.regex.matchAt? b.text, ¬ b.Past o)
  (settings : Settings) (hoffset : offset ∈ matchStarts p.regex.matchAt? b.text)

include hfree hoffset

/-- Going on, a search visits every start further on. The induction is on how far it is. -/
theorem OnMatch.visits_of_lt (h : OnMatch p span e) (hb : e.buffer = b) (hlt : span.start < offset) :
    Visits settings e offset := by
  induction hn : offset - span.start using Nat.strong_induction_on generalizing e span with
  | _ n ih =>
    subst hb
    obtain ⟨hit, hnext, hreported, hafter, hbuffer, hkeys⟩ := h.after_searchAgain settings
    rw [Buffer.searchStart, if_neg (hfree _ h.start_mem)] at hnext
    cases hnext with
    | @near m hnear =>
      obtain ⟨⟨⟨-, hge⟩, hleast⟩, -⟩ := hnear
      obtain heq | hlt' := Nat.eq_or_lt_of_le (hleast ⟨hoffset, hlt⟩)
      · exact heq ▸ visits_of_reported? hreported
      · exact Visits.of_after (ih (offset - m.start) (by omega) hafter hbuffer hlt' rfl) hkeys
    | far hnear => exact absurd (hnear offset hoffset) (Nat.not_lt_of_le hlt)

/-- **A search that never gets stuck visits every start**, starting over at the end. The induction is
on how far the end is. -/
theorem OnMatch.visits (h : OnMatch p span e) (hb : e.buffer = b) : Visits settings e offset := by
  induction hn : b.length - span.start using Nat.strong_induction_on generalizing e span with
  | _ n ih =>
    obtain hlt | hle := Nat.lt_or_ge span.start offset
    · exact h.visits_of_lt hfree settings hoffset hb hlt
    · subst hb
      obtain ⟨hit, hnext, hreported, hafter, hbuffer, hkeys⟩ := h.after_searchAgain settings
      rw [Buffer.searchStart, if_neg (hfree _ h.start_mem)] at hnext
      cases hnext with
      | @near m hnear =>
        obtain ⟨⟨⟨hmem, hge⟩, -⟩, -⟩ := hnear
        have hend : m.start ≤ e.buffer.length := hmem.1
        exact Visits.of_after (ih (e.buffer.length - m.start) (by omega) hafter hbuffer rfl) hkeys
      | far _ hfar =>
        obtain ⟨⟨-, hleast⟩, -⟩ := hfar
        obtain heq | hlt := Nat.eq_or_lt_of_le (hleast ⟨hoffset, Nat.zero_le _⟩)
        · exact heq ▸ visits_of_reported? hreported
        · exact Visits.of_after (hafter.visits_of_lt hfree settings hoffset hbuffer hlt) hkeys

end Visits

theorem foundForward_after_keys (m : Motion) (settings : Settings) (he : e.clampCursor = e)
    (hm : e.Commanding) (hk : e.continuation = none) (hop : e.operator = none)
    (hforward : m.SearchesForward e)
    (hp : (e.after settings m.keys).searchPattern = some p)
    (hfound : (e.after settings m.keys).matchFound = true)
    (hspan : (e.after settings m.keys).matchSpan = some span) :
    FoundForward p span (e.after settings m.keys) := by
  have hz : m = .rowStart → e.repeatCount = none := by
    rintro rfl
    exact hforward.elim
  obtain ⟨registers, hkeys, -⟩ := exists_after_keys m he hm hk hz settings
  let e₁ : Editor := { e with registers := registers }
  rw [hkeys] at hp hfound hspan ⊢
  have hbegun : m.Begun (m.begin e₁) := begun_begin hm hk hz
  refine .search hbegun ?_ ?_ (press_of_begun hbegun settings) hp hfound hspan
  · cases m <;> exact hforward
  · cases m <;> exact hop

/-- **`n` makes progress**, unless the match is past the last place of the cursor. Wherever a run has
led to, in normal mode, with nothing half typed, as long as nothing has been touched since a search
forward has reported a match: `n` reports the match with the least start further on, or else the
first of all, just when the match starts neither at the end of the text nor at the newline of a row
that is not empty. From one that does, `n` reports it again and again. And where there is none that
does, `n` visits every start. -/
theorem search_makes_progress {b : Buffer} (he : Reachable b e) (hm : e.mode = .normal)
    (hw : e.waiting = false) (hn : e.repeatCount = none) (h : FoundForward p span e)
    (settings : Settings) :
    (StartsOver (IsFirstMatch p.regex.matchAt? e.buffer.text (span.start + 1))
        (IsFirstMatch p.regex.matchAt? e.buffer.text 0) (e.after settings (searches 1)).reported? ↔
      ¬ e.buffer.Past span.start) ∧
    (e.buffer.Past span.start →
      ∀ n, (e.after settings (searches (n + 1))).reported? = some ⟨span, false⟩) ∧
    ((∀ o ∈ matchStarts p.regex.matchAt? e.buffer.text, ¬ e.buffer.Past o) →
      ∀ o ∈ matchStarts p.regex.matchAt? e.buffer.text, Visits settings e o) := by
  have hop := operator_of_not_waiting hw
  have hon : OnMatch p span e :=
    ⟨h.sentTo, hm, continuation_of_not_waiting hw, hop,
      he.traceable.orderly.operatorCount_eq_none hop, hn⟩
  refine ⟨⟨fun hnext hpast => ?_, fun hpast => ?_⟩, fun hpast => hon.reported?_of_past hpast settings,
    fun hfree o ho => hon.visits hfree settings ho rfl⟩
  · rw [hon.reported?_of_past hpast settings 0] at hnext
    cases hnext with
    | near hnear => exact Nat.lt_irrefl _ hnear.1.1.2
  · obtain ⟨hit, hnext, hreported, -⟩ := hon.after_searchAgain settings
    rw [Buffer.searchStart, if_neg hpast, ← hreported] at hnext
    exact hnext

/-- Newlines of empty rows, and no other match: the second follows the first, and then the first is
visited again. -/
theorem search_makes_progress_empty_rows :
    let p : SearchPattern := ⟨['\\', 'n'], false, .set (.single '\n'), by decide +kernel⟩
    ∃ e : Editor, Reachable ⟨['\n', '\n', 'a']⟩ e ∧ FoundForward p ⟨0, 1⟩ e ∧
      StartsOver (IsFirstMatch p.regex.matchAt? e.buffer.text 1)
        (IsFirstMatch p.regex.matchAt? e.buffer.text 0) (e.after {} (searches 1)).reported? ∧
      (e.after {} (searches 1)).reported? = some ⟨⟨1, 2⟩, false⟩ ∧ Visits {} e 0 := by
  intro p
  let m : Motion := .search .forward (.ofText ['\\', 'n'])
  have he₀ : Reachable ⟨['\n', '\n', 'a']⟩ _ := .first {} []
  have he := he₀.next {} m.keys
  have h : FoundForward p ⟨0, 1⟩ _ := foundForward_after_keys m {} he₀.clampCursor_eq
    (.inl (by decide +kernel)) (by decide +kernel) (by decide +kernel) rfl (by decide +kernel)
    (by decide +kernel) (by decide +kernel)
  obtain ⟨hnext, -, hvisits⟩ := search_makes_progress he (by decide +kernel) (by decide +kernel)
    (by decide +kernel) h {}
  have hfree : ∀ o ∈ matchStarts p.regex.matchAt? ['\n', '\n', 'a'],
      ¬ (⟨['\n', '\n', 'a']⟩ : Buffer).Past o := by
    have hall : ∀ o < 4, p.regex.matchAt? ['\n', '\n', 'a'] o ≠ none →
        ¬ (⟨['\n', '\n', 'a']⟩ : Buffer).Past o := by
      decide +kernel
    exact fun o ho => hall o (Nat.lt_succ_of_le ho.1) ho.2
  refine ⟨_, he, h, hnext.2 (by decide +kernel), by decide +kernel, hvisits hfree 0 ?_⟩
  exact ⟨by decide, by decide +kernel⟩

/-- The newline that ends the first row is found, and `n` finds it again, though another one follows. -/
theorem search_stuck_at_newline :
    let p : SearchPattern := ⟨['\\', 'n'], false, .set (.single '\n'), by decide +kernel⟩
    ∃ e : Editor, Reachable ⟨['a', '\n', 'b', '\n', 'c']⟩ e ∧ e.mode = .normal ∧
      e.waiting = false ∧ e.repeatCount = none ∧ FoundForward p ⟨1, 2⟩ e ∧
      3 ∈ matchStarts p.regex.matchAt? e.buffer.text ∧
      (e.after {} [.char 'n']).reported? = some ⟨⟨1, 2⟩, false⟩ := by
  intro p
  let m : Motion := .search .forward (.ofText ['\\', 'n'])
  have he₀ : Reachable ⟨['a', '\n', 'b', '\n', 'c']⟩ _ := .first {} []
  have he := he₀.next {} m.keys
  have h : FoundForward p ⟨1, 2⟩ _ := foundForward_after_keys m {} he₀.clampCursor_eq
    (.inl (by decide +kernel)) (by decide +kernel) (by decide +kernel) rfl (by decide +kernel)
    (by decide +kernel) (by decide +kernel)
  exact ⟨_, he, by decide +kernel, by decide +kernel, by decide +kernel, h,
    ⟨by decide +kernel, by decide +kernel⟩, by decide +kernel⟩

end Editor

end ModalEditor
