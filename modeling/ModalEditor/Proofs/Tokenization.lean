import Mathlib.Data.List.Sort
import ModalEditor.Proofs.TokenCuts

/-!
# What tokens are

A token covers a run of characters that cannot be made longer, of those that are no white space or
of word characters, or else a single character of punctuation (`WordKind.Shape`). Told by cuts, it
stands between two cuts that go through no token and has no such cut inside (`IsStretch`): both ways
to say it agree (`IsToken.stretch`, `IsStretch.shape`). Two such stretches that have a character in
common are one and the same, and from this follows all that is said of a whole list of tokens.

`isTokenization_iff` says that the tokens of a text are determined by what is asked of them.
-/

namespace ModalEditor

/-! ### Runs -/

/-- The code points of white space. -/
def whiteSpaceCodes : List Nat :=
  [0x09, 0x0A, 0x0B, 0x0C, 0x0D, 0x20, 0x85, 0xA0, 0x1680, 0x2000, 0x2001, 0x2002, 0x2003, 0x2004,
    0x2005, 0x2006, 0x2007, 0x2008, 0x2009, 0x200A, 0x2028, 0x2029, 0x202F, 0x205F, 0x3000]

theorem isWordChar_whiteSpaceCodes : ∀ n ∈ whiteSpaceCodes, isWordChar (Char.ofNat n) = false := by
  decide +kernel

theorem isWordChar_of_isWhiteSpace {c : Char} (h : Unicode.isWhiteSpace c = true) :
    isWordChar c = false := by
  have hmem : c.toNat ∈ whiteSpaceCodes := by
    simp only [Unicode.isWhiteSpace, Bool.or_eq_true, Bool.and_eq_true, decide_eq_true_eq,
      beq_iff_eq] at h
    simp only [whiteSpaceCodes, List.mem_cons, List.not_mem_nil, or_false]
    omega
  have hword := isWordChar_whiteSpaceCodes _ hmem
  rwa [Char.ofNat_toNat] at hword

theorem runs_word : WordKind.runs .word = isWordChar := by
  funext c
  cases hwhite : Unicode.isWhiteSpace c with
  | false => simp [WordKind.runs, WordKind.joins, hwhite]
  | true => simp [WordKind.runs, hwhite, isWordChar_of_isWhiteSpace hwhite]

theorem runs_bigWord : WordKind.runs .bigWord = fun c => !Unicode.isWhiteSpace c := by
  funext c
  exact Bool.and_self _

/-- A run of characters that satisfy `p`, from `start` to before `stop`, that cannot be made longer:
its neighbours do not satisfy it. -/
structure IsMaximalRun (p : Char → Bool) (t : Text) (start stop : Nat) : Prop where
  /-- All its characters satisfy `p`. -/
  inside : ∀ i c, start ≤ i → i < stop → t[i]? = some c → p c = true
  /-- The character before it does not. -/
  before : ∀ c, 0 < start → t[start - 1]? = some c → p c = false
  /-- Nor does the character after it. -/
  after : ∀ c, t[stop]? = some c → p c = false

/-- What a token covers: a maximal run or, under the `word` rule, a single character of
punctuation. -/
def WordKind.Shape (t : Text) (start stop : Nat) : WordKind → Prop
  | .word => IsMaximalRun isWordChar t start stop ∨
      stop = start + 1 ∧
        ∀ c, t[start]? = some c → Unicode.isWhiteSpace c = false ∧ isWordChar c = false
  | .bigWord => IsMaximalRun (fun c => !Unicode.isWhiteSpace c) t start stop

/-- A token of a text. -/
structure IsToken (kind : WordKind) (t : Text) (w : WordToken) : Prop where
  /-- It is not empty. -/
  nonempty : w.start < w.stop
  /-- It lies in the text. -/
  inText : w.stop ≤ t.length
  /-- Its characters are those of the text there. -/
  slice : w.text = (t.drop w.start).take (w.stop - w.start)
  /-- White space is in no token. -/
  noWhiteSpace : ∀ c ∈ w.text, Unicode.isWhiteSpace c = false
  /-- It is a run that is maximal, or a single character. -/
  shape : kind.Shape t w.start w.stop

/-- The tokens of a text: what is asked of a list of them. -/
structure IsTokenization (kind : WordKind) (t : Text) (ws : List WordToken) : Prop where
  /-- They are in order and do not overlap. -/
  ordered : ws.Pairwise fun w w' => w.stop ≤ w'.start
  /-- Each of them is a token. -/
  tokens : ∀ w ∈ ws, IsToken kind t w
  /-- What is no white space is in just one of them. -/
  covers : ∀ i c, t[i]? = some c → Unicode.isWhiteSpace c = false →
    ∃! w, w ∈ ws ∧ w.start ≤ i ∧ i < w.stop

section Stretches

variable {kind : WordKind} {t : Text} {start stop start' stop' i n : Nat} {c : Char}
  {w w' : WordToken}

/-! ### Stretches between cuts -/

/-- What stands between two cuts that go through no token and has no such cut inside. -/
structure IsStretch (kind : WordKind) (t : Text) (start stop : Nat) : Prop where
  /-- The cut before it. -/
  opens : CleanCut kind t start
  /-- The cut behind it. -/
  closes : CleanCut kind t stop
  /-- There is none between. -/
  whole : ∀ i, start < i → i < stop → ¬ CleanCut kind t i

/-- The characters on both sides of a cut through a token. -/
theorem not_cleanCut_iff :
    ¬ CleanCut kind t i ↔
      ∃ c d, 0 < i ∧ t[i - 1]? = some c ∧ t[i]? = some d ∧ kind.links c d = true := by
  simp only [CleanCut, not_forall, Bool.not_eq_false, exists_prop]

theorem cleanCut_drop (hi : 0 < i) : CleanCut kind (t.drop n) i ↔ CleanCut kind t (n + i) := by
  simp only [CleanCut, List.getElem?_drop, hi, Nat.add_pos_right n hi, Nat.add_sub_assoc hi]

/-- **Stretches that have a character in common are the same**: neither begins or ends inside the
other. -/
theorem IsStretch.eq (h : IsStretch kind t start stop) (h' : IsStretch kind t start' stop')
    (hi : start ≤ i ∧ i < stop) (hi' : start' ≤ i ∧ i < stop') : start = start' ∧ stop = stop' := by
  have hstart : ¬ (start < start') := fun hlt => h.whole start' hlt (by omega) h'.opens
  have hstart' : ¬ (start' < start) := fun hlt => h'.whole start hlt (by omega) h.opens
  have hstop : ¬ (stop < stop') := fun hlt => h'.whole stop (by omega) hlt h.closes
  have hstop' : ¬ (stop' < stop) := fun hlt => h.whole stop' (by omega) hlt h'.closes
  omega

/-- A run that is maximal is a stretch. -/
theorem IsMaximalRun.isStretch (h : IsMaximalRun kind.runs t start stop)
    (hle : stop ≤ t.length) : IsStretch kind t start stop := by
  constructor
  · intro c d hpos hc _
    simp [WordKind.links, h.before c hpos hc]
  · intro c d _ _ hd
    simp [WordKind.links, h.after d hd]
  · intro i hi hi'
    have hc := List.getElem?_eq_getElem (show i - 1 < t.length by omega)
    have hd := List.getElem?_eq_getElem (show i < t.length by omega)
    refine not_cleanCut_iff.2 ⟨_, _, by omega, hc, hd, ?_⟩
    simp [WordKind.links, h.inside _ _ (by omega) (by omega) hc, h.inside i _ (by omega) hi' hd]

/-- So is a character from which no token goes on. -/
theorem isStretch_single (h : ∀ c, t[start]? = some c → kind.runs c = false) :
    IsStretch kind t start (start + 1) := by
  constructor
  · intro c d _ _ hd
    simp [WordKind.links, h d hd]
  · intro c d _ hc _
    simp [WordKind.links, h c hc]
  · intro i hi hi'
    omega

/-- If a token goes on from the first character of a stretch, it goes on to the last, and no
further. -/
theorem IsStretch.isMaximalRun (h : IsStretch kind t start stop) (hlt : start < stop)
    (hle : stop ≤ t.length) (hfirst : t[start]? = some c) (hruns : kind.runs c = true) :
    IsMaximalRun kind.runs t start stop := by
  have hinside : ∀ i d, start ≤ i → i < stop → t[i]? = some d → kind.runs d = true := by
    intro i d hi hi' hd
    obtain rfl | hi := Nat.eq_or_lt_of_le hi
    · obtain rfl := Option.some.inj (hfirst.symm.trans hd)
      exact hruns
    · obtain ⟨_, d', -, -, hd', hlinks⟩ := not_cleanCut_iff.1 (h.whole i hi hi')
      obtain rfl := Option.some.inj (hd.symm.trans hd')
      exact (Bool.and_eq_true_iff.1 hlinks).2
  refine ⟨hinside, fun d hpos hd => ?_, fun d hd => ?_⟩
  · have hcut := h.opens d c hpos hd hfirst
    simpa [WordKind.links, hruns] using hcut
  · have hlast := List.getElem?_eq_getElem (show stop - 1 < t.length by omega)
    have hcut := h.closes _ d (by omega) hlast hd
    simpa [WordKind.links, hinside _ _ (by omega) (by omega) hlast] using hcut

/-- If none goes on from it, there is no second character. -/
theorem IsStretch.stop_eq (h : IsStretch kind t start stop) (hlt : start < stop)
    (hfirst : t[start]? = some c) (hruns : kind.runs c = false) : stop = start + 1 := by
  refine Nat.le_antisymm (Nat.le_of_not_lt fun hmore => ?_) hlt
  obtain ⟨c', _, -, hc', -, hlinks⟩ :=
    not_cleanCut_iff.1 (h.whole (start + 1) (Nat.lt_succ_self start) hmore)
  obtain rfl := Option.some.inj (hfirst.symm.trans hc')
  simp [WordKind.links, hruns] at hlinks

/-- **A stretch is a maximal run** or a single character from which no token goes on. -/
theorem IsStretch.run_or_single (h : IsStretch kind t start stop) (hlt : start < stop)
    (hle : stop ≤ t.length) :
    IsMaximalRun kind.runs t start stop ∨
      stop = start + 1 ∧ ∀ c, t[start]? = some c → kind.runs c = false := by
  have hfirst := List.getElem?_eq_getElem (show start < t.length by omega)
  cases hruns : kind.runs t[start] with
  | true => exact .inl (h.isMaximalRun hlt hle hfirst hruns)
  | false =>
    refine .inr ⟨h.stop_eq hlt hfirst hruns, fun c hc => ?_⟩
    obtain rfl := Option.some.inj (hfirst.symm.trans hc)
    exact hruns

/-! ### Tokens are stretches -/

/-- A token stands between two cuts, with none inside. -/
theorem IsToken.stretch (h : IsToken kind t w) : IsStretch kind t w.start w.stop := by
  obtain ⟨-, hle, -, -, hshape⟩ := h
  cases kind with
  | word =>
    rw [WordKind.Shape, ← runs_word] at hshape
    obtain hrun | ⟨hstop, hsingle⟩ := hshape
    · exact hrun.isStretch hle
    · rw [hstop]
      exact isStretch_single fun c hc => (hsingle c hc).2
  | bigWord =>
    rw [WordKind.Shape, ← runs_bigWord] at hshape
    exact hshape.isStretch hle

/-- What stands between two cuts, with none inside, has the shape of a token, unless it is white
space. -/
theorem IsStretch.shape (h : IsStretch kind t start stop) (hlt : start < stop)
    (hle : stop ≤ t.length)
    (hfirst : ∀ c, t[start]? = some c → Unicode.isWhiteSpace c = false) :
    kind.Shape t start stop := by
  have hcases := h.run_or_single hlt hle
  cases kind with
  | word =>
    rw [runs_word] at hcases
    exact hcases.imp_right fun hsingle =>
      ⟨hsingle.1, fun c hc => ⟨hfirst c hc, hsingle.2 c hc⟩⟩
  | bigWord =>
    rw [runs_bigWord] at hcases
    refine hcases.resolve_right fun ⟨_, hsingle⟩ => ?_
    have hc := List.getElem?_eq_getElem (show start < t.length by omega)
    simpa [hfirst _ hc] using hsingle _ hc

/-- **Tokens that have a character in common are the same.** -/
theorem IsToken.eq (h : IsToken kind t w) (h' : IsToken kind t w')
    (hi : w.start ≤ i ∧ i < w.stop) (hi' : w'.start ≤ i ∧ i < w'.stop) : w = w' := by
  obtain ⟨hstart, hstop⟩ := h.stretch.eq h'.stretch hi hi'
  have htext : w.text = w'.text := by rw [h.slice, h'.slice, hstart, hstop]
  cases w
  cases w'
  rw [WordToken.mk.injEq]
  exact ⟨htext, hstart, hstop⟩

/-! ### The tokens that are made -/

theorem isStretch_runLength {rest : Text} (hrest : t.drop start = c :: rest)
    (hwhite : Unicode.isWhiteSpace c = false) (hcut : CleanCut kind t start) :
    IsStretch kind t start (start + runLength kind c rest + 1) := by
  refine ⟨hcut, ?_, fun i hi hi' => ?_⟩
  · rw [Nat.add_assoc, ← cleanCut_drop (Nat.succ_pos _), hrest]
    exact cleanCut_run hwhite rest
  · obtain ⟨j, rfl⟩ := Nat.exists_eq_add_of_lt hi
    rw [Nat.add_assoc, ← cleanCut_drop (Nat.succ_pos _), hrest]
    have hj : j < runLength kind c rest := by omega
    have hle := runLength_le kind c rest
    have ha := List.getElem?_eq_getElem (show j < (c :: rest).length by simp; omega)
    have hd := List.getElem?_eq_getElem (show j < rest.length by omega)
    have hlinks := (lt_runLength_iff hwhite ha hd (Nat.le_of_lt hj)).1 hj
    exact not_cleanCut_iff.2 ⟨_, _, Nat.succ_pos j, ha, hd, hlinks⟩

theorem isToken_runLength {rest : Text} (hrest : t.drop start = c :: rest)
    (hwhite : Unicode.isWhiteSpace c = false) (hcut : CleanCut kind t start) :
    IsToken kind t ⟨c :: rest.take (runLength kind c rest), start,
      start + runLength kind c rest + 1⟩ := by
  have hmore := runLength_le kind c rest
  have hlength : t.length - start = rest.length + 1 := by
    rw [← List.length_drop, hrest, List.length_cons]
  have hle : start + runLength kind c rest + 1 ≤ t.length := by omega
  have hfirst : t[start]? = some c := by rw [← List.head?_drop, hrest, List.head?_cons]
  constructor
  case nonempty => exact Nat.lt_succ_of_le (Nat.le_add_right _ _)
  case inText => exact hle
  case slice =>
    rw [hrest, Nat.add_assoc, Nat.add_sub_cancel_left, List.take_succ_cons]
  case noWhiteSpace =>
    intro d hd
    obtain rfl | hd := List.mem_cons.1 hd
    · exact hwhite
    · exact not_whiteSpace_of_mem_run hd
  case shape =>
    refine (isStretch_runLength hrest hwhite hcut).shape (by omega) hle fun d hd => ?_
    obtain rfl := Option.some.inj (hfirst.symm.trans hd)
    exact hwhite

/-- **What is made of the rest of a text are tokens of it**, if no token goes on across the cut. The
induction is on the rest, cut behind its white space and its tokens. -/
theorem isToken_of_mem_tokensFrom {rest : Text} (hrest : t.drop start = rest)
    (hcut : CleanCut kind t start) (hw : w ∈ tokensFrom kind start rest) : IsToken kind t w := by
  fun_induction tokensFrom kind start rest with
  | case1 => simp at hw
  | case2 start c rest hc ih =>
    refine ih ?_ ?_ hw
    · rw [← List.drop_drop, hrest, List.drop_succ_cons, List.drop_zero]
    · rw [← cleanCut_drop Nat.one_pos, hrest]
      exact cleanCut_whiteSpace hc rest
  | case3 start c rest hc more ih =>
    have hwhite : Unicode.isWhiteSpace c = false := by simpa using hc
    obtain rfl | hw := List.mem_cons.1 hw
    · exact isToken_runLength hrest hwhite hcut
    · refine ih ?_ (isStretch_runLength hrest hwhite hcut).closes hw
      rw [Nat.add_assoc, ← List.drop_drop, hrest, List.drop_succ_cons]

/-- **No character but white space is left out.** -/
theorem exists_mem_tokensFrom (hwhite : Unicode.isWhiteSpace c = false) (i : Nat)
    (hc : t[i]? = some c) :
    ∃ w ∈ tokensFrom kind start t, w.start ≤ start + i ∧ start + i < w.stop := by
  revert i
  fun_induction tokensFrom kind start t with
  | case1 =>
    intro i hc
    simp at hc
  | case2 start d rest hd ih =>
    intro i hc
    cases i with
    | zero =>
      obtain rfl : d = c := by simpa using hc
      simp [hwhite] at hd
    | succ i =>
      rw [Nat.add_comm i 1, ← Nat.add_assoc]
      exact ih i (by simpa using hc)
  | case3 start d rest hd more ih =>
    intro i hc
    rw [List.exists_mem_cons_iff]
    obtain hlt | hle := Nat.lt_or_ge more i
    · obtain ⟨j, rfl⟩ := Nat.exists_eq_add_of_le (Nat.succ_le_of_lt hlt)
      have hj : (rest.drop more)[j]? = some c := by
        rwa [List.getElem?_drop, ← List.getElem?_cons_succ (a := d), Nat.add_right_comm]
      rw [← Nat.add_assoc]
      exact .inr (ih j hj)
    · exact .inl ⟨Nat.le_add_right _ _, show start + i < start + more + 1 by omega⟩

theorem isTokenization_tokenize (kind : WordKind) (t : Text) :
    IsTokenization kind t (tokenize kind t) := by
  have htokens : ∀ w ∈ tokenize kind t, IsToken kind t w := fun w hw =>
    isToken_of_mem_tokensFrom List.drop_zero (fun c d h => absurd h (Nat.lt_irrefl 0)) hw
  refine ⟨pairwise_tokensFrom kind 0 t, htokens, fun i c hc hwhite => ?_⟩
  obtain ⟨w, hw, hi⟩ : ∃ w ∈ tokenize kind t, w.start ≤ 0 + i ∧ 0 + i < w.stop :=
    exists_mem_tokensFrom hwhite i hc
  rw [Nat.zero_add] at hi
  exact ⟨w, ⟨hw, hi⟩, fun w' hw' => (htokens w' hw'.1).eq (htokens w hw) hw'.2 hi⟩

/-! ### No other tokens -/

/-- All tokens of a text are in any list of its tokens. -/
theorem IsTokenization.mem_iff {ws : List WordToken} (h : IsTokenization kind t ws) :
    w ∈ ws ↔ IsToken kind t w := by
  refine ⟨h.tokens w, fun hw => ?_⟩
  have hlt := hw.nonempty
  have hle := hw.inText
  have hfirst := List.getElem?_eq_getElem (show w.start < t.length by omega)
  have hmem : t[w.start] ∈ w.text := by
    rw [hw.slice]
    refine List.mem_of_getElem? (i := 0) ?_
    rw [List.getElem?_take_of_lt (by omega), List.getElem?_drop, Nat.add_zero, hfirst]
  obtain ⟨w', ⟨hw', hi'⟩, -⟩ := h.covers _ _ hfirst (hw.noWhiteSpace _ hmem)
  rwa [hw.eq (h.tokens w' hw') ⟨Nat.le_refl _, hlt⟩ hi']

theorem IsTokenization.starts {ws : List WordToken} (h : IsTokenization kind t ws) :
    ws.Pairwise fun w w' => w.start < w'.start :=
  h.ordered.imp_of_mem fun hw _ hle => Nat.lt_of_lt_of_le (h.tokens _ hw).nonempty hle

/-- **The tokens of a text are determined by what is asked of them**: that they are in order and do
not overlap, that each is a slice of the text without white space, which is a maximal run or a
single character of punctuation as the rule has it, and that each character that is no white space
is in just one of them. -/
theorem isTokenization_iff (kind : WordKind) (t : Text) (ws : List WordToken) :
    IsTokenization kind t ws ↔ ws = tokenize kind t := by
  constructor
  · intro h
    have htokenize := isTokenization_tokenize kind t
    let before (w w' : WordToken) : Prop := w.start < w'.start
    have : Std.Irrefl before := ⟨fun w => Nat.lt_irrefl _⟩
    have : Std.Antisymm before := ⟨fun w w' hlt hlt' => absurd hlt' (Nat.lt_asymm hlt)⟩
    refine List.Pairwise.eq_of_mem_iff (r := before) h.starts htokenize.starts fun w => ?_
    rw [h.mem_iff, htokenize.mem_iff]
  · rintro rfl
    exact isTokenization_tokenize kind t

/-- A run of word characters, and punctuation that stands alone beside punctuation. -/
example : tokenize .word ['é', '_', '-', '>', ' ', 'x'] =
    [⟨['é', '_'], 0, 2⟩, ⟨['-'], 2, 3⟩, ⟨['>'], 3, 4⟩, ⟨['x'], 5, 6⟩] := by decide +kernel

end Stretches

end ModalEditor
