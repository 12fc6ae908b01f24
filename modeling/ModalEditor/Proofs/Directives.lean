import Mathlib.Data.List.TakeWhile
import Mathlib.Data.List.Perm.Basic
import ModalEditor.Proofs.Geometry
import ModalEditor.Settings

/-!
# Directives

A directive that applies adjusts one setting, whatever the settings are (`Settings.Asks` is the
table), and one that fails does so whatever they are (`Settings.apply_read_eq_ok_iff`). So the
directives of a text come down to the adjustments that its words ask for, up to the first word that
asks for none. Words are what white space separates: a text splits at any white space
(`splitWhiteSpace_append_cons`).

`Settings.set_in_order` says so for every text, and that settings that are written as directives
are read back, in any order and from whatever settings.
-/

namespace ModalEditor

/-! ### Words between white space -/

section WhiteSpace

variable {c : Char} {t w : Text}

/-- The words of a text do not depend on where it stands. -/
theorem map_text_tokensFrom (start : Nat) (t : Text) :
    (tokensFrom .bigWord start t).map (·.text) = splitWhiteSpace t := by
  rw [tokensFrom_eq_map_tokenize, List.map_map]
  rfl

theorem splitWhiteSpace_cons_of_whiteSpace (hc : Unicode.isWhiteSpace c = true) (t : Text) :
    splitWhiteSpace (c :: t) = splitWhiteSpace t := by
  rw [← map_text_tokensFrom 1 t, splitWhiteSpace, tokenize, tokensFrom, if_pos hc]

/-- **A text splits at white space.** -/
theorem splitWhiteSpace_append_cons (hc : Unicode.isWhiteSpace c = true) (s t : Text) :
    splitWhiteSpace (s ++ c :: t) = splitWhiteSpace s ++ splitWhiteSpace t := by
  suffices h : ∀ start, (tokensFrom .bigWord start (s ++ c :: t)).map (·.text) =
      (tokensFrom .bigWord start s).map (·.text) ++ splitWhiteSpace t from h 0
  intro start
  fun_induction tokensFrom .bigWord start s with
  | case1 start =>
    rw [map_text_tokensFrom, List.nil_append, splitWhiteSpace_cons_of_whiteSpace hc]
    rfl
  | case2 start d rest hd ih =>
    rw [List.cons_append, tokensFrom, if_pos hd, ih]
  | case3 start d rest hd more ih =>
    -- The run of `d` ends in `rest`, or with it, since `c` is white space.
    have hrun : runLength .bigWord d (rest ++ c :: t) = more := by
      have hstop : ((rest ++ c :: t).takeWhile fun d => !Unicode.isWhiteSpace d &&
          WordKind.joins .bigWord d) =
          rest.takeWhile fun d => !Unicode.isWhiteSpace d && WordKind.joins .bigWord d := by
        rw [List.takeWhile_append]
        split
        · rename_i hall
          rw [List.takeWhile_cons_of_neg (by simp [hc]), List.append_nil]
          exact ((List.takeWhile_prefix _).eq_of_length hall).symm
        · rfl
      show runLength .bigWord d (rest ++ c :: t) = runLength .bigWord d rest
      unfold runLength
      rw [hstop]
    have hle : more ≤ rest.length := runLength_le _ _ _
    rw [List.cons_append, tokensFrom, if_neg hd]
    simp only [hrun, List.map_cons, List.cons_append, List.take_append_of_le_length hle,
      List.drop_append_of_le_length hle, ih]

theorem splitWhiteSpace_append_of_whiteSpace {s : Text}
    (hs : ∀ c ∈ s, Unicode.isWhiteSpace c = true) (t : Text) :
    splitWhiteSpace (s ++ t) = splitWhiteSpace t := by
  induction s with
  | nil => rfl
  | cons c s ih =>
    obtain ⟨hc, hs⟩ := List.forall_mem_cons.1 hs
    rw [List.cons_append, splitWhiteSpace_cons_of_whiteSpace hc, ih hs]

/-- A text without white space, if it is not empty. -/
def IsWord (w : Text) : Prop := w ≠ [] ∧ ∀ c ∈ w, Unicode.isWhiteSpace c = false

instance (w : Text) : Decidable (IsWord w) :=
  decidable_of_iff (w ≠ [] ∧ w.all (fun c => !Unicode.isWhiteSpace c) = true) (by simp [IsWord])

theorem splitWhiteSpace_of_isWord (hw : IsWord w) : splitWhiteSpace w = [w] := by
  obtain ⟨hne, hwhite⟩ := hw
  cases w with
  | nil => exact absurd rfl hne
  | cons c rest =>
    obtain ⟨hc, hrest⟩ := List.forall_mem_cons.1 hwhite
    have hall : (rest.takeWhile fun d => !Unicode.isWhiteSpace d &&
        WordKind.joins .bigWord d) = rest :=
      List.takeWhile_eq_self_iff.2 fun d hd => by simp [WordKind.joins, hrest d hd]
    have hrun : runLength .bigWord c rest = rest.length := by
      rw [runLength, if_pos (by simp [WordKind.joins, hc]), hall]
    rw [splitWhiteSpace, tokenize, tokensFrom, if_neg (by simp [hc])]
    simp [hrun, tokensFrom]

/-- Words that white space separates are read back. -/
theorem splitWhiteSpace_intercalate {sep : Text} (hne : sep ≠ [])
    (hsep : ∀ c ∈ sep, Unicode.isWhiteSpace c = true) {words : List Text}
    (hwords : ∀ w ∈ words, IsWord w) : splitWhiteSpace (List.intercalate sep words) = words := by
  induction words with
  | nil => simp [splitWhiteSpace, tokenize, tokensFrom]
  | cons w words ih =>
    obtain ⟨hw, hwords⟩ := List.forall_mem_cons.1 hwords
    cases words with
    | nil => rw [List.intercalate_singleton, splitWhiteSpace_of_isWord hw]
    | cons w' words =>
      obtain ⟨c, sep', rfl⟩ := List.exists_cons_of_ne_nil hne
      obtain ⟨hc, hsep'⟩ := List.forall_mem_cons.1 hsep
      rw [List.intercalate_cons_cons, List.append_assoc, List.cons_append,
        splitWhiteSpace_append_cons hc, splitWhiteSpace_append_of_whiteSpace hsep', ih hwords,
        splitWhiteSpace_of_isWord hw, List.singleton_append]

end WhiteSpace

/-! ### Numbers -/

theorem isWhiteSpace_of_isDigit {c : Char} (h : c.isDigit = true) :
    Unicode.isWhiteSpace c = false := by
  have hrange : 48 ≤ c.toNat ∧ c.toNat ≤ 57 := by
    simpa [Char.isDigit, UInt32.le_iff_toNat_le] using h
  simp only [Unicode.isWhiteSpace, Bool.or_eq_false_iff, Bool.and_eq_false_iff,
    decide_eq_false_iff_not, beq_eq_false_iff_ne]
  omega

theorem isDigit_of_mem_showNumber {n : Nat} {c : Char} (h : c ∈ showNumber n) :
    c.isDigit = true := Nat.isDigit_of_mem_toDigits (by decide) (by decide) h

/-- **A number that is written is read back**, if it is one of those that are read at all. -/
theorem readNumber?_showNumber {n : Nat} (h : n ≤ maxCount) :
    readNumber? (showNumber n) = some n := by
  have hplus : (showNumber n).head? ≠ some '+' := by
    intro hhead
    have hdigit := isDigit_of_mem_showNumber (List.mem_of_mem_head? hhead)
    exact absurd hdigit (by decide)
  have hempty : (showNumber n).isEmpty = false := by simp [showNumber, Nat.toDigits_ne_nil]
  have hall : (showNumber n).all Char.isDigit = true :=
    List.all_eq_true.2 fun c hc => isDigit_of_mem_showNumber hc
  have hvalue : ofDigits (showNumber n) = n := Nat.ofDigitChars_toDigits (by decide) (by decide)
  simp [readNumber?, hplus, hempty, hall, hvalue, Nat.not_lt.2 h]

/-! ### What a word asks for -/

namespace Settings

/-- A change of one setting. -/
inductive Adjustment where
  /-- Of whether searches ignore case, from what it was. -/
  | ignoreCase (f : Bool → Bool)
  /-- Of the limit on nesting. -/
  | macroDepth (n : Nat)
  /-- Of the limit on replayed keys. -/
  | macroBudget (n : Nat)

/-- The settings after an adjustment. -/
def adjust (s : Settings) : Adjustment → Settings
  | .ignoreCase f => { s with ignoreCase := f s.ignoreCase }
  | .macroDepth n => { s with macroDepth := n }
  | .macroBudget n => { s with macroBudget := n }

/-- **The table of directives**: the words that ask for an adjustment. Any name of a setting will
do. -/
inductive Asks : Text → Adjustment → Prop where
  /-- The name of a flag switches it on. -/
  | on {name : Text} (h : name ∈ ignoreCaseNames) : Asks name (.ignoreCase fun _ => true)
  /-- After `no` it switches it off. -/
  | off {name : Text} (h : name ∈ ignoreCaseNames) :
    Asks ('n' :: 'o' :: name) (.ignoreCase fun _ => false)
  /-- Before `!` it switches it over. -/
  | toggle {name : Text} (h : name ∈ ignoreCaseNames) : Asks (name ++ ['!']) (.ignoreCase (!·))
  /-- The name of the limit on nesting is assigned a number. -/
  | macroDepth {name value : Text} {n : Nat} (h : name ∈ macroDepthNames)
    (reads : readNumber? value = some n) : Asks (name ++ '=' :: value) (.macroDepth n)
  /-- So is the name of the limit on replayed keys. -/
  | macroBudget {name value : Text} {n : Nat} (h : name ∈ macroBudgetNames)
    (reads : readNumber? value = some n) : Asks (name ++ '=' :: value) (.macroBudget n)

variable {s s' : Settings} {w : Text} {a : Adjustment}

theorem read_assign {name : Text} (h : '=' ∉ name) (value : Text) :
    Directive.read (name ++ '=' :: value) = .assign name value := by
  have hname : ∀ c ∈ name, (c != '=') = true := fun c hc => bne_iff_ne.2 fun heq => h (heq ▸ hc)
  have htake : (name ++ '=' :: value).takeWhile (· != '=') = name := by
    rw [List.takeWhile_append_of_pos hname]
    simp
  have hdrop : (name ++ '=' :: value).dropWhile (· != '=') = '=' :: value := by
    rw [List.dropWhile_append_of_pos hname]
    simp
  simp [Directive.read, htake, hdrop]

theorem isFlag_iff {name : Text} : isFlag name = true ↔ name ∈ ignoreCaseNames :=
  List.contains_iff_mem

theorem modifyFlag_eq_ok_iff {name : Text} {f : Bool → Bool} :
    s.modifyFlag name f = .ok s' ↔ name ∈ ignoreCaseNames ∧ s' = s.adjust (.ignoreCase f) := by
  by_cases h : isFlag name = true
  · rw [modifyFlag, if_pos h, Except.ok.injEq, and_iff_right (isFlag_iff.1 h)]
    exact eq_comm
  · have hname : name ∉ ignoreCaseNames := fun hmem => h (isFlag_iff.2 hmem)
    rw [modifyFlag, if_neg h]
    split <;> simp [hname]

theorem notMem_macroBudgetNames {name : Text} (h : name ∈ macroDepthNames) :
    name ∉ macroBudgetNames := by
  revert name
  decide

theorem assignNumber_eq_ok_iff {name : Text} {n : Nat} :
    s.assignNumber name n = .ok s' ↔
      name ∈ macroDepthNames ∧ s' = s.adjust (.macroDepth n) ∨
        name ∈ macroBudgetNames ∧ s' = s.adjust (.macroBudget n) := by
  unfold assignNumber
  by_cases hdepth : name ∈ macroDepthNames
  · rw [if_pos (List.contains_iff_mem.2 hdepth), Except.ok.injEq, and_iff_right hdepth]
    simp only [notMem_macroBudgetNames hdepth, false_and, or_false]
    exact eq_comm
  · rw [if_neg (mt List.contains_iff_mem.1 hdepth)]
    by_cases hbudget : name ∈ macroBudgetNames
    · rw [if_pos (List.contains_iff_mem.2 hbudget), Except.ok.injEq, and_iff_right hbudget]
      simp only [hdepth, false_and, false_or]
      exact eq_comm
    · rw [if_neg (mt List.contains_iff_mem.1 hbudget)]
      split <;> simp [hdepth, hbudget]

theorem Asks.apply (h : Asks w a) (s : Settings) : s.apply (.read w) = .ok (s.adjust a) := by
  cases h with
  | on h =>
    have hread : ∀ name ∈ ignoreCaseNames, Directive.read name = .on name := by decide
    rw [hread w h]
    exact (modifyFlag_eq_ok_iff (f := fun _ => true)).2 ⟨h, rfl⟩
  | @off name h =>
    have hread : ∀ name ∈ ignoreCaseNames, Directive.read ('n' :: 'o' :: name) = .off name := by
      decide
    rw [hread name h]
    exact (modifyFlag_eq_ok_iff (f := fun _ => false)).2 ⟨h, rfl⟩
  | @toggle name h =>
    have hread : ∀ name ∈ ignoreCaseNames, Directive.read (name ++ ['!']) = .toggle name := by
      decide
    rw [hread name h]
    exact modifyFlag_eq_ok_iff.2 ⟨h, rfl⟩
  | @macroDepth name value n h reads =>
    have hname : ∀ name ∈ macroDepthNames, '=' ∉ name := by decide
    rw [read_assign (hname name h)]
    simp only [Settings.apply, reads]
    exact assignNumber_eq_ok_iff.2 (.inl ⟨h, rfl⟩)
  | @macroBudget name value n h reads =>
    have hname : ∀ name ∈ macroBudgetNames, '=' ∉ name := by decide
    rw [read_assign (hname name h)]
    simp only [Settings.apply, reads]
    exact assignNumber_eq_ok_iff.2 (.inr ⟨h, rfl⟩)

/-- What an assignment asks for, if it applies. -/
theorem exists_asks_of_assign {name value : Text} (h : s.apply (.assign name value) = .ok s') :
    ∃ a, Asks (name ++ '=' :: value) a ∧ s' = s.adjust a := by
  cases hvalue : readNumber? value with
  | none => simp [apply, hvalue] at h
  | some n =>
    simp only [apply, hvalue] at h
    rcases assignNumber_eq_ok_iff.1 h with ⟨hname, heq⟩ | ⟨hname, heq⟩
    · exact ⟨_, .macroDepth hname hvalue, heq⟩
    · exact ⟨_, .macroBudget hname hvalue, heq⟩

/-- A word that applies is in the table. The cases are those in which it is read. -/
theorem exists_asks_of_apply (h : s.apply (.read w) = .ok s') :
    ∃ a, Asks w a ∧ s' = s.adjust a := by
  by_cases hassign : '=' ∈ w
  · obtain ⟨name, value, rfl, hname⟩ := List.eq_append_cons_of_mem hassign
    rw [read_assign hname] at h
    exact exists_asks_of_assign h
  · unfold Directive.read at h
    rw [if_neg (mt List.contains_iff_mem.1 hassign)] at h
    split at h
    · rename_i hlast
      obtain ⟨name, rfl⟩ := List.getLast?_eq_some_iff.1 hlast
      rw [List.dropLast_concat] at h
      obtain ⟨hname, heq⟩ := modifyFlag_eq_ok_iff.1 h
      exact ⟨_, .toggle hname, heq⟩
    · split at h
      · rename_i name
        split at h
        · obtain ⟨hname, heq⟩ := (modifyFlag_eq_ok_iff (f := fun _ => false)).1 h
          exact ⟨_, .off hname, heq⟩
        · obtain ⟨hname, heq⟩ := (modifyFlag_eq_ok_iff (f := fun _ => true)).1 h
          exact ⟨_, .on hname, heq⟩
      · obtain ⟨hname, heq⟩ := (modifyFlag_eq_ok_iff (f := fun _ => true)).1 h
        exact ⟨_, .on hname, heq⟩

/-- **A word applies just where it is in the table**, with the adjustment that it asks for. -/
theorem apply_read_eq_ok_iff :
    s.apply (.read w) = .ok s' ↔ ∃ a, Asks w a ∧ s' = s.adjust a := by
  refine ⟨exists_asks_of_apply, ?_⟩
  rintro ⟨a, h, rfl⟩
  exact h.apply s

/-! ### Failures -/

/-- Whether a directive fails does not depend on the settings, nor does the failure. -/
theorem apply_eq_error {d : Directive} {e : SettingError} (h : s.apply d = .error e)
    (s' : Settings) : s'.apply d = .error e := by
  have hflag {name : Text} {f : Bool → Bool} (h : s.modifyFlag name f = .error e) :
      s'.modifyFlag name f = .error e := by
    unfold modifyFlag at h ⊢
    split at h
    · exact nomatch h
    · rename_i hname
      rwa [if_neg hname]
  cases d with
  | on name => exact hflag (f := fun _ => true) h
  | off name => exact hflag (f := fun _ => false) h
  | toggle name => exact hflag (f := (!·)) h
  | assign name value =>
    simp only [apply] at h ⊢
    cases hvalue : readNumber? value with
    | none => simpa only [hvalue] using h
    | some n =>
      simp only [hvalue] at h ⊢
      unfold assignNumber at h ⊢
      split at h
      · exact nomatch h
      · rename_i hdepth
        rw [if_neg hdepth]
        split at h
        · exact nomatch h
        · rename_i hbudget
          rwa [if_neg hbudget]

/-- A word that is not in the table fails, whatever the settings. -/
theorem exists_error_of_not_asks (h : ∀ a, ¬ Asks w a) :
    ∃ e, ∀ s : Settings, s.apply (.read w) = .error e := by
  cases happly : ({} : Settings).apply (.read w) with
  | error e => exact ⟨e, apply_eq_error happly⟩
  | ok s' =>
    obtain ⟨a, hasks, -⟩ := apply_read_eq_ok_iff.1 happly
    exact absurd hasks (h a)

/-! ### Directives in order -/

variable {words : List Text} {as : List Adjustment}

/-- Words of the table make their adjustments, and then the rest is applied. -/
theorem applyAll_of_asks (h : List.Forall₂ Asks words as) (s : Settings) (ds : List Directive) :
    s.applyAll (words.map .read ++ ds) = (as.foldl adjust s).applyAll ds := by
  induction h generalizing s with
  | nil => rfl
  | @cons w a words as h _ ih =>
    simp only [List.map_cons, List.cons_append, applyAll, h.apply s, List.foldl_cons]
    exact ih (s.adjust a)

theorem set_of_asks {t : Text} (h : List.Forall₂ Asks (splitWhiteSpace t) as) (s : Settings) :
    s.set t = (as.foldl adjust s, none) := by
  have hall := applyAll_of_asks h s []
  rwa [List.append_nil] at hall

/-- Words are in the table up to the first that is not. -/
theorem exists_first_failure (words : List Text) :
    ∃ done as rest, words = done ++ rest ∧ List.Forall₂ Asks done as ∧
      (rest = [] ∨ ∃ w later, rest = w :: later ∧ ∀ a, ¬ Asks w a) := by
  induction words with
  | nil => exact ⟨[], [], [], rfl, .nil, .inl rfl⟩
  | cons w words ih =>
    by_cases h : ∃ a, Asks w a
    · obtain ⟨a, ha⟩ := h
      obtain ⟨done, as, rest, rfl, hdone, hrest⟩ := ih
      exact ⟨w :: done, a :: as, rest, rfl, .cons ha hdone, hrest⟩
    · exact ⟨[], [], w :: words, rfl, .nil, .inr ⟨w, words, rfl, not_exists.1 h⟩⟩

/-- What comes after the first word that is not in the table does not matter. -/
theorem set_of_first_failure {t : Text} {done later : List Text} {e : SettingError}
    (ht : splitWhiteSpace t = done ++ w :: later) (hdone : List.Forall₂ Asks done as)
    (he : ∀ s : Settings, s.apply (.read w) = .error e) (s : Settings) :
    s.set t = (as.foldl adjust s, some e) := by
  rw [set, Directive.readAll, ht, List.map_append, applyAll_of_asks hdone]
  simp only [List.map_cons, applyAll, he]

theorem exists_asks_of_set {t : Text} (h : (s.set t).2 = none) :
    ∃ as, List.Forall₂ Asks (splitWhiteSpace t) as := by
  obtain ⟨done, as, rest, hsplit, hdone, hrest⟩ := exists_first_failure (splitWhiteSpace t)
  rcases hrest with rfl | ⟨w, later, rfl, hw⟩
  · rw [List.append_nil] at hsplit
    exact ⟨as, hsplit ▸ hdone⟩
  · obtain ⟨e, he⟩ := exists_error_of_not_asks hw
    rw [set_of_first_failure hsplit hdone he] at h
    exact nomatch h

/-! ### Settings as directives -/

/-- The settings that directives can write: the limits are among the numbers that are read. -/
def InRange (s : Settings) : Prop := s.macroDepth ≤ maxCount ∧ s.macroBudget ≤ maxCount

instance (s : Settings) : Decidable s.InRange := inferInstanceAs (Decidable (_ ∧ _))

/-- Settings as directives, one for each. -/
def write (s : Settings) : List Text :=
  [if s.ignoreCase then ['i', 'c'] else ['n', 'o', 'i', 'c'],
    ['m', 'a', 'c', 'r', 'o', 'd', 'e', 'p', 't', 'h', '='] ++ showNumber s.macroDepth,
    ['m', 'a', 'c', 'r', 'o', 'b', 'u', 'd', 'g', 'e', 't', '='] ++ showNumber s.macroBudget]

/-- What they ask for. -/
def written (s : Settings) : List Adjustment :=
  [.ignoreCase fun _ => s.ignoreCase, .macroDepth s.macroDepth, .macroBudget s.macroBudget]

theorem forall₂_asks_write (h : s.InRange) : List.Forall₂ Asks s.write s.written := by
  have hflag : Asks (if s.ignoreCase then ['i', 'c'] else ['n', 'o', 'i', 'c'])
      (.ignoreCase fun _ => s.ignoreCase) := by
    cases s.ignoreCase with
    | true => exact .on (by decide)
    | false => exact @Asks.off ['i', 'c'] (by decide)
  refine .cons hflag (.cons ?_ (.cons ?_ .nil))
  · have hname : ['m', 'a', 'c', 'r', 'o', 'd', 'e', 'p', 't', 'h'] ∈ macroDepthNames := by decide
    exact .macroDepth hname (readNumber?_showNumber h.1)
  · have hname : ['m', 'a', 'c', 'r', 'o', 'b', 'u', 'd', 'g', 'e', 't'] ∈ macroBudgetNames := by
      decide
    exact .macroBudget hname (readNumber?_showNumber h.2)

/-- The adjustments are of different settings, so that their order does not matter. -/
theorem foldl_adjust_of_perm (h : as.Perm s.written) (s' : Settings) : as.foldl adjust s' = s := by
  have hcomm : ∀ a ∈ as, ∀ a' ∈ as, ∀ s' : Settings,
      (s'.adjust a).adjust a' = (s'.adjust a').adjust a := by
    intro a ha a' ha' s'
    have hmem : ∀ a ∈ as, a ∈ s.written := fun a ha => h.mem_iff.1 ha
    have ha := hmem a ha
    have ha' := hmem a' ha'
    simp only [written, List.mem_cons, List.not_mem_nil, or_false] at ha ha'
    rcases ha with rfl | rfl | rfl <;> rcases ha' with rfl | rfl | rfl <;> rfl
  rw [h.foldl_eq' hcomm s']
  rfl

theorem isWord_of_mem_write (h : w ∈ s.write) : IsWord w := by
  have hnumber {name : Text} (hname : IsWord name) (n : Nat) : IsWord (name ++ showNumber n) := by
    refine ⟨by simp [hname.1], fun c hc => ?_⟩
    rcases List.mem_append.1 hc with hc | hc
    · exact hname.2 c hc
    · exact isWhiteSpace_of_isDigit (isDigit_of_mem_showNumber hc)
  have hflag : IsWord (if s.ignoreCase then ['i', 'c'] else ['n', 'o', 'i', 'c']) := by
    cases s.ignoreCase <;> decide
  simp only [write, List.mem_cons, List.not_mem_nil, or_false] at h
  rcases h with rfl | rfl | rfl
  · exact hflag
  · exact hnumber (by decide) _
  · exact hnumber (by decide) _

/-- **Directives are applied in order, one at a time.** The words of a text, from left to right,
make the adjustments that the table has for them, up to the first word that is not in the table. It
fails, whatever the settings; the settings stay as they were before it, and what comes after it does
not matter. Settings that are written as directives, in any order and with any white space between
them, are what is reached from any settings. -/
theorem set_in_order (s : Settings) :
    (∀ t, ∃ done as rest, splitWhiteSpace t = done ++ rest ∧ List.Forall₂ Asks done as ∧
      let reached := as.foldl adjust s
      (rest = [] ∧ s.set t = (reached, none) ∨
        ∃ w later e, rest = w :: later ∧ (∀ a, ¬ Asks w a) ∧
          (∀ s' : Settings, s'.apply (.read w) = .error e) ∧ s.set t = (reached, some e) ∧
          ∀ t' later', splitWhiteSpace t' = done ++ w :: later' →
            s.set t' = (reached, some e))) ∧
    ∀ o : Settings, o.InRange → ∀ words : List Text, words.Perm o.write →
      ∀ sep : Text, sep ≠ [] → (∀ c ∈ sep, Unicode.isWhiteSpace c = true) →
        s.set (List.intercalate sep words) = (o, none) := by
  constructor
  · intro t
    obtain ⟨done, as, rest, hsplit, hdone, hrest⟩ := exists_first_failure (splitWhiteSpace t)
    refine ⟨done, as, rest, hsplit, hdone, ?_⟩
    rcases hrest with rfl | ⟨w, later, rfl, hw⟩
    · rw [List.append_nil] at hsplit
      exact .inl ⟨rfl, set_of_asks (hsplit ▸ hdone) s⟩
    · obtain ⟨e, he⟩ := exists_error_of_not_asks hw
      exact .inr ⟨w, later, e, rfl, hw, he, set_of_first_failure hsplit hdone he s,
        fun t' later' ht' => set_of_first_failure ht' hdone he s⟩
  · intro o ho words hperm sep hne hsep
    obtain ⟨as, hasks, has⟩ := List.perm_comp_forall₂ hperm (forall₂_asks_write ho)
    have hwords : ∀ w ∈ words, IsWord w := fun w hw => isWord_of_mem_write (hperm.mem_iff.1 hw)
    have hsplit := splitWhiteSpace_intercalate hne hsep hwords
    rw [set_of_asks (hsplit.symm ▸ hasks) s, foldl_adjust_of_perm has s]

/-- The largest limit and the smallest are read back, the flag last. A directive that fails keeps the
one after it from being applied. -/
theorem set_in_order_largest :
    let o : Settings := { macroDepth := maxCount, macroBudget := 0 }
    let s : Settings := { ignoreCase := true }
    let words : List Text := [o.write[2], o.write[1], ['n', 'o', 'i', 'c']]
    o.InRange ∧ words.Perm o.write ∧ s.set (List.intercalate [' ', '\t'] words) = (o, none) ∧
      s.set ['m', 'd', '=', '3', ' ', 'n', 'o', 'm', 'd', ' ', 'm', 'b', '=', '7'] =
        ({ s with macroDepth := 3 }, some (.unknown ['n', 'o', 'm', 'd'])) := by
  intro o s words
  have ho : o.InRange := by decide
  have hwords : words.Perm o.write := by decide +kernel
  have hset := (set_in_order s).2 o ho words hwords [' ', '\t'] (by simp)
    (List.all_eq_true.1 (by decide))
  exact ⟨ho, hwords, hset, by decide +kernel⟩

end Settings

end ModalEditor
