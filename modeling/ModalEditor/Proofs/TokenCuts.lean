import Mathlib.Data.List.Basic
import Mathlib.Order.Bounds.Basic
import ModalEditor.Proofs.Browsing
import ModalEditor.Proofs.Geometry
import ModalEditor.Proofs.Places
import ModalEditor.Proofs.TypedMotions

/-!
# Words of a text that is cut

A word motion makes tokens of no more than the text ahead of the cursor, or behind it, and the cut
may go through a word. Whether a token begins or ends at a character depends on two characters only,
this one and its neighbour (`BeginsToken`, `EndsToken`), and tokens begin and end just there
(`exists_start_iff`, `exists_last_iff`). So a cut can do no harm but right behind it, where a token
may seem to begin, and right before it, where one may seem to end. The motions do not look there: a
start ahead is past the cursor, a start behind has its token to the right, and the end that is
sought ahead is past the cut (`beginsToken_drop`, `beginsToken_take`, `endsToken_drop`).

`Editor.word_motions_by_tokens` says where the motions lead by the tokens of the whole text.
-/

namespace ModalEditor

/-! ### Where tokens begin and end -/

/-- Whether a token may go on with a character, or from it. -/
def WordKind.runs (kind : WordKind) (c : Char) : Bool := !Unicode.isWhiteSpace c && kind.joins c

/-- Whether two neighbours stand in one token. -/
def WordKind.links (kind : WordKind) (c d : Char) : Bool := kind.runs c && kind.runs d

/-- A token begins at an offset: its character is no white space and does not go on from the one
before. -/
def BeginsToken (kind : WordKind) (t : Text) (i : Nat) : Prop :=
  ∃ c, t[i]? = some c ∧ Unicode.isWhiteSpace c = false ∧
    ∀ d, 0 < i → t[i - 1]? = some d → kind.links d c = false

/-- A token ends at an offset: its character is no white space and the next one does not go on from
it. -/
def EndsToken (kind : WordKind) (t : Text) (i : Nat) : Prop :=
  ∃ c, t[i]? = some c ∧ Unicode.isWhiteSpace c = false ∧
    ∀ d, t[i + 1]? = some d → kind.links c d = false

section Cuts

variable {kind : WordKind} {t : Text} {c d : Char} {i n start : Nat}

/-! ### Cuts -/

/-- No token goes on across a cut: the characters on both sides of it do not stand in one token. -/
def CleanCut (kind : WordKind) (t : Text) (n : Nat) : Prop :=
  ∀ c d, 0 < n → t[n - 1]? = some c → t[n]? = some d → kind.links c d = false

/-- Where a token ends is not changed by a cut before it. -/
theorem endsToken_drop : EndsToken kind (t.drop n) i ↔ EndsToken kind t (n + i) := by
  simp only [EndsToken, List.getElem?_drop, Nat.add_assoc]

/-- Where a token begins is not changed by a cut behind it. -/
theorem beginsToken_take : BeginsToken kind (t.take n) i ↔ i < n ∧ BeginsToken kind t i := by
  unfold BeginsToken
  by_cases hi : i < n
  · have hprev : i - 1 < n := by omega
    simp only [List.getElem?_take, hi, hprev, if_true, true_and]
  · simp [hi]

/-- Nor by a cut before it, unless the cut is right before it and a token goes on across it. -/
theorem beginsToken_drop (h : 0 < i ∨ CleanCut kind t n) :
    BeginsToken kind (t.drop n) i ↔ BeginsToken kind t (n + i) := by
  unfold BeginsToken
  simp only [List.getElem?_drop]
  refine exists_congr fun c => and_congr_right fun hc => and_congr_right fun _ => ?_
  obtain rfl | hi := Nat.eq_zero_or_pos i
  · obtain h | h := h
    · exact absurd h (Nat.lt_irrefl 0)
    · exact iff_of_true (fun d h0 => absurd h0 (Nat.lt_irrefl 0))
        fun d hn hd => h d c hn hd hc
  · rw [Nat.add_sub_assoc hi]
    simp only [hi, Nat.add_pos_right n hi, forall_const]

/-! ### Runs -/

theorem lt_length_takeWhile_iff {p : Char → Bool} (h : t[i]? = some d)
    (hi : i ≤ (t.takeWhile p).length) : i < (t.takeWhile p).length ↔ p d = true := by
  induction t generalizing i with
  | nil => simp at h
  | cons a t ih =>
    by_cases ha : p a = true
    · rw [List.takeWhile_cons_of_pos ha] at hi ⊢
      cases i with
      | zero =>
        obtain rfl : a = d := by simpa using h
        simp [ha]
      | succ i => simpa using ih (by simpa using h) (by simpa using hi)
    · rw [List.takeWhile_cons_of_neg ha] at hi ⊢
      obtain rfl : i = 0 := Nat.le_zero.1 hi
      obtain rfl : a = d := by simpa using h
      simp [ha]

/-- **A run goes on as long as neighbours stand in one token.** -/
theorem lt_runLength_iff (hwhite : Unicode.isWhiteSpace c = false) {rest : Text} {a : Char}
    (ha : (c :: rest)[i]? = some a) (hd : rest[i]? = some d) (hi : i ≤ runLength kind c rest) :
    i < runLength kind c rest ↔ kind.links a d = true := by
  have hruns : (fun d => !Unicode.isWhiteSpace d && kind.joins d) = kind.runs := rfl
  unfold runLength at hi ⊢
  rw [hruns] at hi ⊢
  by_cases hc : kind.joins c = true
  · rw [if_pos hc] at hi ⊢
    have hrun : kind.runs a = true := by
      cases i with
      | zero =>
        obtain rfl : c = a := by simpa using ha
        simp [WordKind.runs, hwhite, hc]
      | succ i =>
        exact (lt_length_takeWhile_iff (by simpa using ha) (Nat.le_of_succ_le hi)).1 hi
    rw [lt_length_takeWhile_iff hd hi, WordKind.links, hrun, Bool.true_and]
  · rw [if_neg hc] at hi ⊢
    obtain rfl : i = 0 := Nat.le_zero.1 hi
    obtain rfl : c = a := by simpa using ha
    simp [WordKind.links, WordKind.runs, hc]

theorem not_whiteSpace_of_le_runLength (hwhite : Unicode.isWhiteSpace c = false) {rest : Text}
    {a : Char} (ha : (c :: rest)[i]? = some a) (hi : i ≤ runLength kind c rest) :
    Unicode.isWhiteSpace a = false := by
  cases i with
  | zero =>
    obtain rfl : c = a := by simpa using ha
    exact hwhite
  | succ i =>
    obtain ⟨hlt, rfl⟩ := List.getElem?_eq_some_iff.1 (show rest[i]? = some a by simpa using ha)
    have hmem : rest[i] ∈ rest.take (runLength kind c rest) :=
      List.mem_take_iff_getElem.2 ⟨i, by omega, rfl⟩
    exact not_whiteSpace_of_mem_run hmem

/-! ### Tokens -/

/-- Tokens come in order. -/
theorem pairwise_tokensFrom (kind : WordKind) (start : Nat) (t : Text) :
    (tokensFrom kind start t).Pairwise fun w w' => w.stop ≤ w'.start := by
  fun_induction tokensFrom kind start t with
  | case1 => exact .nil
  | case2 start c rest hc ih => exact ih
  | case3 start c rest hc more ih =>
    exact .cons (fun w hw => (bounds_of_mem_tokensFrom hw).1) ih

/-- Behind white space no token goes on. -/
theorem cleanCut_whiteSpace (hwhite : Unicode.isWhiteSpace c = true) (rest : Text) :
    CleanCut kind (c :: rest) 1 := by
  intro a d _ ha _
  obtain rfl : c = a := by simpa using ha
  simp [WordKind.links, WordKind.runs, hwhite]

/-- Nor behind a run. -/
theorem cleanCut_run (hwhite : Unicode.isWhiteSpace c = false) (rest : Text) :
    CleanCut kind (c :: rest) (runLength kind c rest + 1) := by
  intro a d _ ha hd
  have hlink := lt_runLength_iff hwhite ha (by simpa using hd) (Nat.le_refl _)
  simpa using hlink

/-- **Tokens have a place wherever their characters say so**, if what characters say about a place
is not changed by a cut at which no token goes on, and is right in the first token. The induction is
on the text, cut behind its white space and its tokens. -/
theorem exists_place_iff {place : WordToken → Nat} {told : Text → Nat → Prop}
    (hplace : ∀ w : WordToken, w.start < w.stop → w.start ≤ place w ∧ place w < w.stop)
    (hchar : ∀ {t i}, told t i → ∃ c, t[i]? = some c ∧ Unicode.isWhiteSpace c = false)
    (hcut : ∀ {t n i}, CleanCut kind t n → (told (t.drop n) i ↔ told t (n + i)))
    (hfirst : ∀ {c rest start i}, Unicode.isWhiteSpace c = false → i ≤ runLength kind c rest →
      (place ⟨c :: rest.take (runLength kind c rest), start, start + runLength kind c rest + 1⟩ =
        start + i ↔ told (c :: rest) i))
    (start : Nat) (t : Text) (i : Nat) :
    (∃ w ∈ tokensFrom kind start t, place w = start + i) ↔ told t i := by
  have hstart {start : Nat} {t : Text} {w : WordToken} (hw : w ∈ tokensFrom kind start t) :
      start ≤ place w := by
    have hbounds := bounds_of_mem_tokensFrom hw
    have hle := (hplace w hbounds.2.1).1
    omega
  revert i
  fun_induction tokensFrom kind start t with
  | case1 =>
    refine fun i => iff_of_false (by simp) fun h => ?_
    obtain ⟨c, hc, -⟩ := hchar h
    simp at hc
  | case2 start c rest hc ih =>
    intro i
    cases i with
    | zero =>
      refine iff_of_false ?_ fun h => ?_
      · rintro ⟨w, hw, heq⟩
        have hle := hstart hw
        omega
      · obtain ⟨d, hd, hwhite⟩ := hchar h
        obtain rfl : c = d := by simpa using hd
        simp [hc] at hwhite
    | succ i =>
      rw [Nat.add_comm i 1, ← hcut (cleanCut_whiteSpace hc rest), ← Nat.add_assoc]
      exact ih i
  | case3 start c rest hc more ih =>
    intro i
    have hwhite : Unicode.isWhiteSpace c = false := by simpa using hc
    rw [List.exists_mem_cons_iff]
    obtain hle | ⟨j, rfl⟩ : i ≤ more ∨ ∃ j, i = more + 1 + j := by
      obtain hlt | hle := Nat.lt_or_ge more i
      · exact .inr ⟨i - (more + 1), by omega⟩
      · exact .inl hle
    · have hlater : ¬ ∃ w ∈ tokensFrom kind (start + more + 1) (rest.drop more),
          place w = start + i := by
        rintro ⟨w, hw, heq⟩
        have hle := hstart hw
        omega
      rw [or_iff_left hlater]
      exact hfirst hwhite hle
    · have hother : ¬ place ⟨c :: rest.take more, start, start + more + 1⟩ =
          start + (more + 1 + j) := by
        intro heq
        have hbounds := hplace ⟨c :: rest.take more, start, start + more + 1⟩
          (show start < start + more + 1 by omega)
        dsimp only at hbounds
        omega
      rw [or_iff_right hother, ← hcut (cleanCut_run hwhite rest), ← Nat.add_assoc, ← Nat.add_assoc]
      exact ih j

/-- **Tokens begin where their characters say.** -/
theorem exists_start_iff (kind : WordKind) (start : Nat) (t : Text) (i : Nat) :
    (∃ w ∈ tokensFrom kind start t, w.start = start + i) ↔ BeginsToken kind t i := by
  refine exists_place_iff (fun w hw => ⟨Nat.le_refl _, hw⟩)
    (fun ⟨c, hc, hwhite, _⟩ => ⟨c, hc, hwhite⟩) (fun h => beginsToken_drop (.inr h))
    (fun {c rest start i} hwhite hle => ?_) start t i
  cases i with
  | zero => simp [BeginsToken, hwhite]
  | succ i =>
    -- Inside a run the character before goes on.
    refine iff_of_false (fun h : start = start + (i + 1) => by omega) ?_
    rintro ⟨d, hd, -, hapart⟩
    have hi : i < (c :: rest).length := by
      have hlt := (List.getElem?_eq_some_iff.1 hd).1
      omega
    have ha := List.getElem?_eq_getElem hi
    have hlink := (lt_runLength_iff hwhite ha (by simpa using hd) (Nat.le_of_succ_le hle)).1 hle
    simp [hapart _ (Nat.succ_pos i) ha] at hlink

/-- **Tokens end where their characters say.** -/
theorem exists_last_iff (kind : WordKind) (start : Nat) (t : Text) (i : Nat) :
    (∃ w ∈ tokensFrom kind start t, w.last = start + i) ↔ EndsToken kind t i := by
  have hplace (w : WordToken) (hw : w.start < w.stop) : w.start ≤ w.last ∧ w.last < w.stop := by
    unfold WordToken.last
    omega
  refine exists_place_iff hplace (fun ⟨c, hc, hwhite, _⟩ => ⟨c, hc, hwhite⟩)
    (fun _ => endsToken_drop) (fun {c rest start i} hwhite hle => ?_) start t i
  have hmore := runLength_le kind c rest
  have hlast : start + runLength kind c rest + 1 - 1 = start + i ↔ i = runLength kind c rest := by
    omega
  refine hlast.trans ⟨fun heq => ?_, fun ⟨a, ha, _, hapart⟩ => ?_⟩
  · have ha := List.getElem?_eq_getElem (show i < (c :: rest).length by simp; omega)
    refine ⟨_, ha, not_whiteSpace_of_le_runLength hwhite ha hle, fun d hd => ?_⟩
    exact cleanCut_run hwhite rest _ d (Nat.succ_pos _) (heq ▸ ha) (heq ▸ hd)
  · -- Inside a run the next character goes on.
    refine Nat.le_antisymm hle (Nat.le_of_not_lt fun hlt => ?_)
    have hd := List.getElem?_eq_getElem (show i < rest.length by omega)
    have hlink := (lt_runLength_iff hwhite ha hd hle).1 hlt
    rw [hapart _ hd] at hlink
    exact Bool.false_ne_true hlink

end Cuts

/-! ### Where the motions lead -/

namespace Buffer

variable {b : Buffer} {kind : WordKind} {offset i : Nat}

/-- The offsets at which tokens of the text start. -/
def tokenStarts (b : Buffer) (kind : WordKind) : Set Nat :=
  {i | ∃ w ∈ tokenize kind b.text, w.start = i}

/-- The offsets of the last characters of tokens of the text. -/
def tokenLasts (b : Buffer) (kind : WordKind) : Set Nat :=
  {i | ∃ w ∈ tokenize kind b.text, w.last = i}

theorem mem_tokenStarts : i ∈ b.tokenStarts kind ↔ BeginsToken kind b.text i := by
  have hiff := exists_start_iff kind 0 b.text i
  rwa [Nat.zero_add] at hiff

theorem mem_tokenLasts : i ∈ b.tokenLasts kind ↔ EndsToken kind b.text i := by
  have hiff := exists_last_iff kind 0 b.text i
  rwa [Nat.zero_add] at hiff

/-- The tokens of the text ahead that start past the cut are those of the whole text. -/
theorem exists_start_drop_iff (hi : offset < i) :
    (∃ w ∈ tokensFrom kind offset (b.text.drop offset), w.start = i) ↔ i ∈ b.tokenStarts kind := by
  obtain ⟨j, rfl⟩ := Nat.exists_eq_add_of_le (Nat.le_of_lt hi)
  rw [exists_start_iff, beginsToken_drop (.inl (by omega)), mem_tokenStarts]

/-- So are those of the text behind. -/
theorem exists_start_take_iff :
    (∃ w ∈ tokenize kind (b.text.take offset), w.start = i) ↔
      i < offset ∧ i ∈ b.tokenStarts kind := by
  rw [mem_tokenStarts, ← beginsToken_take, ← exists_start_iff kind 0, Nat.zero_add]
  rfl

/-- The tokens of the text ahead end where those of the whole text do. -/
theorem exists_last_drop_iff :
    (∃ w ∈ tokensFrom kind offset (b.text.drop offset), w.last = i) ↔
      offset ≤ i ∧ i ∈ b.tokenLasts kind := by
  constructor
  · rintro ⟨w, hw, rfl⟩
    have hbounds := bounds_of_mem_tokensFrom hw
    have hle : offset ≤ w.last := by
      unfold WordToken.last
      omega
    obtain ⟨j, hj⟩ := Nat.exists_eq_add_of_le hle
    refine ⟨hle, mem_tokenLasts.2 ?_⟩
    rw [hj, ← endsToken_drop, ← exists_last_iff kind offset]
    exact ⟨w, hw, hj⟩
  · rintro ⟨hle, hi⟩
    obtain ⟨j, rfl⟩ := Nat.exists_eq_add_of_le hle
    rwa [exists_last_iff, endsToken_drop, ← mem_tokenLasts]

/-- **The next word starts** at the first token that starts further on, if there is one. -/
theorem nextWordStart_spec (b : Buffer) (kind : WordKind) (offset : Nat) :
    IsLeast {s ∈ b.tokenStarts kind | offset < s} (b.nextWordStart kind offset) ∨
      {s ∈ b.tokenStarts kind | offset < s} = ∅ ∧ b.nextWordStart kind offset = b.length := by
  have hsorted := pairwise_tokensFrom kind offset (b.text.drop offset)
  unfold nextWordStart
  dsimp only
  cases hfind : (tokensFrom kind offset (b.text.drop offset)).find? fun w => offset < w.start with
  | none =>
    refine .inr ⟨Set.eq_empty_of_forall_notMem fun s ⟨hs, hlt⟩ => ?_, rfl⟩
    obtain ⟨w, hw, rfl⟩ := (exists_start_drop_iff hlt).2 hs
    exact List.find?_eq_none.1 hfind w hw (by simpa using hlt)
  | some w =>
    obtain ⟨hlt, before, rest, heq, hbefore⟩ := List.find?_eq_some_iff_append.1 hfind
    have hlt : offset < w.start := by simpa using hlt
    have hmem : w ∈ tokensFrom kind offset (b.text.drop offset) := List.mem_of_find?_eq_some hfind
    refine .inl ⟨⟨(exists_start_drop_iff hlt).1 ⟨w, hmem, rfl⟩, hlt⟩, fun s ⟨hs, hlt'⟩ => ?_⟩
    obtain ⟨w', hw', rfl⟩ := (exists_start_drop_iff hlt').2 hs
    rw [heq] at hw' hsorted
    obtain hw' | hw' := List.mem_append.1 hw'
    · have hnot := hbefore w' hw'
      simp [hlt'] at hnot
    · obtain rfl | hw' := List.mem_cons.1 hw'
      · exact Nat.le_refl _
      · have hle := List.rel_of_pairwise_cons (List.pairwise_append.1 hsorted).2.1 hw'
        have hstop := (bounds_of_mem_tokensFrom hmem).2.1
        exact Nat.le_trans (Nat.le_of_lt hstop) hle

/-- **The previous word starts** at the last token that starts further back, if there is one. -/
theorem previousWordStart_spec (b : Buffer) (kind : WordKind) (offset : Nat) :
    IsGreatest {s ∈ b.tokenStarts kind | s < offset} (b.previousWordStart kind offset) ∨
      {s ∈ b.tokenStarts kind | s < offset} = ∅ ∧ b.previousWordStart kind offset = 0 := by
  have hsorted := pairwise_tokensFrom kind 0 (b.text.take offset)
  unfold previousWordStart
  cases hlast : (tokenize kind (b.text.take offset)).getLast? with
  | none =>
    refine .inr ⟨Set.eq_empty_of_forall_notMem fun s ⟨hs, hlt⟩ => ?_, rfl⟩
    obtain ⟨w, hw, -⟩ := exists_start_take_iff.2 ⟨hlt, hs⟩
    rw [List.getLast?_eq_none_iff.1 hlast] at hw
    simp at hw
  | some w =>
    have hmem := List.mem_of_getLast? hlast
    have hstart := exists_start_take_iff.1 ⟨w, hmem, rfl⟩
    refine .inl ⟨hstart.symm, fun s ⟨hs, hlt⟩ => ?_⟩
    obtain ⟨w', hw', rfl⟩ := exists_start_take_iff.2 ⟨hlt, hs⟩
    obtain ⟨before, heq⟩ := List.getLast?_eq_some_iff.1 hlast
    have hbounds := bounds_of_mem_tokensFrom hw'
    unfold tokenize at heq hw'
    rw [heq] at hw' hsorted
    obtain hw' | hw' := List.mem_append.1 hw'
    · have hle := (List.pairwise_append.1 hsorted).2.2 w' hw' w List.mem_cons_self
      exact Nat.le_trans (Nat.le_of_lt hbounds.2.1) hle
    · obtain rfl := List.mem_singleton.1 hw'
      exact Nat.le_refl _

/-- One word back there is no loop: before the start of the text there are no words. -/
theorem backWords_one (b : Buffer) (kind : WordKind) (offset : Nat) :
    b.backWords kind 1 offset = b.previousWordStart kind offset := by
  cases offset with
  | zero =>
    obtain hgreatest | ⟨-, hstart⟩ := b.previousWordStart_spec kind 0
    · exact absurd hgreatest.1.2 (Nat.not_lt_zero _)
    · exact hstart.symm
  | succ offset => rfl

/-- **The next word ends** at the first last character of a token further on; there is no such word
just when there is no such token. -/
theorem nextWordLast?_spec (b : Buffer) (kind : WordKind) (offset : Nat) :
    match b.nextWordLast? kind offset with
    | some last => IsLeast {s ∈ b.tokenLasts kind | offset < s} last
    | none => {s ∈ b.tokenLasts kind | offset < s} = ∅ := by
  have hsorted := pairwise_tokensFrom kind (offset + 1) (b.text.drop (offset + 1))
  unfold nextWordLast?
  cases htokens : tokensFrom kind (offset + 1) (b.text.drop (offset + 1)) with
  | nil =>
    refine Set.eq_empty_of_forall_notMem fun s ⟨hs, hlt⟩ => ?_
    obtain ⟨w, hw, -⟩ := exists_last_drop_iff.2 ⟨Nat.succ_le_of_lt hlt, hs⟩
    rw [htokens] at hw
    simp at hw
  | cons w rest =>
    have hmem : w ∈ tokensFrom kind (offset + 1) (b.text.drop (offset + 1)) := by simp [htokens]
    obtain ⟨hlt, hlast⟩ := exists_last_drop_iff.1 ⟨w, hmem, rfl⟩
    refine ⟨⟨hlast, hlt⟩, fun s ⟨hs, hlt'⟩ => ?_⟩
    obtain ⟨w', hw', rfl⟩ := exists_last_drop_iff.2 ⟨Nat.succ_le_of_lt hlt', hs⟩
    have hbounds := bounds_of_mem_tokensFrom hw'
    rw [htokens] at hw' hsorted
    obtain rfl | hw' := List.mem_cons.1 hw'
    · exact Nat.le_refl _
    · have hle := List.rel_of_pairwise_cons hsorted hw'
      show w.stop - 1 ≤ w'.stop - 1
      omega

end Buffer

namespace Editor

/-- **The key of a motion lands the cursor** at an offset of the text, which stays as it is. -/
def LandsOn (settings : Settings) (e : Editor) (m : Motion) (offset : Nat) : Prop :=
  ∃ e', e.press settings m.last = .done e' ∧ e'.buffer = e.buffer ∧ offset ≤ e.buffer.length ∧
    e'.cursor = e.buffer.positionAt offset

theorem wordTarget_eq {e : Editor} (hmod : e.modifier = none) (hop : e.operator = none)
    (kind : WordKind) :
    e.wordTarget kind = .char (e.buffer.nextWordStart kind
      (e.buffer.skipWords kind (e.count - 1) e.cursorOffset)) false := by
  unfold wordTarget
  dsimp only
  rw [hmod, hop]
  rfl

section Landing

variable {e : Editor} {m : Motion} {offset : Nat} {inclusive : Bool} (hm : e.mode = .normal)
  (hw : e.waiting = false) (settings : Settings)

include hm hw

theorem landsOn_of_finish (hopening : m.opening = []) (hz : m = .rowStart → e.repeatCount = none)
    (hfinish : m.finish settings e = e.reach (.char offset inclusive))
    (hle : offset ≤ e.buffer.length) : LandsOn settings e m offset := by
  have hk : e.continuation = none := continuation_of_not_waiting (e := e) hw
  have hop : e.operator = none := operator_of_not_waiting (e := e) hw
  have hbegin : m.begin e = e := by
    cases m with
    | top | jump | mark | search => simp [Motion.opening] at hopening
    | _ => rfl
  have hbegun : m.Begun e := by
    have hbegun : m.Begun (m.begin e) := begun_begin (.inl hm) hk hz
    rwa [hbegin] at hbegun
  refine ⟨_, press_of_begun hbegun settings, ?_⟩
  rw [continued_of_none hk, hfinish, reach_char_of_no_operator hop]
  exact ⟨rfl, hle, rfl⟩

/-- **Word motions go by the tokens of the whole text.** In normal mode, with nothing half typed and
no count but one: the next word is the first token that starts further on, or else the end of the
text; the previous word is the last token that starts further back, or else the start of the text;
and the end of a word is the first last character of a token further on, where there is one. The
cursor is then put in order in its row. -/
theorem word_motions_by_tokens (hmod : e.modifier = none) (hcount : e.count = 1)
    (kind : WordKind) :
    let here := e.cursorOffset
    let starts := e.buffer.tokenStarts kind
    let lasts := e.buffer.tokenLasts kind
    (∃ s, LandsOn settings e (.word kind) s ∧
      (IsLeast {i ∈ starts | here < i} s ∨
        {i ∈ starts | here < i} = ∅ ∧ s = e.buffer.length)) ∧
    (∃ s, LandsOn settings e (.backWord kind) s ∧
      (IsGreatest {i ∈ starts | i < here} s ∨ {i ∈ starts | i < here} = ∅ ∧ s = 0)) ∧
    ({i ∈ lasts | here < i}.Nonempty →
      ∃ s, LandsOn settings e (.wordEnd kind) s ∧ IsLeast {i ∈ lasts | here < i} s) := by
  intro here starts lasts
  have hhere : here ≤ e.buffer.length := e.buffer.offsetAt_le_length e.cursor
  have hop : e.operator = none := operator_of_not_waiting (e := e) hw
  refine ⟨⟨e.buffer.nextWordStart kind here, ?_, e.buffer.nextWordStart_spec kind here⟩,
    ⟨e.buffer.previousWordStart kind here, ?_, e.buffer.previousWordStart_spec kind here⟩, ?_⟩
  · have htarget : e.wordTarget kind = .char (e.buffer.nextWordStart kind here) false := by
      rw [wordTarget_eq hmod hop, hcount]
      rfl
    refine landsOn_of_finish hm hw settings rfl (by simp) (congrArg e.reach htarget) ?_
    exact Buffer.nextWordStart_le e.buffer kind hhere
  · have htarget : e.backWordTarget kind = .char (e.buffer.previousWordStart kind here) false := by
      rw [backWordTarget, hcount, Buffer.backWords_one]
    refine landsOn_of_finish hm hw settings rfl (by simp) (congrArg e.reach htarget) ?_
    exact Buffer.previousWordStart_le e.buffer kind here
  · intro hsome
    have hspec := e.buffer.nextWordLast?_spec kind here
    cases hlast : e.buffer.nextWordLast? kind here with
    | none =>
      rw [hlast] at hspec
      exact absurd hspec hsome.ne_empty
    | some last =>
      rw [hlast] at hspec
      have hlt : last < e.buffer.length := by
        obtain ⟨c, hc, -⟩ := Buffer.mem_tokenLasts.1 hspec.1.1
        exact (List.getElem?_eq_some_iff.1 hc).1
      have htarget : e.wordEndTarget kind = .char last true := by
        have hskip : e.buffer.skipWordEnds kind 1 e.cursorOffset = last := by
          simp only [Buffer.skipWordEnds, hlast, here]
        rw [wordEndTarget, hcount, hskip, Nat.min_eq_left (Nat.le_sub_one_of_lt hlt)]
      refine ⟨last, ?_, hspec⟩
      exact landsOn_of_finish hm hw settings rfl (by simp) (congrArg e.reach htarget)
        (Nat.le_of_lt hlt)

end Landing

/-- From the middle of a word: the rest of it is a token of the text ahead, and is passed over. -/
theorem word_motions_by_tokens_inside_word :
    ∃ e : Editor, Reachable ⟨['a', 'b', ',', ' ', 'c']⟩ e ∧ e.cursorOffset = 1 ∧
      LandsOn {} e (.word .word) 2 ∧ IsLeast {i ∈ e.buffer.tokenStarts .word | 1 < i} 2 := by
  let e : Editor := ofResult (interpret {} ⟨['a', 'b', ',', ' ', 'c']⟩ none [.char 'l'])
  have hhere : e.cursorOffset = 1 := by decide +kernel
  have hlength : e.buffer.length = 5 := by decide +kernel
  obtain ⟨⟨s, hlands, hs⟩, -, -⟩ := word_motions_by_tokens (e := e) (by decide +kernel)
    (by decide +kernel) {} (by decide +kernel) (by decide +kernel) .word
  obtain rfl : s = 2 := by
    obtain ⟨e', hpress, -, hle, hcursor⟩ := hlands
    have hplace : e'.cursor = ⟨0, 2⟩ := by
      have hmoved := congrArg (fun o : Outcome => o.editor.cursor) hpress
      exact hmoved.symm.trans (by decide +kernel)
    rw [← Buffer.offsetAt_positionAt hle, ← hcursor, hplace]
    decide +kernel
  refine ⟨e, .first {} [.char 'l'], hhere, hlands, ?_⟩
  rw [hhere] at hs
  exact hs.resolve_right fun hend => absurd (hend.2.trans hlength) (by decide)

end Editor

end ModalEditor
