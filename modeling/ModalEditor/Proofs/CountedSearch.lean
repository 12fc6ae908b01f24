import Mathlib.Data.Fintype.Pigeonhole
import Mathlib.Dynamics.PeriodicPts.Lemmas
import ModalEditor.Proofs.Failures
import ModalEditor.Proofs.Selections

/-!
# Counted repetitions of a search

A count and `n` go to the hit of that number in the sequence in which each hit is searched for from
the start of the one before (`Buffer.nthHit?`), but only one hit more than there are characters is
ever searched for. Where there is a match at all, the starts of the hits are the iterates of a map of
the offsets (`Buffer.startAfter`). There are so few offsets that the iterates go round once the
search is cut off (`iterate_mem_periodicPts`), and so the hit of a greater count is the last one that
is searched for just when what is cut off is a whole number of rounds (`Buffer.nthHit?_eq_iff`).
-/

namespace ModalEditor

/-! ### Iterates that come into a cycle -/

section Iterates

open Function

variable {f : Nat → Nat} {n x : Nat}

theorem iterate_le (hf : ∀ y ≤ n, f y ≤ n) (hx : x ≤ n) (k : Nat) : f^[k] x ≤ n := by
  induction k with
  | zero => exact hx
  | succ k ih =>
    rw [iterate_succ_apply']
    exact hf _ ih

/-- **The iterates of a map of the numbers up to `n` are in a cycle after `n` steps**: of the first
`n + 2` two are the same. -/
theorem iterate_mem_periodicPts (hf : ∀ y ≤ n, f y ≤ n) (hx : x ≤ n) : f^[n] x ∈ periodicPts f := by
  obtain ⟨i, j, hne, hij⟩ := Fintype.exists_ne_map_eq_of_card_lt
    (fun k : Fin (n + 2) => (⟨f^[k] x, Nat.lt_succ_of_le (iterate_le hf hx k)⟩ : Fin (n + 1)))
    (by simp)
  have hij : f^[i] x = f^[j] x := congrArg Fin.val hij
  have key (i j : Nat) (hlt : i < j) (hj : j < n + 2) (hij : f^[i] x = f^[j] x) :
      f^[n] x ∈ periodicPts f := by
    refine mk_mem_periodicPts (Nat.sub_pos_of_lt hlt) ?_
    show f^[j - i] (f^[n] x) = f^[n] x
    obtain ⟨k, hk⟩ : ∃ k, n = i + k := Nat.exists_eq_add_of_le (by omega)
    rw [← iterate_add_apply, show j - i + n = k + j by omega, iterate_add_apply, ← hij,
      ← iterate_add_apply, show k + i = n by omega]
  rcases Nat.lt_or_gt_of_ne (Fin.val_ne_of_ne hne) with hlt | hlt
  · exact key i j hlt j.isLt hij
  · exact key j i hlt i.isLt hij.symm

/-- In a cycle different numbers are followed by different ones. -/
theorem isPeriodicPt_iff_apply_iterate_eq (hx : x ∈ periodicPts f) (k : Nat) :
    IsPeriodicPt f k x ↔ f (f^[k] x) = f x := by
  have hmaps := (bijOn_periodicPts f).mapsTo.iterate k
  exact ((bijOn_periodicPts f).injOn.eq_iff (hmaps hx) hx).symm

end Iterates

/-! ### The sequence of hits -/

namespace Buffer

/-- The offset from which a search goes on: one past the start of the match before, or backward the
start itself. -/
def onward (d : Direction) (start : Nat) : Nat :=
  match d with
  | .forward => start + 1
  | .backward => start

/-- The hit after a start. -/
def hitAfter? (b : Buffer) (p : SearchPattern) (d : Direction) (start : Nat) : Option SearchHit :=
  b.findTowards p d (onward d start)

/-- **The sequence of hits** after an offset: each is the one after the start of the hit before. -/
def nthHit? (b : Buffer) (p : SearchPattern) (d : Direction) (start : Nat) :
    Nat → Option SearchHit
  | 0 => b.hitAfter? p d start
  | k + 1 => (b.nthHit? p d start k).bind fun hit => b.hitAfter? p d hit.span.start

/-- Where the hit after a start starts. -/
def startAfter (b : Buffer) (p : SearchPattern) (d : Direction) (start : Nat) : Nat :=
  match b.hitAfter? p d start with
  | some hit => hit.span.start
  | none => start

variable {b : Buffer} {p : SearchPattern} {d : Direction} {start : Nat}

/-- Where there is a match, there is one after every start. -/
theorem exists_hitAfter? (h : ¬ b.Lacks p) (d : Direction) (start : Nat) :
    ∃ hit, b.hitAfter? p d start = some hit ∧ b.startAfter p d start = hit.span.start := by
  have hsome : b.findTowards p d (onward d start) ≠ none := by
    cases d with
    | forward =>
      intro hnone
      have hfind : p.regex.find? b.text 0 = none := by
        simp only [findTowards, findNext] at hnone
        split at hnone <;> simp_all
      exact h fun o => (Pattern.Regex.find?_eq_none_iff (Nat.zero_le _)).1 hfind o (Nat.zero_le _)
    | backward =>
      intro hnone
      have hfind : p.regex.findLast? b.text = none := by
        simp only [findTowards, findPrevious] at hnone
        split at hnone <;> simp_all
      exact h (findLast?_eq_none_iff.1 hfind)
  obtain ⟨hit, hhit⟩ := Option.ne_none_iff_exists'.1 hsome
  have hafter : b.hitAfter? p d start = some hit := hhit
  refine ⟨hit, hafter, ?_⟩
  unfold startAfter
  rw [hafter]

theorem startAfter_le (hstart : start ≤ b.length) : b.startAfter p d start ≤ b.length := by
  unfold startAfter
  split
  · rename_i hit hhit
    exact findTowards_start hhit
  · exact hstart

/-- Each hit is the one after an iterate. -/
theorem nthHit?_eq (h : ¬ b.Lacks p) (d : Direction) (start k : Nat) :
    b.nthHit? p d start k = b.hitAfter? p d ((b.startAfter p d)^[k] start) := by
  induction k with
  | zero => rfl
  | succ k ih =>
    obtain ⟨hit, hhit, hstart⟩ := exists_hitAfter? h d ((b.startAfter p d)^[k] start)
    rw [nthHit?, ih, hhit, Function.iterate_succ_apply', hstart, Option.bind_some]

/-- **The search that the editor makes** for a number of hits is for the last of as many. -/
theorem findNth_onward (h : ¬ b.Lacks p) (d : Direction) (start k : Nat) :
    b.findNth p d (k + 1) (onward d start) = b.nthHit? p d start k := by
  rw [nthHit?_eq h]
  induction k generalizing start with
  | zero =>
    obtain ⟨hit, hhit, -⟩ := exists_hitAfter? h d start
    have hfind : b.findTowards p d (onward d start) = some hit := hhit
    simp [findNth, hfind, hhit]
  | succ k ih =>
    obtain ⟨hit, hhit, hstart⟩ := exists_hitAfter? h d start
    have hfind : b.findTowards p d (onward d start) = some hit := hhit
    have hoffset : offsetAfter d hit = onward d hit.span.start := by cases d <;> rfl
    obtain ⟨last, hlast, -⟩ := exists_hitAfter? h d ((b.startAfter p d)^[k] hit.span.start)
    rw [Function.iterate_succ_apply, hstart, hlast, findNth, hfind]
    dsimp only
    rw [hoffset, ih, hlast, Option.some_or]

/-- **After as many hits as there are offsets, they go round.** -/
theorem nthHit?_eq_iff (h : ¬ b.Lacks p) (hstart : start ≤ b.length) (k : Nat) :
    b.nthHit? p d start (b.length + k) = b.nthHit? p d start b.length ↔
      Function.minimalPeriod (b.startAfter p d) ((b.startAfter p d)^[b.length] start) ∣ k := by
  let x := (b.startAfter p d)^[b.length] start
  have hx : x ∈ Function.periodicPts (b.startAfter p d) :=
    iterate_mem_periodicPts (fun y => startAfter_le) hstart
  have hiterate : (b.startAfter p d)^[b.length + k] start = (b.startAfter p d)^[k] x := by
    rw [Nat.add_comm, Function.iterate_add_apply]
  rw [nthHit?_eq h, nthHit?_eq h, hiterate, ← Function.isPeriodicPt_iff_minimalPeriod_dvd]
  constructor
  · intro hsame
    obtain ⟨hit, hhit, hnext⟩ := exists_hitAfter? h d ((b.startAfter p d)^[k] x)
    obtain ⟨hit', hhit', hnext'⟩ := exists_hitAfter? h d x
    obtain rfl : hit = hit' := Option.some.inj (hhit.symm.trans (hsame.trans hhit'))
    exact (isPeriodicPt_iff_apply_iterate_eq hx k).2 (hnext.trans hnext'.symm)
  · intro hperiodic
    exact congrArg (b.hitAfter? p d) hperiodic

/-- Of a number of hits that is cut off the last is the right one just when whole rounds are cut
off. -/
theorem nthHit?_min_eq_iff (h : ¬ b.Lacks p) (hstart : start ≤ b.length) (count : Nat) :
    b.nthHit? p d start (min count (b.length + 1) - 1) = b.nthHit? p d start (count - 1) ↔
      count ≤ b.length + 1 ∨
        Function.minimalPeriod (b.startAfter p d) ((b.startAfter p d)^[b.length] start) ∣
          count - (b.length + 1) := by
  by_cases hle : count ≤ b.length + 1
  · simp [hle]
  · obtain ⟨k, rfl⟩ : ∃ k, count = b.length + 1 + k :=
      Nat.exists_eq_add_of_le (Nat.le_of_not_le hle)
    have hlast : min (b.length + 1 + k) (b.length + 1) - 1 = b.length := by omega
    have hnth : b.length + 1 + k - 1 = b.length + k := by omega
    rw [hlast, hnth, Nat.add_sub_cancel_left, or_iff_right hle, ← nthHit?_eq_iff h hstart]
    exact eq_comm

end Buffer

namespace Editor

variable {e : Editor}

/-- **What a search reports**: the match and whether it has wrapped. -/
def reported? (e : Editor) : Option SearchHit := e.matchSpan.map (⟨·, e.matchWrapped⟩)

theorem reported?_of_noting {s : SearchStatus} {hit? : Option SearchHit}
    (h : e.searchStatus = s.noting hit?) : e.reported? = hit? := by
  have hspan : e.matchSpan = hit?.map (·.span) := congrArg SearchStatus.span h
  have hwrapped : e.matchWrapped = hit?.any (·.wrapped) := congrArg SearchStatus.wrapped h
  unfold reported?
  rw [hspan, hwrapped]
  cases hit? <;> rfl

/-- The direction of a search that is repeated. -/
def againDirection (e : Editor) (reverse : Bool) : Direction :=
  let d := e.searchDirection.getD .forward
  if reverse then d.opposite else d

/-- A repeated search reports the hit that it finds from the cursor on. -/
theorem reported?_repeatSearch {p : SearchPattern} (hp : e.searchPattern = some p) (reverse : Bool) :
    (e.repeatSearch reverse).reported? = e.searchHit? p (e.againDirection reverse) false :=
  reported?_of_noting (searchStatus_runSearch_of_some hp _ false)

/-- **A repeated search goes to the hit that its count says**, or to the one of the greatest count
that is followed. -/
theorem searchHit?_again {p : SearchPattern} (h : ¬ e.buffer.Lacks p) (hcount : e.count ≠ 0)
    (d : Direction) :
    e.searchHit? p d false =
      e.buffer.nthHit? p d e.cursorOffset (min e.count (e.buffer.length + 1) - 1) := by
  have hoffset : (if d = .forward ∧ false = false then e.cursorOffset + 1 else e.cursorOffset) =
      Buffer.onward d e.cursorOffset := by
    cases d <;> rfl
  obtain ⟨k, hk⟩ := Nat.exists_eq_add_one.2
    (show 0 < min e.count (e.buffer.length + 1) by omega)
  unfold searchHit?
  rw [hoffset, hk, Buffer.findNth_onward h, Nat.add_sub_cancel]

section Counted

variable {b : Buffer} (he : Reachable b e) (hm : e.mode = .normal) (hk : e.continuation = none)
  (settings : Settings) (digits : Text) (hd : digits.all Char.isDigit = true)
  (hz : e.repeatCount.isSome = true ∨ digits.head? ≠ some '0')

include he hm hk hd hz

theorem count_pushDigits_ne_zero :
    ({ e with repeatCount := pushDigits e.repeatCount digits } : Editor).count ≠ 0 := by
  obtain ⟨registers, hdigits⟩ :=
    exists_after_pushDigits he.clampCursor_eq (.inl hm) hk {} [] hd hz
  let e₁ : Editor :=
    { e with registers := registers, repeatCount := pushDigits e.repeatCount digits }
  have hafter : e.after {} (digits.map Key.char ++ []) = e₁ := hdigits
  have he₁ : Reachable b e₁ := hafter ▸ he.next {} _
  exact count_ne_zero he₁.traceable.orderly

theorem reported?_after_searchAgain {p : SearchPattern} (hp : e.searchPattern = some p)
    (hmatch : ¬ e.buffer.Lacks p) (reverse : Bool) :
    (e.after settings (digits.map Key.char ++ (Motion.searchAgain reverse).keys)).reported? =
      e.buffer.nthHit? p (e.againDirection reverse) e.cursorOffset
        (min ({ e with repeatCount := pushDigits e.repeatCount digits } : Editor).count
          (e.buffer.length + 1) - 1) := by
  have hclamped := he.clampCursor_eq
  obtain ⟨registers, hdigits⟩ := exists_after_pushDigits hclamped (.inl hm) hk settings
    (Motion.searchAgain reverse).keys hd hz
  let e₁ : Editor :=
    { e with registers := registers, repeatCount := pushDigits e.repeatCount digits }
  have hclamped₁ : e₁.clampCursor = e₁ := clampCursor_of_eq hclamped rfl rfl rfl
  obtain ⟨registers', hkeys, -⟩ :=
    exists_after_keys (.searchAgain reverse) hclamped₁ (.inl hm) hk (by simp) settings
  let e₂ : Editor := { e₁ with registers := registers', continuation := none }
  have hrun : e.after settings (digits.map Key.char ++ (Motion.searchAgain reverse).keys) =
      (e₂.repeatSearch reverse).clampCursor :=
    hdigits.trans hkeys
  have hcount : e₂.count ≠ 0 := count_pushDigits_ne_zero he hm hk digits hd hz
  rw [hrun]
  exact (reported?_repeatSearch (e := e₂) hp reverse).trans
    (searchHit?_again (e := e₂) hmatch hcount _)

end Counted

/-- **A counted repetition goes to the hit that its count says**, up to one more than there are
characters. Wherever a run has led to, in normal mode, with no second key waited for, whatever counts
and operators are pending: with a pattern that matches somewhere, a count and `n` or `N` report the
hit of that number, forward or backward from the cursor. A greater count is cut off, and then it
reports the right hit just when the hits go round a whole number of times in what is cut off. -/
theorem counted_search {b : Buffer} (he : Reachable b e) (hm : e.mode = .normal)
    (hk : e.continuation = none) {p : SearchPattern} (hp : e.searchPattern = some p)
    (hmatch : ¬ e.buffer.Lacks p) (settings : Settings) (digits : Text)
    (hd : digits.all Char.isDigit = true)
    (hz : e.repeatCount.isSome = true ∨ digits.head? ≠ some '0') (reverse : Bool) :
    let d := e.againDirection reverse
    let here := e.cursorOffset
    let count := ({ e with repeatCount := pushDigits e.repeatCount digits } : Editor).count
    let limit := e.buffer.length + 1
    let e' := e.after settings (digits.map Key.char ++ (Motion.searchAgain reverse).keys)
    (e.operatorCount = none → e.repeatCount = none → digits ≠ [] →
        count = min (ofDigits digits) maxCount) ∧
      1 ≤ count ∧ e'.reported? = e.buffer.nthHit? p d here (min count limit - 1) ∧
      (e'.reported? = e.buffer.nthHit? p d here (count - 1) ↔
        count ≤ limit ∨
          Function.minimalPeriod (e.buffer.startAfter p d)
            ((e.buffer.startAfter p d)^[e.buffer.length] here) ∣ count - limit) := by
  intro d here count limit e'
  have hcount : count ≠ 0 := count_pushDigits_ne_zero he hm hk digits hd hz
  have hreported : e'.reported? = e.buffer.nthHit? p d here (min count limit - 1) :=
    reported?_after_searchAgain he hm hk settings digits hd hz hp hmatch reverse
  have hhere : here ≤ e.buffer.length := e.buffer.offsetAt_le_length e.cursor
  refine ⟨?_, Nat.one_le_iff_ne_zero.2 hcount, hreported, ?_⟩
  · intro hop hn hdigits
    have hempty : digits.isEmpty ≠ true := fun hnil => hdigits (List.isEmpty_iff.1 hnil)
    have hone : count = (pushDigits e.repeatCount digits).getD 1 := count_of_operatorCount hop
    rw [hone, hn, pushDigits_none, getD_typedCount?, if_neg hempty]
  · rw [hreported]
    exact Buffer.nthHit?_min_eq_iff hmatch hhere count

/-- Four times two searches back, under an operator, in a text with two matches: of eight hits four
are followed, and the other four go round twice. -/
theorem counted_search_round :
    let p : SearchPattern := ⟨['a'], false, .set (.single 'a'), by decide +kernel⟩
    ∃ e : Editor, Reachable ⟨['a', 'a', 'b']⟩ e ∧ e.searchPattern = some p ∧
      e.operator = some .delete ∧ e.operatorCount = some 2 ∧
      let e' := e.after {} [.char '4', .char 'N']
      e'.reported? = e.buffer.nthHit? p .backward e.cursorOffset 7 ∧
        e'.reported? = some ⟨⟨0, 1⟩, false⟩ := by
  intro p
  have he : Reachable ⟨['a', 'a', 'b']⟩ _ :=
    .first {} [.char '/', .char 'a', .enter, .char '2', .char 'd']
  let e : Editor := ofResult (interpret {} ⟨['a', 'a', 'b']⟩ none
    [.char '/', .char 'a', .enter, .char '2', .char 'd'])
  have hp : e.searchPattern = some p := by decide +kernel
  have hperiodic : Function.IsPeriodicPt (e.buffer.startAfter p .backward) 4
      ((e.buffer.startAfter p .backward)^[e.buffer.length] e.cursorOffset) := by
    show (e.buffer.startAfter p .backward)^[4] _ = _
    decide +kernel
  obtain ⟨-, -, -, hreported⟩ := counted_search he (by decide +kernel) (by decide +kernel) hp
    (by decide +kernel) {} ['4'] (by decide) (.inr (by decide)) true
  refine ⟨e, he, hp, by decide +kernel, by decide +kernel, ?_, by decide +kernel⟩
  exact hreported.2 (.inr hperiodic.minimalPeriod_dvd)

/-- Two matches and a count of four: the search is cut off after three hits, at the second match,
where the fourth hit is the first match after starting over. -/
theorem count_cut_off :
    let p : SearchPattern := ⟨['a'], false, .set (.single 'a'), by decide +kernel⟩
    ∃ e : Editor, Reachable ⟨['a', 'a']⟩ e ∧ e.mode = .normal ∧ e.waiting = false ∧
      e.repeatCount = none ∧ e.searchPattern = some p ∧
      (e.after {} [.char '4', .char 'n']).reported? = some ⟨⟨1, 2⟩, false⟩ ∧
        e.buffer.nthHit? p .forward e.cursorOffset 3 = some ⟨⟨0, 1⟩, true⟩ := by
  intro p
  have he : Reachable ⟨['a', 'a']⟩ _ := .first {} [.char '/', .char 'a', .enter]
  exact ⟨_, he, by decide +kernel⟩

end Editor

end ModalEditor
