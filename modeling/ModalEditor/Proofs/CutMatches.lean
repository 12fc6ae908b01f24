import ModalEditor.Proofs.NearestMatch

/-!
# Matches in a text that is cut off

A search backward looks at the text before the offset alone, so that an assertion at the end of it
sees an end of text where the buffer may go on. What the search finds is a match of the buffer none
the less, unless it ends at the very offset and the pattern has an assertion that looks ahead
(`hits_are_matches`). The ways of the matcher tell why: a way on which nothing looks ahead is
followed alike whatever comes next (`Pattern.follow_congr`), and a match that is complete before the
text is cut off stays one when it goes on (`Pattern.isSome_advance_append`). It may become longer.
-/

namespace ModalEditor

namespace Pattern

/-! ### Assertions that look ahead -/

/-- Whether an assertion looks at the character after its place. -/
def Look.looksAhead : Look → Bool
  | textStart | lineStart | wordStartHalf _ => false
  | _ => true

/-- One that does not holds whatever comes after. -/
theorem Look.holds_congr {l : Look} (h : l.looksAhead = false) (before after after' : Option Char) :
    l.holds before after = l.holds before after' := by
  cases l with
  | textStart | lineStart | wordStartHalf => rfl
  | _ => simp [looksAhead] at h

/-- Whether an expression has an assertion that looks ahead. -/
def Regex.looksAhead : Regex → Bool
  | .empty | .set _ => false
  | .look l => l.looksAhead
  | .group _ r | .rep r _ _ _ => r.looksAhead
  | .cat r s | .alt r s => r.looksAhead || s.looksAhead

/-- The expression of a goal. -/
def Goal.regex : Goal → Regex
  | .expr _ r | .again _ r _ => r

/-- A way on which nothing looks ahead. -/
def Blind (k : Way) : Prop := ∀ goal ∈ k, goal.regex.looksAhead = false

section Steps

variable {before after : Option Char} {a : Nat} {r : Regex} {greedy : Bool} {k : Way}

@[simp] theorem blind_expr : Blind (.expr a r :: k) ↔ r.looksAhead = false ∧ Blind k :=
  List.forall_mem_cons

@[simp] theorem blind_again :
    Blind (.again a r greedy :: k) ↔ r.looksAhead = false ∧ Blind k :=
  List.forall_mem_cons

theorem blind_preferring {more stop : Way} (hmore : Blind more) (hstop : Blind stop) :
    ∀ k ∈ preferring greedy more stop, Blind k := by
  cases greedy <;> simp [preferring, hmore, hstop]

theorem Regex.step_congr (h : r.looksAhead = false) (before after after' : Option Char) (a : Nat)
    (k : Way) : r.step before after a k = r.step before after' a k := by
  cases r with
  | look l => simp only [step, Look.holds_congr h before after after']
  | rep r min max greedy => rcases min with _ | _ | min <;> rcases max with _ | _ | max <;> rfl
  | _ => rfl

/-- A way on which nothing looks ahead opens only such ways. -/
theorem Regex.blind_of_step (h : r.looksAhead = false) (hk : Blind k) {opened : List Way}
    (hstep : r.step before after a k = .inr opened) : ∀ k' ∈ opened, Blind k' := by
  revert hstep
  fun_cases Regex.step before after a k r with
  | case2 => exact nofun
  | case3 l =>
    rintro ⟨⟩
    split <;> simp [hk]
  | case10 r n greedy rest =>
    rintro ⟨⟩
    exact blind_preferring (blind_expr.2 ⟨h, blind_expr.2 ⟨h, hk⟩⟩) hk
  | case11 r n max greedy _ rest =>
    rintro ⟨⟩
    exact List.forall_mem_singleton.2 (blind_expr.2 ⟨h, blind_expr.2 ⟨h, hk⟩⟩)
  | _ =>
    rintro ⟨⟩
    simp_all [looksAhead]

end Steps

section Fronts

variable {before after after' : Option Char} {ways : List Way}

/-- A way with an `again` opens ways on which nothing looks ahead, if it is one. -/
theorem blind_of_again {a : Nat} {r : Regex} {greedy : Bool} {k : Way}
    (h : Blind (.again a r greedy :: k)) :
    ∀ k' ∈ preferring greedy (.expr (a + 1) r :: .again a r greedy :: k) k, Blind k' :=
  blind_preferring (blind_expr.2 ⟨(blind_again.1 h).1, h⟩) (blind_again.1 h).2

/-- **Ways on which nothing looks ahead** stand alike, whatever comes after. -/
theorem follow_congr (hways : ∀ k ∈ ways, Blind k) (fuel : Nat) (seen : Array Bool)
    (waiting : List (Unicode.CharSet × Way)) :
    follow before after fuel seen ways waiting = follow before after' fuel seen ways waiting := by
  fun_induction follow before after fuel seen ways waiting with
  | case1 | case2 | case3 => simp only [follow]
  | case4 fuel seen goal k ways waiting hseen ih =>
    simp only [follow, hseen, if_true]
    exact ih (List.forall_mem_cons.1 hways).2
  | case5 fuel seen k ways waiting a r greedy more hseen seen' ih =>
    obtain ⟨hk, hways⟩ := List.forall_mem_cons.1 hways
    rw [ih (List.forall_mem_append.2 ⟨blind_of_again hk, hways⟩)]
    simp only [follow, hseen]
    rfl
  | case6 fuel seen k ways waiting a r s hstep hseen seen' ih =>
    obtain ⟨hk, hways⟩ := List.forall_mem_cons.1 hways
    rw [Regex.step_congr (blind_expr.1 hk).1 before after after'] at hstep
    rw [ih hways]
    simp only [follow, hseen, hstep]
    rfl
  | case7 fuel seen k ways waiting a r opened hstep hseen seen' ih =>
    obtain ⟨hk, hways⟩ := List.forall_mem_cons.1 hways
    obtain ⟨hr, hk⟩ := blind_expr.1 hk
    rw [ih (List.forall_mem_append.2 ⟨Regex.blind_of_step hr hk hstep, hways⟩)]
    rw [Regex.step_congr hr before after after'] at hstep
    simp only [follow, hseen, hstep]
    rfl

/-- Where nothing looks ahead on any way, nothing does on those that wait. -/
theorem blind_of_mem_follow (hways : ∀ k ∈ ways, Blind k) {fuel : Nat} {seen : Array Bool}
    {waiting : List (Unicode.CharSet × Way)} (hwaiting : ∀ w ∈ waiting, Blind w.2) :
    ∀ w ∈ (follow before after fuel seen ways waiting).waiting, Blind w.2 := by
  fun_induction follow before after fuel seen ways waiting with
  | case1 | case2 | case3 => simpa using hwaiting
  | case4 fuel seen goal k ways waiting hseen ih =>
    exact ih (List.forall_mem_cons.1 hways).2 hwaiting
  | case5 fuel seen k ways waiting a r greedy more hseen seen' ih =>
    obtain ⟨hk, hways⟩ := List.forall_mem_cons.1 hways
    exact ih (List.forall_mem_append.2 ⟨blind_of_again hk, hways⟩) hwaiting
  | case6 fuel seen k ways waiting a r s hstep hseen seen' ih =>
    obtain ⟨hk, hways⟩ := List.forall_mem_cons.1 hways
    exact ih hways (List.forall_mem_cons.2 ⟨(blind_expr.1 hk).2, hwaiting⟩)
  | case7 fuel seen k ways waiting a r opened hstep hseen seen' ih =>
    obtain ⟨hk, hways⟩ := List.forall_mem_cons.1 hways
    obtain ⟨hr, hk⟩ := blind_expr.1 hk
    exact ih (List.forall_mem_append.2 ⟨Regex.blind_of_step hr hk hstep, hways⟩) hwaiting

theorem front_congr (hways : ∀ k ∈ ways, Blind k) (span : Nat) (before after after' : Option Char) :
    front span before after ways = front span before after' ways :=
  follow_congr hways _ _ _

theorem blind_of_mem_front (hways : ∀ k ∈ ways, Blind k) {span : Nat} :
    ∀ w ∈ (front span before after ways).waiting, Blind w.2 :=
  blind_of_mem_follow hways nofun

end Fronts

/-! ### Matches in a text and in a longer one -/

section Advances

variable {span : Nat} {before : Option Char} {ways : List Way} {taken : Nat} {best : Option Nat}
  {t : Text}

theorem blind_of_mem_filterMap {w : List (Unicode.CharSet × Way)} (hw : ∀ k ∈ w, Blind k.2)
    {c : Char} : ∀ k ∈ w.filterMap fun (s, k) => if s.contains c then some k else none, Blind k := by
  intro k hk
  obtain ⟨⟨s, k'⟩, hmem, hite⟩ := List.mem_filterMap.1 hk
  obtain ⟨-, ⟨⟩⟩ := Option.ite_none_right_eq_some.1 hite
  exact hw _ hmem

/-- Once a match is complete there is one. -/
theorem isSome_advance (h : best.isSome ∨ (front span before t.head? ways).complete) :
    (advance span before ways taken best t).isSome := by
  induction t generalizing before ways taken best with
  | nil =>
    unfold advance
    split
    · rfl
    · simp_all
  | cons c t ih =>
    have hbest :
        (if (front span before (some c) ways).complete then some taken else best).isSome := by
      split
      · rfl
      · simp_all
    unfold advance
    dsimp only
    split
    · exact hbest
    · exact ih (.inl hbest)

theorem advance_le {n : Nat} (h : advance span before ways taken best t = some n)
    (hbest : ∀ m ∈ best, m ≤ taken) : n ≤ taken + t.length := by
  induction t generalizing before ways taken best with
  | nil =>
    unfold advance at h
    split at h
    · cases h
      exact Nat.le_refl _
    · exact hbest n h
  | cons c t ih =>
    have hbest' : ∀ m ∈ if (front span before (some c) ways).complete then some taken else best,
        m ≤ taken := by
      split
      · rintro m ⟨⟩
        exact Nat.le_refl _
      · exact hbest
    unfold advance at h
    dsimp only at h
    rw [List.length_cons]
    split at h
    · exact Nat.le_add_right_of_le (hbest' n h)
    · have := ih h fun m hm => Nat.le_succ_of_le (hbest' m hm)
      omega

/-- **A match in a text is none the less one where the text goes on**, if it ends before the end of
the text or nothing looks ahead. -/
theorem isSome_advance_append {n : Nat} (h : advance span before ways taken best t = some n)
    (hn : n < taken + t.length ∨ ∀ k ∈ ways, Blind k) (u : Text) :
    (advance span before ways taken best (t ++ u)).isSome := by
  induction t generalizing before ways taken best with
  | nil =>
    refine isSome_advance ?_
    unfold advance at h
    split at h
    · rename_i hcomplete
      obtain rfl : taken = n := Option.some.inj h
      have hblind : ∀ k ∈ ways, Blind k := hn.resolve_left (Nat.lt_irrefl _)
      rw [front_congr hblind span before _ none]
      exact .inr hcomplete
    · simp [h]
  | cons c t ih =>
    rw [List.cons_append]
    unfold advance at h ⊢
    dsimp only at h ⊢
    split at h
    · rw [h]
      rfl
    · refine ih h (hn.imp (fun hn => ?_) fun hblind => ?_)
      · rw [List.length_cons] at hn
        omega
      · exact blind_of_mem_filterMap (blind_of_mem_front hblind)

end Advances

namespace Regex

variable {r : Regex} {t : Text} {pos k : Nat} {m : Span}

theorem charBefore_take (hpos : pos ≤ k) : charBefore (t.take k) pos = charBefore t pos := by
  unfold charBefore
  split
  · rfl
  · rw [List.getElem?_take_of_lt (by omega)]

theorem stop_le_of_matchAt? (hpos : pos ≤ t.length) (h : r.matchAt? t pos = some m) :
    m.stop ≤ t.length := by
  obtain ⟨n, hn, rfl⟩ := Option.map_eq_some_iff.1 h
  have := advance_le hn nofun
  rw [List.length_drop] at this
  dsimp only
  omega

/-- **A match in the text before an offset is one in the whole text**, unless it ends at the offset
and something in the pattern looks ahead there. -/
theorem isSome_matchAt?_of_take (hpos : pos ≤ k) (h : r.matchAt? (t.take k) pos = some m)
    (hm : k < t.length → m.stop ≠ k ∨ r.looksAhead = false) : (r.matchAt? t pos).isSome := by
  obtain hk | hk := Nat.lt_or_ge k t.length
  · have hlength : (t.take k).length = k := List.length_take_of_le (Nat.le_of_lt hk)
    have hle : m.stop ≤ (t.take k).length := stop_le_of_matchAt? (hlength.symm ▸ hpos) h
    obtain ⟨n, hn, rfl⟩ := Option.map_eq_some_iff.1 h
    unfold matchLength? at hn
    rw [charBefore_take hpos, List.drop_take] at hn
    unfold matchAt? matchLength?
    rw [Option.isSome_map, ← List.take_append_drop (k - pos) (t.drop pos)]
    refine isSome_advance_append hn ((hm hk).imp (fun hstop => ?_) fun hr => ?_) _
    · rw [List.length_take, List.length_drop]
      dsimp only at hle hstop
      omega
    · exact List.forall_mem_singleton.2 (blind_expr.2 ⟨hr, nofun⟩)
  · rw [List.take_of_length_le hk] at h
    rw [h]
    rfl

end Regex

end Pattern

/-! ### Hits -/

/-- A hit in the text before an offset that is perhaps no match of the whole text: it ends where that
text is cut off, and the pattern looks ahead. -/
def Buffer.CutOff (b : Buffer) (p : SearchPattern) (offset : Nat) (hit : SearchHit) : Prop :=
  hit.wrapped = false ∧ hit.span.stop = offset ∧ offset < b.length ∧ p.regex.looksAhead = true

instance {b : Buffer} {p : SearchPattern} {offset : Nat} {hit : SearchHit} :
    Decidable (b.CutOff p offset hit) :=
  inferInstanceAs (Decidable (_ ∧ _))

/-- **Hits are matches.** What a search finds begins where a match of the whole text begins, whatever
the pattern and wherever the search starts, unless the hit is cut off. Forward, and backward where
the search has started over, it is that match; backward from an offset it is a match of the text
before the offset. -/
theorem hits_are_matches (b : Buffer) (p : SearchPattern) (offset : Nat) (hit : SearchHit) :
    (b.findNext p offset = some hit →
      hit.span.start ∈ matchStarts p.regex.matchAt? b.text ∧
        p.regex.matchAt? b.text hit.span.start = some hit.span) ∧
    (b.findPrevious p offset = some hit →
      (¬ b.CutOff p offset hit → hit.span.start ∈ matchStarts p.regex.matchAt? b.text) ∧
        p.regex.matchAt? (if hit.wrapped then b.text else b.text.take offset) hit.span.start =
          some hit.span) := by
  constructor
  · intro h
    have hnext := b.isNextMatch_findNext p offset
    rw [h] at hnext
    exact hnext.isMatch
  · intro h
    have hprevious := b.isPreviousMatch_findPrevious p offset
    rw [h] at hprevious
    cases hprevious with
    | far _ hm => exact ⟨fun _ => hm.1.1, hm.2⟩
    | @near m hm =>
      obtain ⟨⟨⟨hstart, -⟩, -⟩, hmatch⟩ := hm
      refine ⟨fun hcut => ?_, hmatch⟩
      rw [List.length_take] at hstart
      have hsome : (p.regex.matchAt? b.text m.start).isSome := by
        refine Pattern.Regex.isSome_matchAt?_of_take (by omega) hmatch fun hoffset => ?_
        rw [Decidable.or_iff_not_imp_left, Decidable.not_not]
        exact fun hstop => Bool.eq_false_iff.2 fun hr => hcut ⟨rfl, hstop, hoffset, hr⟩
      exact ⟨by dsimp only; omega, Option.isSome_iff_ne_none.1 hsome⟩

/-- A hit that ends at the end of a line, in front of the offset. -/
theorem hits_are_matches_inside :
    let p : SearchPattern :=
      ⟨['(', '?', 'm', ')', 'a', '$'], false, .cat (.set (.single 'a')) (.look .lineEnd),
        by decide +kernel⟩
    let b : Buffer := ⟨['a', '\n', 'b']⟩
    b.findPrevious p 2 = some ⟨⟨0, 1⟩, false⟩ ∧ ¬ b.CutOff p 2 ⟨⟨0, 1⟩, false⟩ ∧
      0 ∈ matchStarts p.regex.matchAt? b.text := by
  intro p b
  have hhit : b.findPrevious p 2 = some ⟨⟨0, 1⟩, false⟩ := by decide +kernel
  have hcut : ¬ b.CutOff p 2 ⟨⟨0, 1⟩, false⟩ := by decide +kernel
  exact ⟨hhit, hcut, ((hits_are_matches b p 2 ⟨⟨0, 1⟩, false⟩).2 hhit).1 hcut⟩

/-- The text before the offset, taken alone, ends where the query says that a match ends, and the
whole text does not: what is found is no match. -/
theorem hit_without_match :
    let p : SearchPattern :=
      ⟨['a', '$'], false, .cat (.set (.single 'a')) (.look .textEnd), by decide +kernel⟩
    let b : Buffer := ⟨['a', 'b']⟩
    b.findPrevious p 1 = some ⟨⟨0, 1⟩, false⟩ ∧ ¬ 0 ∈ matchStarts p.regex.matchAt? b.text := by
  intro p b
  have hhit : b.findPrevious p 1 = some ⟨⟨0, 1⟩, false⟩ := by decide +kernel
  have hnone : p.regex.matchAt? b.text 0 = none := by decide +kernel
  exact ⟨hhit, fun hmem => hmem.2 hnone⟩

end ModalEditor
