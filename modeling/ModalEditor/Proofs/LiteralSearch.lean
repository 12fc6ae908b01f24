import Mathlib.Order.Bounds.Basic
import ModalEditor.Proofs.SearchProgress

/-!
# Searches for a literal

A query without metacharacters is read as the expression that matches it and nothing else
(`Pattern.Regex.eq_literal_of_parse`), and the matcher then follows a single way, which goes on as
long as the characters of the query come one after the other (`Pattern.advance_literalWay`). So the
matches are the places where the query stands in the text (`Pattern.Regex.matchAt?_literal`).

Where no two of these places overlap, the text that is cut off at one of them has just those before
it. Both ways a search then goes to the neighbour in the order of the places, round the edge of the
text (`Buffer.exists_neighbour`), and each neighbour has the place itself for its neighbour the
other way (`Follows.eq_of_opposite`).
-/

namespace ModalEditor

/-! ### Reading a literal -/

namespace Pattern

/-- The characters that mean something other than themselves in a pattern. -/
def metacharacters : List Char :=
  ['\\', '.', '+', '*', '?', '(', ')', '|', '[', '\x7b', '^', '$']

/-- A text whose characters all stand for themselves. -/
def IsPlain (t : Text) : Prop := ∀ c ∈ t, c ∉ metacharacters

instance (t : Text) : Decidable (IsPlain t) := List.decidableBAll (· ∉ metacharacters) t

/-- The item that a plain character is read as. -/
def plainItem (c : Char) : Option (Part Regex) := some ⟨.set (.single c), 0⟩

/-- A plain character is read by the last rule, which is for all that has none of its own. -/
theorem readGroup_cons_of_plain {c : Char} (hc : c ∉ metacharacters) (fuel : Nat)
    (items : List (Option (Part Regex))) (groups : Groups) (t : Text) :
    readGroup (fuel + 1) ⟨{}, [], items⟩ groups (c :: t) =
      readGroup fuel ⟨{}, [], plainItem c :: items⟩ groups t := by
  simp only [metacharacters, List.mem_cons, List.not_mem_nil, or_false, not_or] at hc
  simp only [readGroup, Flags.skip]
  split <;> simp_all
  rfl

/-- **A plain text is read to its end**, each character as an item. -/
theorem readGroup_of_plain {t : Text} (ht : IsPlain t) {fuel : Nat} (hfuel : t.length < fuel)
    (items : List (Option (Part Regex))) (groups : Groups) :
    readGroup fuel ⟨{}, [], items⟩ groups t =
      .ok (GroupState.close ⟨{}, [], (t.map plainItem).reverse ++ items⟩, groups, []) := by
  induction t generalizing fuel items with
  | nil =>
    obtain ⟨fuel, rfl⟩ := Nat.exists_eq_add_one.2 hfuel
    rfl
  | cons c t ih =>
    obtain ⟨hc, ht⟩ := List.forall_mem_cons.1 ht
    obtain ⟨fuel, rfl⟩ := Nat.exists_eq_add_one.2 (Nat.zero_lt_of_lt hfuel)
    rw [readGroup_cons_of_plain hc, ih ht (Nat.lt_of_succ_lt_succ hfuel)]
    simp

theorem Regex.branches_literal (t : Text) : (literal t).branches = [literal t] := by
  rcases t with _ | ⟨c, _ | ⟨c', t⟩⟩ <;> rfl

theorem Regex.sequence_sets (t : Text) :
    sequence (t.map fun c => set (.single c)) = literal t := by
  unfold sequence literal
  congr 1
  induction t with
  | nil => rfl
  | cons c t ih => simp [items, ih]

theorem value_joinItems_of_plain (t : Text) :
    (joinItems (t.map plainItem).reverse).value = .literal t := by
  have hvalues : ((t.map plainItem).filterMap id).map (·.value) =
      t.map fun c => Regex.set (.single c) := by
    rw [List.filterMap_map, List.map_filterMap]
    exact congrFun List.filterMap_eq_map t
  unfold joinItems
  dsimp only
  rw [List.reverse_reverse, hvalues, Regex.sequence_sets]

theorem value_close_of_plain (t : Text) :
    (GroupState.close ⟨{}, [], (t.map plainItem).reverse⟩).value = .literal t := by
  simp [GroupState.close, value_joinItems_of_plain, Regex.choice, Regex.choiceWith,
    Regex.branches_literal]

/-- **A plain text is read as itself.** -/
theorem Regex.eq_literal_of_parse {t : Text} (ht : IsPlain t) {r : Regex}
    (h : parse false t = .ok r) : r = literal t := by
  have hread := readGroup_of_plain ht (Nat.lt_add_one t.length) [] ⟨0, []⟩
  rw [List.append_nil] at hread
  unfold parse at h
  dsimp only at h
  rw [hread] at h
  simp only [bind, Except.bind] at h
  rw [← value_close_of_plain t]
  split at h
  · simp at h
  · split at h
    · simp at h
    · split at h
      · simp at h
      · exact (Except.ok.inj h).symm

/-! ### Matching a literal -/

/-- The way on which a text is still to be matched. -/
def literalWay (a : Nat) : Text → Way
  | [] => []
  | t => [.expr a (.literal t)]

theorem front_literalWay_nil (span a : Nat) (before after : Option Char) :
    front span before after [literalWay a []] = ⟨[], true⟩ := rfl

/-- The way waits for the next character of the text, at an address further on. -/
theorem front_literalWay_cons (span a : Nat) (before after : Option Char) (c : Char) (t : Text) :
    front span before after [literalWay a (c :: t)] =
      ⟨[(.single c, literalWay (a + 2) t)], false⟩ := by
  have hfresh (i : Nat) : (Array.replicate span false)[i]?.getD false = false := by
    rw [Array.getElem?_replicate]
    split <;> rfl
  cases t with
  | nil =>
    simp [front, literalWay, Regex.literal, Regex.join, follow, Goal.address, hfresh, Regex.step]
  | cons d t =>
    simp [front, literalWay, Regex.literal, Regex.join, follow, Goal.address, hfresh, Regex.step,
      Regex.span]

/-- **A literal matches where its text stands**: the way goes on character by character. -/
theorem advance_literalWay (span a : Nat) (before : Option Char) (taken : Nat) (q t : Text) :
    advance span before [literalWay a q] taken none t =
      if q <+: t then some (taken + q.length) else none := by
  induction t generalizing a before taken q with
  | nil =>
    cases q with
    | nil => simp [advance, front_literalWay_nil]
    | cons c q => simp [advance, front_literalWay_cons]
  | cons d t ih =>
    cases q with
    | nil => simp [advance, front_literalWay_nil]
    | cons c q =>
      unfold advance
      rw [front_literalWay_cons]
      by_cases h : c = d
      · subst h
        simp [ih, Nat.add_right_comm, ← Nat.add_assoc]
      · have h' : d ≠ c := fun h' => h h'.symm
        simp [h, h']

theorem Regex.matchLength?_literal {q : Text} (hq : q ≠ []) (before : Option Char) (t : Text) :
    (literal q).matchLength? before t = if q <+: t then some q.length else none := by
  have hway : [Goal.expr 0 (literal q)] = literalWay 0 q := by
    cases q with
    | nil => exact absurd rfl hq
    | cons c q => rfl
  unfold matchLength?
  rw [hway, advance_literalWay, Nat.zero_add]

end Pattern

/-! ### The places of a text in another -/

/-- A text stands at an offset of another. -/
def Occurs (q t : Text) (offset : Nat) : Prop := q <+: t.drop offset

instance (q t : Text) (offset : Nat) : Decidable (Occurs q t offset) :=
  inferInstanceAs (Decidable (_ <+: _))

/-- No two of the places where a text stands overlap. -/
def Apart (q t : Text) : Prop :=
  ∀ j < t.length, ∀ i < j, Occurs q t i → Occurs q t j → i + q.length ≤ j

instance (q t : Text) : Decidable (Apart q t) :=
  inferInstanceAs (Decidable (∀ j < t.length, ∀ i < j, _))

section Places

variable {q t : Text} {i j k offset : Nat}

theorem Occurs.add_length_le (h : Occurs q t offset) (hq : q ≠ []) :
    offset + q.length ≤ t.length := by
  have hle := List.IsPrefix.length_le h
  have hpos := List.length_pos_iff.2 hq
  rw [List.length_drop] at hle
  omega

theorem Occurs.lt_length (h : Occurs q t offset) (hq : q ≠ []) : offset < t.length := by
  have hpos := List.length_pos_iff.2 hq
  have hle := h.add_length_le hq
  omega

theorem occurs_take_iff (hq : q ≠ []) :
    Occurs q (t.take k) offset ↔ Occurs q t offset ∧ offset + q.length ≤ k := by
  have hpos := List.length_pos_iff.2 hq
  unfold Occurs
  rw [List.drop_take, List.prefix_take_iff]
  refine and_congr_right fun _ => ?_
  omega

/-- **The places in the text before one of them** are those before it. -/
theorem Apart.occurs_take_iff_lt (h : Apart q t) (hq : q ≠ []) (hj : Occurs q t j) :
    Occurs q (t.take j) i ↔ Occurs q t i ∧ i < j := by
  have hpos := List.length_pos_iff.2 hq
  rw [occurs_take_iff hq]
  refine and_congr_right fun hi => ⟨fun hle => by omega, fun hlt => ?_⟩
  exact h j (hj.lt_length hq) i hlt hi hj

end Places

/-! ### Neighbours -/

section Neighbours

variable {α : Type*} [LinearOrder α] {s : Set α} {x y z : α}

/-- The next place of a set, going round: the least greater one, or else the least of all. -/
def IsNextIn (s : Set α) (x y : α) : Prop :=
  IsLeast {z | z ∈ s ∧ x < z} y ∨ (∀ z ∈ s, z ≤ x) ∧ IsLeast s y

/-- The place before it, going round: the greatest smaller one, or else the greatest of all. -/
def IsPreviousIn (s : Set α) (x y : α) : Prop :=
  IsGreatest {z | z ∈ s ∧ z < x} y ∨ (∀ z ∈ s, x ≤ z) ∧ IsGreatest s y

/-- The place before the next one is the place itself. -/
theorem IsNextIn.eq_of_isPreviousIn (hx : x ∈ s) (h : IsNextIn s x y) (h' : IsPreviousIn s y z) :
    z = x := by
  obtain ⟨⟨hy, hxy⟩, hleast⟩ | ⟨hall, hy, hleast⟩ := h
  · obtain ⟨⟨hz, hzy⟩, hgreatest⟩ | ⟨hall', -⟩ := h'
    · refine le_antisymm (le_of_not_gt fun hxz => ?_) (hgreatest ⟨hx, hxy⟩)
      exact not_lt_of_ge (hleast ⟨hz, hxz⟩) hzy
    · exact absurd hxy (not_lt_of_ge (hall' x hx))
  · obtain ⟨⟨hz, hzy⟩, -⟩ | ⟨-, hz, hgreatest⟩ := h'
    · exact absurd hzy (not_lt_of_ge (hleast hz))
    · exact le_antisymm (hall z hz) (hgreatest hx)

/-- The next place after the one before is the place itself: the order is turned round. -/
theorem IsPreviousIn.eq_of_isNextIn (hx : x ∈ s) (h : IsPreviousIn s x y) (h' : IsNextIn s y z) :
    z = x :=
  @IsNextIn.eq_of_isPreviousIn αᵒᵈ _ s x y z hx h h'

/-- The neighbour of a place in one direction. -/
def Follows (d : Direction) (s : Set α) (x y : α) : Prop :=
  match d with
  | .forward => IsNextIn s x y
  | .backward => IsPreviousIn s x y

/-- **There and back again.** -/
theorem Follows.eq_of_opposite {d : Direction} (hx : x ∈ s) (h : Follows d s x y)
    (h' : Follows d.opposite s y z) : z = x := by
  cases d with
  | forward => exact IsNextIn.eq_of_isPreviousIn hx h h'
  | backward => exact IsPreviousIn.eq_of_isNextIn hx h h'

end Neighbours

/-! ### Patterns that are literals -/

/-- **A pattern that is a literal**: a query of one row, without metacharacters, in which case
counts. -/
structure SearchPattern.IsLiteral (p : SearchPattern) : Prop where
  /-- Case counts. -/
  caseSensitive : p.ignoreCase = false
  /-- No character has a meaning of its own. -/
  plain : Pattern.IsPlain p.source
  /-- There is something to look for. -/
  nonempty : p.source ≠ []
  /-- It is in one row. -/
  newline_notMem : '\n' ∉ p.source

namespace SearchPattern.IsLiteral

variable {p : SearchPattern} {t : Text} {offset : Nat}

theorem regex_eq (h : p.IsLiteral) : p.regex = .literal p.source :=
  Pattern.Regex.eq_literal_of_parse h.plain (h.caseSensitive ▸ p.parse_eq)

/-- **Its matches** are the places where it stands. -/
theorem matchAt?_eq (h : p.IsLiteral) (t : Text) (offset : Nat) :
    p.regex.matchAt? t offset =
      if Occurs p.source t offset then some ⟨offset, offset + p.source.length⟩ else none := by
  have hlength : p.regex.matchLength? (Pattern.Regex.charBefore t offset) (t.drop offset) =
      if Occurs p.source t offset then some p.source.length else none := by
    rw [h.regex_eq]
    exact Pattern.Regex.matchLength?_literal h.nonempty _ _
  unfold Pattern.Regex.matchAt?
  rw [hlength]
  split <;> rfl

theorem span_of_matchAt? (h : p.IsLiteral) {m : Span} (hm : p.regex.matchAt? t offset = some m) :
    m = ⟨offset, offset + p.source.length⟩ := by
  rw [h.matchAt?_eq] at hm
  split at hm
  · exact (Option.some.inj hm).symm
  · simp at hm

theorem matchStarts_eq (h : p.IsLiteral) (t : Text) :
    matchStarts p.regex.matchAt? t = {o | Occurs p.source t o} := by
  ext o
  constructor
  · rintro ⟨-, hmatch⟩
    by_contra ho
    exact hmatch ((h.matchAt?_eq t o).trans (if_neg ho))
  · intro (ho : Occurs p.source t o)
    refine ⟨Nat.le_of_lt (ho.lt_length h.nonempty), ?_⟩
    rw [h.matchAt?_eq, if_pos ho]
    exact Option.some_ne_none _

end SearchPattern.IsLiteral

namespace Buffer

variable {b : Buffer} {p : SearchPattern} {o : Nat}

theorem isNextIn_of_isNextMatch (h : p.IsLiteral) (ho : Occurs p.source b.text o) {hit : SearchHit}
    (hnext : IsNextMatch p.regex.matchAt? b.text (o + 1) (some hit)) :
    IsNextIn {o | Occurs p.source b.text o} o hit.span.start := by
  unfold IsNextMatch at hnext
  have hlt := ho.lt_length h.nonempty
  have hmin : min (o + 1) b.text.length = o + 1 := Nat.min_eq_left hlt
  rw [hmin] at hnext
  cases hnext with
  | near hnear =>
    obtain ⟨hleast, -⟩ := hnear
    rw [h.matchStarts_eq] at hleast
    exact .inl hleast
  | far hnear hfar =>
    obtain ⟨⟨⟨hstart, -⟩, hleast⟩, -⟩ := hfar
    rw [h.matchStarts_eq] at hstart hleast
    refine .inr ⟨fun x hx => Nat.le_of_lt_succ (hnear x ?_), hstart, ?_⟩
    · rw [h.matchStarts_eq]
      exact hx
    · exact fun x hx => hleast ⟨hx, Nat.zero_le x⟩

theorem isPreviousIn_of_isPreviousMatch (h : p.IsLiteral) (ha : Apart p.source b.text)
    (ho : Occurs p.source b.text o) {hit : SearchHit}
    (hprevious : IsPreviousMatch p.regex.matchAt? b.text o (some hit)) :
    IsPreviousIn {o | Occurs p.source b.text o} o hit.span.start := by
  have hbefore : matchStarts p.regex.matchAt? (b.text.take o) =
      {x | x ∈ {o | Occurs p.source b.text o} ∧ x < o} := by
    rw [h.matchStarts_eq]
    exact Set.ext fun x => ha.occurs_take_iff_lt h.nonempty ho
  cases hprevious with
  | near hnear =>
    obtain ⟨hgreatest, -⟩ := hnear
    rw [hbefore] at hgreatest
    exact .inl hgreatest
  | far hnear hfar =>
    obtain ⟨hgreatest, -⟩ := hfar
    have hnone : ∀ x, ¬ (Occurs p.source b.text x ∧ x < o) :=
      fun x hx => Set.eq_empty_iff_forall_notMem.1 (hbefore.symm.trans hnear) x hx
    rw [h.matchStarts_eq] at hgreatest
    exact .inr ⟨fun x hx => Nat.le_of_not_lt fun hlt => hnone x ⟨hx, hlt⟩, hgreatest⟩

/-- The span of a hit is that of its match, also where the text was cut off. -/
theorem span_of_findTowards (h : p.IsLiteral) {d : Direction} {offset : Nat} {hit : SearchHit}
    (hfind : b.findTowards p d offset = some hit) :
    hit.span = ⟨hit.span.start, hit.span.start + p.source.length⟩ := by
  have hfirst {t : Text} {offset : Nat} {m : Span}
      (hm : IsFirstMatch p.regex.matchAt? t offset (some m)) :
      m = ⟨m.start, m.start + p.source.length⟩ := h.span_of_matchAt? hm.2
  have hlast {t : Text} {m : Span} (hm : IsLastMatch p.regex.matchAt? t (some m)) :
      m = ⟨m.start, m.start + p.source.length⟩ := h.span_of_matchAt? hm.2
  cases d with
  | forward =>
    have hnext : StartsOver _ _ (b.findTowards p .forward offset) := b.isNextMatch_findNext p offset
    rw [hfind] at hnext
    cases hnext with
    | near hm => exact hfirst hm
    | far _ hm => exact hfirst hm
  | backward =>
    have hprevious : StartsOver _ _ (b.findTowards p .backward offset) :=
      b.isPreviousMatch_findPrevious p offset
    rw [hfind] at hprevious
    cases hprevious with
    | near hm => exact hlast hm
    | far _ hm => exact hlast hm

/-- **A search from a place goes to its neighbour**, whichever way. -/
theorem exists_neighbour (h : p.IsLiteral) (ha : Apart p.source b.text)
    (ho : Occurs p.source b.text o) (d : Direction) :
    ∃ hit, b.hitAfter? p d o = some hit ∧
      Follows d {o | Occurs p.source b.text o} o hit.span.start ∧
      Occurs p.source b.text hit.span.start ∧
      hit.span = ⟨hit.span.start, hit.span.start + p.source.length⟩ := by
  have hstart : o ∈ matchStarts p.regex.matchAt? b.text := by
    rw [h.matchStarts_eq]
    exact ho
  obtain ⟨hit, hhit, -⟩ := exists_hitAfter? (fun hlacks => hstart.2 (hlacks o hstart.1)) d o
  have hfollows : Follows d {o | Occurs p.source b.text o} o hit.span.start := by
    cases d with
    | forward =>
      have hnext := b.isNextMatch_findNext p (o + 1)
      rw [show b.findNext p (o + 1) = some hit from hhit] at hnext
      exact isNextIn_of_isNextMatch h ho hnext
    | backward =>
      have hprevious := b.isPreviousMatch_findPrevious p o
      rw [show b.findPrevious p o = some hit from hhit] at hprevious
      exact isPreviousIn_of_isPreviousMatch h ha ho hprevious
  refine ⟨hit, hhit, hfollows, ?_, span_of_findTowards h hhit⟩
  cases d with
  | forward => exact hfollows.elim (·.1.1) (·.2.1)
  | backward => exact hfollows.elim (·.1.1) (·.2.1)

end Buffer

/-! ### There and back -/

namespace Editor

variable {p : SearchPattern} {o : Nat} {e : Editor} {settings : Settings}

/-- **The cursor is where a literal stands** that is being searched for, and nothing is half
typed. -/
structure OnLiteral (p : SearchPattern) (o : Nat) (e : Editor) : Prop where
  /-- Commands are typed. -/
  mode : e.mode = .normal
  /-- No second key is waited for. -/
  continuation : e.continuation = none
  /-- No operator is pending. -/
  operator : e.operator = none
  /-- No count stands before one. -/
  operatorCount : e.operatorCount = none
  /-- Nor is one being typed. -/
  repeatCount : e.repeatCount = none
  /-- The pattern is remembered. -/
  pattern : e.searchPattern = some p
  /-- It stands there. -/
  occurs : Occurs p.source e.buffer.text o
  /-- So does the cursor. -/
  cursor : e.cursor = e.buffer.positionAt o

/-- Where a literal stands there is a place for the cursor. -/
theorem not_past_of_occurs {b : Buffer} (h : p.IsLiteral) (ho : Occurs p.source b.text o) :
    ¬ b.Past o := by
  rintro (hend | ⟨hnewline, -⟩)
  · exact Nat.ne_of_lt (ho.lt_length h.nonempty) hend
  · obtain ⟨c, q, hq⟩ := List.exists_cons_of_ne_nil h.nonempty
    obtain ⟨rest, hrest⟩ := ho
    rw [hq, List.cons_append] at hrest
    have hc : b.charAt? o = some c := by
      unfold Buffer.charAt?
      rw [← List.head?_drop, ← hrest, List.head?_cons]
    obtain rfl : c = '\n' := Option.some.inj (hc.symm.trans hnewline)
    exact h.newline_notMem (hq ▸ List.mem_cons_self)

theorem cursor_clampCursor_of_not_past (hm : e.mode ≠ .insert) {offset : Nat}
    (hle : offset ≤ e.buffer.length) (hpast : ¬ e.buffer.Past offset)
    (hcursor : e.cursor = e.buffer.positionAt offset) :
    e.clampCursor.cursor = e.buffer.positionAt offset := by
  obtain ⟨hsum, hcol⟩ := Buffer.positionAt_bounds hle
  have hrow := e.buffer.positionAt_row_le offset
  rw [Buffer.past_iff hle, Decidable.not_and_iff_or_not] at hpast
  simp only [clampCursor, lastColumn, cursorPastEnd_of_ne_insert hm, hcursor]
  rw [Nat.min_eq_left hrow, if_neg Bool.false_ne_true, Nat.min_eq_left (by omega)]

theorem OnLiteral.cursorOffset (h : OnLiteral p o e) (hl : p.IsLiteral) : e.cursorOffset = o := by
  obtain ⟨hsum, hcol⟩ :=
    e.buffer.positionAt_bounds (Nat.le_of_lt (h.occurs.lt_length hl.nonempty))
  unfold Editor.cursorOffset
  rw [h.cursor, Buffer.offsetAt, Nat.min_eq_left (e.buffer.positionAt_row_le o),
    Nat.min_eq_left hcol, hsum]

theorem OnLiteral.exists_searchHit? (h : OnLiteral p o e) (hl : p.IsLiteral)
    (ha : Apart p.source e.buffer.text) (d : Direction) :
    ∃ hit, e.searchHit? p d false = some hit ∧
      Follows d {o | Occurs p.source e.buffer.text o} o hit.span.start ∧
      Occurs p.source e.buffer.text hit.span.start ∧
      hit.span = ⟨hit.span.start, hit.span.start + p.source.length⟩ := by
  obtain ⟨hit, hhit, hneighbour⟩ := Buffer.exists_neighbour hl ha h.occurs d
  have hmatch : ¬ e.buffer.Lacks p := by
    intro hlacks
    have hnone := hlacks o (Nat.le_of_lt (h.occurs.lt_length hl.nonempty))
    rw [hl.matchAt?_eq, if_pos h.occurs] at hnone
    simp at hnone
  have hcount : e.count = 1 := by
    rw [count_of_operatorCount h.operatorCount, h.repeatCount]
    rfl
  have hone : min e.count (e.buffer.length + 1) - 1 = 0 := by
    rw [hcount]
    omega
  refine ⟨hit, ?_, hneighbour⟩
  rw [searchHit?_again hmatch (by simp [hcount]), hone]
  show e.buffer.hitAfter? p d e.cursorOffset = some hit
  rw [h.cursorOffset hl, hhit]

/-- **One key leads to the neighbour**, and its span is reported. The keys after it may as well have
a call of their own. -/
theorem OnLiteral.after_searchAgain (h : OnLiteral p o e) (hl : p.IsLiteral)
    (ha : Apart p.source e.buffer.text) (settings : Settings) (reverse : Bool) :
    let key := (Motion.searchAgain reverse).last
    let e' := e.after settings [key]
    (∃ o', Follows (e.againDirection reverse) {o | Occurs p.source e.buffer.text o} o o' ∧
      OnLiteral p o' e' ∧ e'.matchFound = true ∧
      e'.matchSpan = some ⟨o', o' + p.source.length⟩) ∧
      e'.buffer = e.buffer ∧ e'.searchDirection = e.searchDirection ∧
      ∀ keys, e.after settings (key :: keys) = e'.after settings keys := by
  intro key e'
  obtain ⟨registers, hcapture, -⟩ := exists_capture e key
  let e₁ : Editor := { e with registers := registers }
  have h₁ : OnLiteral p o e₁ :=
    ⟨h.mode, h.continuation, h.operator, h.operatorCount, h.repeatCount, h.pattern, h.occurs,
      h.cursor⟩
  obtain ⟨hit, hsearch, hfollows, hoccurs, hspan⟩ :=
    h₁.exists_searchHit? hl ha (e.againDirection reverse)
  have hbegun : (Motion.searchAgain reverse).Begun e₁ :=
    ⟨.inl h.mode, .inl h.continuation, by simp⟩
  have hsame : ({ e₁ with continuation := none } : Editor) = e₁ := continued_of_none h.continuation
  have hpress : (e.capture key).press settings key = .done (e₁.atHit hit) := by
    rw [hcapture, ← runSearch_of_hit (e := e₁) h.operator h.pattern hsearch]
    have hdone := press_of_begun hbegun settings
    rw [hsame] at hdone
    exact hdone
  have hafter : e' = (e₁.atHit hit).clampCursor := after_singleton_of_done hpress
  have hm : e.mode ≠ .insert := by simp [h.mode]
  have hcursor : e'.cursor = e.buffer.positionAt hit.span.start := by
    rw [hafter]
    exact cursor_clampCursor_of_not_past (e := e₁.atHit hit) hm
      (Nat.le_of_lt (hoccurs.lt_length hl.nonempty)) (not_past_of_occurs hl hoccurs) rfl
  refine ⟨⟨hit.span.start, hfollows, ?_, ?_, ?_⟩, ?_, ?_, after_cons_of_done hpress⟩
  · rw [hafter] at hcursor ⊢
    exact ⟨h.mode, h.continuation, h.operator, rfl, rfl, h.pattern, hoccurs, hcursor⟩
  · rw [hafter]
    rfl
  · rw [hafter, ← hspan]
    rfl
  · rw [hafter]
    rfl
  · rw [hafter]
    rfl

theorem againDirection_not (e : Editor) (reverse : Bool) :
    e.againDirection (!reverse) = (e.againDirection reverse).opposite := by
  cases reverse <;> simp [againDirection]

/-- One key and then the other lead back. -/
theorem OnLiteral.there_and_back (h : OnLiteral p o e) (hl : p.IsLiteral)
    (ha : Apart p.source e.buffer.text) (settings : Settings) (reverse : Bool) :
    let e' := e.after settings
      [(Motion.searchAgain reverse).last, (Motion.searchAgain (!reverse)).last]
    e'.cursor = e.cursor ∧ e'.matchFound = true ∧
      e'.matchSpan = some ⟨o, o + p.source.length⟩ ∧ e'.buffer = e.buffer := by
  obtain ⟨⟨o₁, hthere, h₁, -⟩, hbuffer₁, hdirection, hcons⟩ :=
    h.after_searchAgain hl ha settings reverse
  rw [← hbuffer₁] at ha hthere
  obtain ⟨⟨o₂, hback, h₂, hfound, hspan⟩, hbuffer₂, -, -⟩ :=
    h₁.after_searchAgain hl ha settings (!reverse)
  have hopposite :
      (e.after settings [(Motion.searchAgain reverse).last]).againDirection (!reverse) =
        (e.againDirection reverse).opposite := by
    rw [againDirection_not]
    unfold againDirection
    rw [hdirection]
  rw [hopposite] at hback
  obtain rfl : o₂ = o := hthere.eq_of_opposite (hbuffer₁ ▸ h.occurs) hback
  have hbuffer := hbuffer₂.trans hbuffer₁
  rw [hcons]
  refine ⟨?_, hfound, hspan, hbuffer⟩
  rw [h₂.cursor, hbuffer, h.cursor]

/-- **`n` and `N` are opposite.** In normal mode with nothing half typed, where the pattern is a
literal, its places in the text do not overlap and the cursor is on one of them: after `nN`, as
after `Nn`, the cursor is there again and the span of this place is reported, whichever way the query
was searched for, and whether or not the search goes round the edge of the text. -/
theorem search_there_and_back (hm : e.mode = .normal) (hw : e.waiting = false)
    (hcount : e.operatorCount = none) (hn : e.repeatCount = none)
    (hp : e.searchPattern = some p) (hl : p.IsLiteral) (ha : Apart p.source e.buffer.text)
    (ho : Occurs p.source e.buffer.text o) (hcursor : e.cursor = e.buffer.positionAt o)
    (settings : Settings) :
    ∀ keys ∈ [[Key.char 'n', .char 'N'], [.char 'N', .char 'n']],
      let e' := e.after settings keys
      e'.cursor = e.cursor ∧ e'.matchFound = true ∧
        e'.matchSpan = some ⟨o, o + p.source.length⟩ ∧ e'.buffer = e.buffer := by
  have h : OnLiteral p o e :=
    ⟨hm, continuation_of_not_waiting hw, operator_of_not_waiting hw, hcount, hn, hp, ho, hcursor⟩
  intro keys hkeys
  simp only [List.mem_cons, List.not_mem_nil, or_false] at hkeys
  obtain rfl | rfl := hkeys
  · exact h.there_and_back hl ha settings false
  · exact h.there_and_back hl ha settings true

/-- On the first of two places: `N` goes round to the second, and `n` comes back the same way. -/
theorem search_there_and_back_round :
    let p : SearchPattern := ⟨['a', 'b'], false, .literal ['a', 'b'], by decide +kernel⟩
    ∃ e : Editor, Reachable ⟨['a', 'b', '\n', 'c', 'a', 'b']⟩ e ∧ e.searchPattern = some p ∧
      (e.after {} [.char 'N']).reported? = some ⟨⟨4, 6⟩, true⟩ ∧
      (e.after {} [.char 'N', .char 'n']).cursor = e.cursor ∧
      (e.after {} [.char 'N', .char 'n']).matchSpan = some ⟨0, 2⟩ := by
  intro p
  let e : Editor := ofResult (interpret {} ⟨['a', 'b', '\n', 'c', 'a', 'b']⟩ none
    [.char '/', .char 'a', .char 'b', .enter])
  have hp : e.searchPattern = some p := by decide +kernel
  have hl : p.IsLiteral := ⟨rfl, by decide +kernel, by decide +kernel, by decide +kernel⟩
  have hback := search_there_and_back (o := 0) (e := e) (by decide +kernel) (by decide +kernel)
    (by decide +kernel) (by decide +kernel) hp hl (by decide +kernel) (by decide +kernel)
    (by decide +kernel) {} [.char 'N', .char 'n'] (by decide)
  exact ⟨e, .first {} _, hp, by decide +kernel, hback.1, hback.2.2.1⟩

end Editor

end ModalEditor
