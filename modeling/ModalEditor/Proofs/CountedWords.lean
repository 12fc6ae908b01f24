import ModalEditor.Proofs.CarriedCursor
import ModalEditor.Proofs.TokenCuts

/-!
# Counted word motions

A counted word motion goes from offset to offset and puts the cursor in order at the end; pressed as
often, the motion puts the cursor in order after each round, and starts the next where it stands
then. `WordMotion.next?` is one round of either loop, and `WordMotion.visits` are the offsets that
the rounds lead to. They are on characters of words, where the cursor can stand, but for the end of
the text and its start; and from where the cursor stands instead there is nowhere to go on
(`WordMotion.round`). So the two come to the same, by induction on the rounds (`settle_visits`).

Each round gets on (`onward_of_next?`). Therefore a loop makes no more rounds than there are
characters, whatever the count (`length_visits_le`), and a greater count leads no further
(`visits_eq_visits`).
-/

namespace ModalEditor

/-- The motions by words. -/
inductive WordMotion where
  /-- To the start of a word further on. -/
  | ahead (kind : WordKind)
  /-- To the start of a word further back. -/
  | back (kind : WordKind)
  /-- To the end of a word further on. -/
  | toEnd (kind : WordKind)

namespace WordMotion

/-- The motion. -/
def motion : WordMotion → Motion
  | ahead kind => .word kind
  | back kind => .backWord kind
  | toEnd kind => .wordEnd kind

/-- **One round** from an offset: where it leads, unless the loop stops there. -/
def next? (m : WordMotion) (b : Buffer) (offset : Nat) : Option Nat :=
  match m with
  | ahead kind => if b.length ≤ offset then none else some (b.nextWordStart kind offset)
  | back kind => if offset = 0 then none else some (b.previousWordStart kind offset)
  | toEnd kind => b.nextWordLast? kind offset

/-- **The offsets that so many rounds lead to**, up to where the loop stops. -/
def visits (m : WordMotion) (b : Buffer) : Nat → Nat → List Nat
  | 0, _ => []
  | n + 1, offset =>
    match m.next? b offset with
    | some next => next :: m.visits b n next
    | none => []

/-- The offset after so many rounds. -/
def skip (m : WordMotion) (b : Buffer) (n offset : Nat) : Nat :=
  (m.visits b n offset).getLastD offset

/-- The target of a motion whose rounds end at an offset: ends of words are in the text. -/
def arrival (m : WordMotion) (b : Buffer) (offset : Nat) : Nat :=
  match m with
  | toEnd _ => min offset (b.length - 1)
  | _ => offset

/-- One offset is before another on the way of a motion. -/
def Onward (m : WordMotion) (offset offset' : Nat) : Prop :=
  match m with
  | back _ => offset' < offset
  | _ => offset < offset'

/-- How many offsets are left on the way of a motion. -/
def left (m : WordMotion) (b : Buffer) (offset : Nat) : Nat :=
  match m with
  | back _ => offset
  | _ => b.length - offset

variable {m : WordMotion} {b : Buffer} {n n' offset next : Nat} {kind : WordKind}

theorem skip_of_next?_eq_none (h : m.next? b offset = none) (n : Nat) :
    m.skip b n offset = offset := by
  cases n with
  | zero => rfl
  | succ n =>
    unfold skip
    rw [visits, h]
    rfl

theorem skip_succ_of_next?_eq_some (h : m.next? b offset = some next) (n : Nat) :
    m.skip b (n + 1) offset = m.skip b n next := by
  unfold skip
  rw [visits, h]
  exact List.getLastD_cons

/-- The last round may be made behind the others. -/
theorem skip_succ (m : WordMotion) (b : Buffer) (n offset : Nat) :
    m.skip b (n + 1) offset = m.skip b 1 (m.skip b n offset) := by
  induction n generalizing offset with
  | zero => rfl
  | succ n ih =>
    cases hnext : m.next? b offset with
    | none => simp only [skip_of_next?_eq_none hnext]
    | some next => rw [skip_succ_of_next?_eq_some hnext, ih, skip_succ_of_next?_eq_some hnext]

/-! ### The loops -/

theorem skipWords_eq_skip (b : Buffer) (kind : WordKind) (n offset : Nat) :
    b.skipWords kind n offset = (ahead kind).skip b n offset := by
  induction n generalizing offset with
  | zero => rfl
  | succ n ih =>
    rw [Buffer.skipWords]
    split <;> rename_i hend
    · exact (skip_of_next?_eq_none (m := ahead kind) (if_pos hend) _).symm
    · rw [skip_succ_of_next?_eq_some (m := ahead kind) (if_neg hend)]
      exact ih _

theorem backWords_eq_skip (b : Buffer) (kind : WordKind) (n offset : Nat) :
    b.backWords kind n offset = (back kind).skip b n offset := by
  induction n generalizing offset with
  | zero => rfl
  | succ n ih =>
    rw [Buffer.backWords]
    split <;> rename_i hstart
    · rw [skip_of_next?_eq_none (m := back kind) (if_pos hstart), hstart]
    · rw [skip_succ_of_next?_eq_some (m := back kind) (if_neg hstart)]
      exact ih _

theorem skipWordEnds_eq_skip (b : Buffer) (kind : WordKind) (n offset : Nat) :
    b.skipWordEnds kind n offset = (toEnd kind).skip b n offset := by
  induction n generalizing offset with
  | zero => rfl
  | succ n ih =>
    rw [Buffer.skipWordEnds]
    split <;> rename_i hlast
    · rw [skip_succ_of_next?_eq_some (m := toEnd kind) hlast]
      exact ih _
    · exact (skip_of_next?_eq_none (m := toEnd kind) hlast _).symm

/-- Words ahead are counted to the last but one in a loop, and the last is sought behind it. -/
theorem nextWordStart_skipWords (kind : WordKind) (n : Nat) (h : offset ≤ b.length) :
    b.nextWordStart kind (b.skipWords kind n offset) = (ahead kind).skip b (n + 1) offset := by
  have hle := b.skipWords_le kind n h
  rw [skip_succ, ← skipWords_eq_skip b kind n]
  generalize b.skipWords kind n offset = last at hle
  by_cases hend : b.length ≤ last
  · have hnext := Buffer.le_nextWordStart kind hle
    have hnext' := b.nextWordStart_le kind hle
    rw [skip_of_next?_eq_none (m := ahead kind) (if_pos hend)]
    omega
  · rw [skip_succ_of_next?_eq_some (m := ahead kind) (if_neg hend)]
    rfl

/-! ### Getting on -/

/-- **Each round gets on**, and stays in the text. -/
theorem onward_of_next? (h : offset ≤ b.length) (hnext : m.next? b offset = some next) :
    m.Onward offset next ∧ next ≤ b.length := by
  cases m with
  | ahead kind =>
    obtain ⟨hlt, hsome⟩ := Option.ite_none_left_eq_some.1 hnext
    obtain rfl := Option.some.inj hsome
    refine ⟨?_, b.nextWordStart_le kind h⟩
    obtain hleast | ⟨-, hend⟩ := b.nextWordStart_spec kind offset
    · exact hleast.1.2
    · show offset < _
      omega
  | back kind =>
    obtain ⟨hne, hsome⟩ := Option.ite_none_left_eq_some.1 hnext
    obtain rfl := Option.some.inj hsome
    refine ⟨?_, b.previousWordStart_le kind offset⟩
    obtain hgreatest | ⟨-, hstart⟩ := b.previousWordStart_spec kind offset
    · exact hgreatest.1.2
    · show _ < offset
      omega
  | toEnd kind => exact ⟨Buffer.lt_nextWordLast? hnext, Buffer.nextWordLast?_le hnext⟩

theorem Onward.trans {offset' : Nat} (h : m.Onward offset next) (h' : m.Onward next offset') :
    m.Onward offset offset' := by
  cases m with
  | back kind => exact Nat.lt_trans h' h
  | ahead kind | toEnd kind => exact Nat.lt_trans h h'

theorem left_lt_of_next? (h : offset ≤ b.length) (hnext : m.next? b offset = some next) :
    m.left b next < m.left b offset := by
  obtain ⟨honward, hle⟩ := onward_of_next? h hnext
  cases m with
  | back kind => exact honward
  | ahead kind | toEnd kind => exact Nat.sub_lt_sub_left (Nat.lt_of_lt_of_le honward hle) honward

theorem left_le (m : WordMotion) (h : offset ≤ b.length) : m.left b offset ≤ b.length := by
  cases m with
  | back kind => exact h
  | ahead kind | toEnd kind => exact Nat.sub_le _ _

/-- **The rounds lead on and on.** -/
theorem pairwise_visits (m : WordMotion) (n : Nat) (h : offset ≤ b.length) :
    (offset :: m.visits b n offset).Pairwise m.Onward := by
  induction n generalizing offset with
  | zero => exact List.pairwise_singleton _ _
  | succ n ih =>
    rw [visits]
    cases hnext : m.next? b offset with
    | none => exact List.pairwise_singleton _ _
    | some next =>
      obtain ⟨honward, hle⟩ := onward_of_next? h hnext
      have hrest := ih hle
      refine .cons (fun later hlater => ?_) hrest
      obtain rfl | hlater := List.mem_cons.1 hlater
      · exact honward
      · exact honward.trans (List.rel_of_pairwise_cons hrest hlater)

/-- **There are no more rounds than offsets left**, whatever the count. -/
theorem length_visits_le (m : WordMotion) (n : Nat) (h : offset ≤ b.length) :
    (m.visits b n offset).length ≤ m.left b offset := by
  induction n generalizing offset with
  | zero => exact Nat.zero_le _
  | succ n ih =>
    rw [visits]
    cases hnext : m.next? b offset with
    | none => exact Nat.zero_le _
    | some next =>
      have hlt := left_lt_of_next? h hnext
      have hle := ih (onward_of_next? h hnext).2
      exact Nat.lt_of_le_of_lt hle hlt

/-- Counts greater than what is left are all the same. -/
theorem visits_eq_visits (h : offset ≤ b.length) (hn : m.left b offset ≤ n)
    (hn' : m.left b offset ≤ n') : m.visits b n offset = m.visits b n' offset := by
  induction n generalizing offset n' with
  | zero =>
    have hnone : m.next? b offset = none := by
      refine Option.eq_none_iff_forall_ne_some.2 fun next hnext => ?_
      have hlt := left_lt_of_next? h hnext
      omega
    cases n' with
    | zero => rfl
    | succ n' => simp [visits, hnone]
  | succ n ih =>
    cases hnext : m.next? b offset with
    | none =>
      cases n' with
      | zero => simp [visits, hnext]
      | succ n' => simp [visits, hnext]
    | some next =>
      have hlt := left_lt_of_next? h hnext
      obtain ⟨n', rfl⟩ : ∃ k, n' = k + 1 := Nat.exists_eq_add_one.2 (by omega)
      have hrest : m.visits b n next = m.visits b n' next :=
        ih (onward_of_next? h hnext).2 (by omega) (by omega)
      simp [visits, hnext, hrest]

/-! ### Rounds with the cursor put in order -/

/-- Where the cursor comes to stand if the rounds end at an offset. -/
def settle (m : WordMotion) (b : Buffer) (offset : Nat) : Nat := b.landing (m.arrival b offset)

/-- Where the cursor comes to stand if the motion is pressed once. -/
def press (m : WordMotion) (b : Buffer) (offset : Nat) : Nat := m.settle b (m.skip b 1 offset)

/-- The cursor can stand on a character of a word. -/
theorem landing_of_not_whiteSpace {c : Char} (hc : b.charAt? offset = some c)
    (hwhite : Unicode.isWhiteSpace c = false) : b.landing offset = offset := by
  refine Buffer.landing_of_charAt? hc ?_
  rintro rfl
  exact absurd hwhite (by decide)

/-- A round leads to where the cursor can stand, or to the end of the text. -/
theorem settle_of_next? (hnext : m.next? b offset = some next) :
    m.settle b next = next ∨ (∃ kind, m = ahead kind) ∧ next = b.length := by
  cases m with
  | ahead kind =>
    obtain ⟨-, hsome⟩ := Option.ite_none_left_eq_some.1 hnext
    obtain rfl := Option.some.inj hsome
    obtain hleast | ⟨-, hend⟩ := b.nextWordStart_spec kind offset
    · obtain ⟨c, hc, hwhite, -⟩ := Buffer.mem_tokenStarts.1 hleast.1.1
      exact .inl (landing_of_not_whiteSpace hc hwhite)
    · exact .inr ⟨⟨kind, rfl⟩, hend⟩
  | back kind =>
    obtain ⟨-, hsome⟩ := Option.ite_none_left_eq_some.1 hnext
    obtain rfl := Option.some.inj hsome
    obtain hgreatest | ⟨-, hstart⟩ := b.previousWordStart_spec kind offset
    · obtain ⟨c, hc, hwhite, -⟩ := Buffer.mem_tokenStarts.1 hgreatest.1.1
      exact .inl (landing_of_not_whiteSpace hc hwhite)
    · rw [hstart]
      exact .inl (Nat.le_zero.1 (Buffer.landing_le (Nat.zero_le _)))
  | toEnd kind =>
    have hspec := b.nextWordLast?_spec kind offset
    have hlast : b.nextWordLast? kind offset = some next := hnext
    rw [hlast] at hspec
    obtain ⟨c, hc, hwhite, -⟩ := Buffer.mem_tokenLasts.1 hspec.1.1
    have hlt : next < b.length := (List.getElem?_eq_some_iff.1 hc).1
    refine .inl ?_
    show b.landing (min next (b.length - 1)) = next
    rw [Nat.min_eq_left (by omega)]
    exact landing_of_not_whiteSpace hc hwhite

/-- From the last place of the cursor no round leads to another. -/
theorem press_landing_length (kind : WordKind) :
    (ahead kind).press b (b.landing b.length) = b.landing b.length := by
  have hle := b.landing_le (Nat.le_refl _)
  have hsucc := b.min_landing_succ (Nat.le_refl _)
  rw [Buffer.searchStart, if_pos (.inl rfl)] at hsucc
  by_cases hend : b.length ≤ b.landing b.length
  · unfold press
    rw [skip_of_next?_eq_none (m := ahead kind) (if_pos hend)]
    exact b.landing_landing b.length
  · have hround : (ahead kind).next? b (b.landing b.length) = some b.length := by
      have hnext : (ahead kind).next? b (b.landing b.length) = some _ := if_neg hend
      obtain ⟨honward, hle'⟩ := onward_of_next? hle hnext
      have hlt : b.landing b.length < b.nextWordStart kind (b.landing b.length) := honward
      rw [hnext]
      exact congrArg some (by omega)
    unfold press
    rw [skip_succ_of_next?_eq_some hround]
    rfl

/-- Behind a final newline the cursor can stand at the end of the text, and only there. -/
theorem charAt?_of_landing_length (h : b.landing b.length = b.length) (hpos : 0 < b.length) :
    b.charAt? (b.length - 1) = some '\n' := by
  have hle := Nat.le_refl b.length
  obtain ⟨hsum, -⟩ := Buffer.positionAt_bounds hle
  have hcol := ((Buffer.past_iff hle).1 (.inl rfl)).1
  have hrow := b.positionAt_row_le b.length
  rw [Buffer.landing_eq] at h
  have hstart : b.rowStart (b.positionAt b.length).row = b.length := by omega
  have hchar := Buffer.charAt?_before_rowStart hrow (by omega)
  rwa [hstart] at hchar

theorem nextWordLast?_before_newline (hchar : b.charAt? (b.length - 1) = some '\n')
    (h : b.length - 2 ≤ offset) : b.nextWordLast? kind offset = none := by
  have hspec := b.nextWordLast?_spec kind offset
  cases hlast : b.nextWordLast? kind offset with
  | none => rfl
  | some last =>
    rw [hlast] at hspec
    obtain ⟨⟨hmem, hlt⟩, -⟩ := hspec
    obtain ⟨c, hc, hwhite, -⟩ := Buffer.mem_tokenLasts.1 hmem
    have hlen : last < b.length := (List.getElem?_eq_some_iff.1 hc).1
    have hlt : offset < last := hlt
    obtain rfl : last = b.length - 1 := by omega
    obtain rfl : '\n' = c := Option.some.inj (hchar.symm.trans hc)
    exact absurd hwhite (by decide)

/-- **Where the loop stops at once**, pressing the motion again leads nowhere. -/
theorem press_settle_of_next?_eq_none (h : offset ≤ b.length) (hstands : b.landing offset = offset)
    (hnone : m.next? b offset = none) : m.press b (m.settle b offset) = m.settle b offset := by
  have stays {offset : Nat} (hsettle : m.settle b offset = offset)
      (hnone : m.next? b offset = none) : m.press b offset = offset := by
    rw [press, skip_of_next?_eq_none hnone, hsettle]
  cases m with
  | ahead kind =>
    have hsettle : (ahead kind).settle b offset = offset := hstands
    rw [hsettle]
    exact stays hsettle hnone
  | back kind =>
    have hsettle : (back kind).settle b offset = offset := hstands
    rw [hsettle]
    exact stays hsettle hnone
  | toEnd kind =>
    by_cases hlt : offset ≤ b.length - 1
    · have hsettle : (toEnd kind).settle b offset = offset := by
        rw [settle, arrival, Nat.min_eq_left hlt, hstands]
      rw [hsettle]
      exact stays hsettle hnone
    · -- The cursor is behind a final newline, and goes to the row above.
      obtain rfl : offset = b.length := by omega
      have hchar := charAt?_of_landing_length hstands (by omega)
      have hsettle : (toEnd kind).settle b b.length = b.landing (b.length - 1) := by
        rw [settle, arrival, Nat.min_eq_right (Nat.sub_le _ _)]
      have hle := b.landing_le (Nat.sub_le b.length 1)
      have hsucc := b.min_landing_succ (Nat.sub_le b.length 1)
      have hge : b.length - 1 ≤ b.searchStart (b.length - 1) := by
        unfold Buffer.searchStart
        split <;> omega
      rw [hsettle]
      refine stays ?_ (nextWordLast?_before_newline hchar (by omega))
      rw [settle, arrival, Nat.min_eq_left hle, b.landing_landing]

/-- **Rounds come to the same as presses.** The induction is on the rounds: a round leads to where
the cursor can stand, so that the next press goes on from there, or pressing leads no further. -/
theorem settle_skip (h : offset ≤ b.length) (hstands : b.landing offset = offset) (n : Nat) :
    m.settle b (m.skip b (n + 1) offset) = (m.press b)^[n + 1] offset := by
  induction n generalizing offset with
  | zero => rfl
  | succ n ih =>
    rw [Function.iterate_succ_apply]
    cases hnext : m.next? b offset with
    | none =>
      have hpress : m.press b offset = m.settle b offset := by
        rw [press, skip_of_next?_eq_none hnext]
      rw [skip_of_next?_eq_none hnext, hpress,
        Function.iterate_fixed (press_settle_of_next?_eq_none h hstands hnext)]
    | some next =>
      have hpress : m.press b offset = m.settle b next := by
        rw [press, skip_succ_of_next?_eq_some hnext]
        rfl
      rw [skip_succ_of_next?_eq_some hnext, hpress]
      obtain hsettle | ⟨⟨kind, rfl⟩, rfl⟩ := settle_of_next? hnext
      · have hstands' : b.landing next = next := by
          rw [← hsettle]
          exact b.landing_landing _
        rw [hsettle]
        exact ih (onward_of_next? h hnext).2 hstands'
      · have hnone : (ahead kind).next? b b.length = none := if_pos (Nat.le_refl _)
        have hsettle : (ahead kind).settle b b.length = b.landing b.length := rfl
        rw [skip_of_next?_eq_none hnone, hsettle,
          Function.iterate_fixed (press_landing_length kind)]

end WordMotion

/-! ### Typed word motions -/

namespace Editor

variable {e : Editor} {m : WordMotion} {settings : Settings}

theorem target?_wordMotion (h : e.Idle) (settings : Settings) (m : WordMotion) (n : TypedCount) :
    ∃ inclusive, m.motion.target? settings { e with repeatCount := n.count? } =
      some (.char (m.arrival e.buffer
        (m.skip e.buffer (min n.times maxCount) e.cursorOffset)) inclusive) := by
  let e₁ : Editor := { e with repeatCount := n.count? }
  have hcount : e₁.count = min n.times maxCount := by
    rw [count_of_operatorCount (e := e₁) (congrArg Pending.operatorCount h.toPending)]
    exact n.getD_count?
  have hhere : e.cursorOffset ≤ e.buffer.length := e.buffer.offsetAt_le_length e.cursor
  cases m with
  | ahead kind =>
    have hpos : 0 < min n.times maxCount := Nat.lt_min.2 ⟨n.times_pos, by decide⟩
    obtain ⟨k, hk⟩ := Nat.exists_eq_add_one.2 hpos
    have hmod : e₁.modifier = none := congrArg Pending.modifier h.toPending
    have htarget : e₁.wordTarget kind = .char (e.buffer.nextWordStart kind
        (e.buffer.skipWords kind (e₁.count - 1) e.cursorOffset)) false :=
      wordTarget_eq hmod h.operator kind
    refine ⟨false, congrArg some (htarget.trans ?_)⟩
    rw [hcount, hk, Nat.add_sub_cancel, WordMotion.nextWordStart_skipWords kind k hhere]
    rfl
  | back kind =>
    refine ⟨false, ?_⟩
    show some (e₁.backWordTarget kind) = _
    rw [backWordTarget, hcount, WordMotion.backWords_eq_skip]
    rfl
  | toEnd kind =>
    refine ⟨true, ?_⟩
    show some (e₁.wordEndTarget kind) = _
    rw [wordEndTarget, hcount, WordMotion.skipWordEnds_eq_skip]
    rfl

/-- **A typed word motion** carries the cursor to where its rounds end. -/
theorem Idle.after_wordMotion (h : e.Idle) (settings : Settings) (n : TypedCount) (m : WordMotion)
    (rest : List Key) :
    e.after settings (n.keys ++ (m.motion.keys ++ rest)) =
      (e.carriedTo (m.settle e.buffer
        (m.skip e.buffer (min n.times maxCount) e.cursorOffset))).after settings rest := by
  obtain ⟨inclusive, htarget⟩ := target?_wordMotion h settings m n
  have hrun : m.motion.run settings { e with repeatCount := n.count? } =
      ({ e with repeatCount := n.count? } : Editor).reach (.char (m.arrival e.buffer
        (m.skip e.buffer (min n.times maxCount) e.cursorOffset)) inclusive) := by
    have hk := continued_of_none (e := { e with repeatCount := n.count? }) h.continuation
    cases m <;> exact congrArg₂ reach hk (Option.some.inj htarget)
  rw [h.after_char settings n (by cases m <;> simp [WordMotion.motion]) hrun, WordMotion.settle,
    h.carriedTo_landing]

/-- **A word motion that is pressed again and again** carries the cursor from place to place. The
induction is on the presses, which may each have a call of their own. -/
theorem Idle.after_wordPresses (h : e.Idle) (settings : Settings) (m : WordMotion) (n : Nat) :
    e.after settings (List.replicate (n + 1) m.motion.last) =
      e.carriedTo ((m.press e.buffer)^[n + 1] e.cursorOffset) := by
  have hfirst (e : Editor) (h : e.Idle) (rest : List Key) :
      e.after settings (m.motion.last :: rest) =
        (e.carriedTo (m.press e.buffer e.cursorOffset)).after settings rest := by
    have hkeys : m.motion.keys = [m.motion.last] := by cases m <;> rfl
    have hafter := h.after_wordMotion settings {} m rest
    rw [hkeys] at hafter
    exact hafter
  induction n generalizing e with
  | zero => exact hfirst e h []
  | succ n ih =>
    have hplace : (e.carriedTo (m.press e.buffer e.cursorOffset)).cursorOffset =
        m.press e.buffer e.cursorOffset :=
      (h.cursorOffset_carriedTo _).trans (e.buffer.landing_landing _)
    rw [List.replicate_succ, hfirst e h, ih (h.carriedTo _), hplace, carriedTo_carriedTo]
    rfl

/-- **A counted word motion is the motion pressed as often.** Wherever a run has led to, in normal
mode, with nothing half typed and no macro being recorded, with a count that can be held or a text
of no more characters than can be counted: a counted word motion leads to the same editor as the
motion pressed as many times, also where fewer words are left. Its target is where the last round of
the loop ends. Each round gets on, and there are no more rounds than characters, whatever the
count. -/
theorem counted_word_motion {b : Buffer} (he : Reachable b e) (hm : e.mode = .normal)
    (hw : e.waiting = false) (hn : e.repeatCount = none) (hrec : e.recording = none)
    (settings : Settings) (n : TypedCount)
    (hfits : n.times ≤ maxCount ∨ e.buffer.length ≤ maxCount) (m : WordMotion) :
    let here := e.cursorOffset
    let visited := m.visits e.buffer (min n.times maxCount) here
    e.after settings (n.keys ++ m.motion.keys) =
        e.after settings (List.replicate n.times m.motion.last) ∧
      (m.motion.target? settings { e with repeatCount := n.count? }).map Target.offset =
        some (m.arrival e.buffer (visited.getLastD here)) ∧
      (here :: visited).Pairwise m.Onward ∧ visited.length ≤ e.buffer.length := by
  intro here visited
  have h := he.idle hm hw hn hrec
  have hhere : here ≤ e.buffer.length := e.buffer.offsetAt_le_length e.cursor
  have hleft := m.left_le hhere
  refine ⟨?_, ?_, m.pairwise_visits _ hhere, ?_⟩
  · have hcounted : e.after settings (n.keys ++ m.motion.keys) =
        e.carriedTo (m.settle e.buffer (m.skip e.buffer (min n.times maxCount) here)) := by
      have hafter := h.after_wordMotion settings n m []
      rwa [List.append_nil] at hafter
    have hcut : m.skip e.buffer (min n.times maxCount) here = m.skip e.buffer n.times here := by
      obtain hle | hlength := hfits
      · rw [Nat.min_eq_left hle]
      · by_cases hle : n.times ≤ maxCount
        · rw [Nat.min_eq_left hle]
        · have hsame : m.visits e.buffer maxCount here = m.visits e.buffer n.times here :=
            WordMotion.visits_eq_visits hhere (by omega) (by omega)
          rw [Nat.min_eq_right (Nat.le_of_not_le hle), WordMotion.skip, hsame]
          rfl
    obtain ⟨k, hk⟩ := Nat.exists_eq_add_one.2 n.times_pos
    rw [hcounted, hcut, hk, WordMotion.settle_skip hhere h.landing_cursorOffset,
      h.after_wordPresses]
  · obtain ⟨inclusive, htarget⟩ := target?_wordMotion h settings m n
    rw [htarget]
    rfl
  · exact Nat.le_trans (m.length_visits_le _ hhere) hleft

/-- Three words ahead of the last but one: the cursor comes to stand on the last character. -/
theorem counted_word_motion_past_end :
    ∃ e : Editor, Reachable ⟨['a', ' ', 'b', 'c']⟩ e ∧
      let counted := e.after {} [.char '3', .char 'w']
      counted = e.after {} [.char 'w', .char 'w', .char 'w'] ∧ counted.cursor = ⟨0, 3⟩ := by
  let n : TypedCount := { digits := ['3'] }
  have he : Reachable ⟨['a', ' ', 'b', 'c']⟩ _ := .first {} []
  obtain ⟨hcounted, -⟩ := counted_word_motion he (by decide +kernel) (by decide +kernel)
    (by decide +kernel) (by decide +kernel) {} n (.inl (by decide)) (.ahead .word)
  exact ⟨_, he, hcounted, by decide +kernel⟩

end Editor

end ModalEditor
