import Mathlib.Data.List.DropRight
import ModalEditor.Proofs.OperatorText

/-!
# Text objects

With a modifier before it, a motion to a word leads over one character, and the operator grows what
it takes over the word characters on both sides (`Buffer.exists_expandWord`). If the character is
one itself, this is the run of word characters around the cursor. There is one such run only
(`IsWordRun.unique`), so nothing that is taken depends on where in it the cursor is, on the kind of
the word or on the modifier.
-/

namespace ModalEditor

/-! ### Runs of word characters -/

/-- **A run of word characters** in a text: none stands right before it or right after it. -/
structure IsWordRun (p t s : Text) : Prop where
  /-- What stands in it. -/
  word : ∀ c ∈ t, isWordChar c = true
  /-- What stands before it. -/
  before : ∀ c ∈ p.getLast?, isWordChar c = false
  /-- What stands after it. -/
  after : ∀ c ∈ s.head?, isWordChar c = false

namespace IsWordRun

variable {p t s p' t' s' : Text} {n : Nat}

theorem isWordChar_getElem (h : IsWordRun p t s) {i : Nat} (hi : p.length ≤ i)
    (hi' : i < p.length + t.length) {c : Char} (hc : (p ++ t ++ s)[i]? = some c) :
    isWordChar c = true := by
  rw [List.append_assoc, List.getElem?_append_right hi,
    List.getElem?_append_left (Nat.sub_lt_left_of_lt_add hi hi')] at hc
  exact h.word c (List.mem_of_getElem? hc)

/-- A run that goes on where another is starts no later. -/
theorem start_le (h : IsWordRun p t s) (h' : IsWordRun p' t' s')
    (htext : p ++ t ++ s = p' ++ t' ++ s') (hn : p.length ≤ n) (hn' : n < p'.length + t'.length) :
    p.length ≤ p'.length := by
  refine Nat.le_of_not_lt fun hlt => ?_
  have hlast : p.length - 1 < p.length := by omega
  have hget : (p ++ t ++ s)[p.length - 1]? = some p[p.length - 1] := by
    rw [List.append_assoc, List.getElem?_append_left hlast, List.getElem?_eq_getElem hlast]
  have hbefore : p[p.length - 1] ∈ p.getLast? := by
    rw [List.getLast?_eq_getElem?, List.getElem?_eq_getElem hlast]
    rfl
  have hword := h'.isWordChar_getElem (i := p.length - 1) (by omega) (by omega) (htext ▸ hget)
  exact absurd (hword.symm.trans (h.before _ hbefore)) (by decide)

/-- It stops no earlier. -/
theorem stop_le (h : IsWordRun p t s) (h' : IsWordRun p' t' s')
    (htext : p ++ t ++ s = p' ++ t' ++ s') (hn : n < p.length + t.length) (hn' : p'.length ≤ n) :
    p'.length + t'.length ≤ p.length + t.length := by
  refine Nat.le_of_not_lt fun hlt => ?_
  cases hs : s.head? with
  | none =>
    have hlength := congrArg List.length htext
    simp only [List.head?_eq_none_iff.1 hs, List.length_append, List.length_nil] at hlength
    omega
  | some c =>
    have hget : (p ++ t ++ s)[p.length + t.length]? = some c := by
      rw [← List.length_append, List.getElem?_append_right (Nat.le_refl _), Nat.sub_self,
        ← List.head?_eq_getElem?, hs]
    have hword := h'.isWordChar_getElem (by omega) hlt (htext ▸ hget)
    exact absurd (hword.symm.trans (h.after c hs)) (by decide)

/-- **There is one run around an offset**, and no other. -/
theorem unique (h : IsWordRun p t s) (h' : IsWordRun p' t' s')
    (htext : p ++ t ++ s = p' ++ t' ++ s') (hn : p.length ≤ n) (hstop : n < p.length + t.length)
    (hn' : p'.length ≤ n) (hstop' : n < p'.length + t'.length) : p = p' ∧ t = t' ∧ s = s' := by
  have hstart : p.length = p'.length :=
    Nat.le_antisymm (h.start_le h' htext hn hstop') (h'.start_le h htext.symm hn' hstop)
  have hend : p.length + t.length = p'.length + t'.length :=
    Nat.le_antisymm (h'.stop_le h htext.symm hstop' hn) (h.stop_le h' htext hstop hn')
  rw [List.append_assoc, List.append_assoc] at htext
  obtain ⟨hp, hrest⟩ := List.append_inj htext hstart
  obtain ⟨ht, hs⟩ := List.append_inj hrest (by omega)
  exact ⟨hp, ht, hs⟩

end IsWordRun

namespace Buffer

variable {b : Buffer} {p t r : Text} {s : Span}

theorem slice_of_text_eq (h : b.text = p ++ t ++ r) :
    b.slice ⟨p.length, p.length + t.length⟩ = t := by
  rw [slice, h, List.append_assoc, List.drop_left, Span.length, Nat.add_sub_cancel_left,
    List.take_left]

theorem remove_of_text_eq (h : b.text = p ++ t ++ r) :
    b.remove ⟨p.length, p.length + t.length⟩ = ⟨p ++ r⟩ := by
  have hdrop : (p ++ t ++ r).drop (p.length + t.length) = r := by
    rw [← List.length_append, List.drop_left]
  rw [remove, Nat.max_eq_right (Nat.le_add_right _ _), h, hdrop, List.append_assoc, List.take_left]

theorem exists_text_eq (hle : s.start ≤ s.stop) (hstop : s.stop ≤ b.length) :
    ∃ p r, b.text = p ++ b.slice s ++ r ∧ s = ⟨p.length, p.length + (b.slice s).length⟩ := by
  refine ⟨b.text.take s.start, b.text.drop s.stop, (b.take_append_slice hle).symm, ?_⟩
  have hp : (b.text.take s.start).length = s.start :=
    List.length_take_of_le (Nat.le_trans hle hstop)
  have ht : (b.slice s).length = s.stop - s.start := by
    rw [slice, List.length_take, List.length_drop, Span.length]
    unfold length at hstop
    omega
  rw [hp, ht, Nat.add_sub_cancel' hle]

/-- **A span that is grown** over the word characters on both sides has no others added to it, and
stops where none follow. -/
theorem exists_expandWord (hle : s.start ≤ s.stop) (hstop : s.stop ≤ b.length) :
    ∃ p t r, b.text = p ++ t ++ r ∧ b.expandWord s = ⟨p.length, p.length + t.length⟩ ∧
      p.length ≤ s.start ∧ s.stop ≤ p.length + t.length ∧
      (∀ c, isWordChar c = false → (c ∈ t ↔ c ∈ b.slice s)) ∧
      (∀ c ∈ p.getLast?, isWordChar c = false) ∧ ∀ c ∈ r.head?, isWordChar c = false := by
  let before := b.text.take s.start
  let after := b.text.drop s.stop
  let p := before.rdropWhile isWordChar
  let u := before.rtakeWhile isWordChar
  let v := after.takeWhile isWordChar
  let r := after.dropWhile isWordChar
  have hbefore : p ++ u = b.text.take s.start := List.rdropWhile_append_rtakeWhile
  have hafter : v ++ r = b.text.drop s.stop := List.takeWhile_append_dropWhile
  have hword : ∀ c ∈ u ++ v, isWordChar c = true := by
    intro c hc
    rcases List.mem_append.1 hc with hc | hc
    · exact List.mem_rtakeWhile_imp hc
    · exact List.mem_takeWhile_imp hc
  have hu : b.wordBefore s.start = u.length := by
    rw [wordBefore, if_pos (Nat.le_trans hle hstop)]
    exact List.length_reverse.symm
  have hstart : p.length + u.length = s.start := by
    have hlength := congrArg List.length hbefore
    rw [List.length_append, List.length_take] at hlength
    unfold length at hstop
    omega
  have hslice : (b.slice s).length = s.stop - s.start := by
    rw [slice, List.length_take, List.length_drop, Span.length]
    unfold length at hstop
    omega
  refine ⟨p, u ++ b.slice s ++ v, r, ?_, ?_, by omega, ?_, ?_, ?_, ?_⟩
  · have htext := b.take_append_slice hle
    rw [← hbefore, ← hafter] at htext
    simpa using htext.symm
  · have hv : b.wordAfter s.stop = v.length := rfl
    rw [expandWord, hu, hv, Span.mk.injEq]
    simp only [List.length_append]
    omega
  · simp only [List.length_append]
    omega
  · intro c hc
    have hnot : c ∉ u ++ v := fun hmem => absurd (hc.symm.trans (hword c hmem)) (by decide)
    simp only [List.mem_append, not_or] at hnot ⊢
    simp [hnot]
  · intro c hc
    obtain ⟨hne, rfl⟩ := List.mem_getLast?_eq_getLast hc
    exact Bool.eq_false_iff.2 (List.rdropWhile_last_not isWordChar before hne)
  · intro c hc
    have hhead := List.head?_dropWhile_not isWordChar after
    rwa [Option.mem_def.1 hc] at hhead

/-- **Around a word character there is a run**, and this is what a span of the one character grows
to. -/
theorem exists_isWordRun {n : Nat} {c : Char} (hc : b.charAt? n = some c)
    (hword : isWordChar c = true) :
    ∃ p t r, b.text = p ++ t ++ r ∧ IsWordRun p t r ∧ p.length ≤ n ∧ n < p.length + t.length ∧
      b.expandWord ⟨n, n + 1⟩ = ⟨p.length, p.length + t.length⟩ := by
  obtain ⟨hlt, hget⟩ := List.getElem?_eq_some_iff.1 hc
  have hslice : b.slice ⟨n, n + 1⟩ = [c] := by
    rw [slice, List.drop_eq_getElem_cons hlt, hget, Span.length, Nat.add_sub_cancel_left]
    rfl
  obtain ⟨p, t, r, htext, hspan, hstart, hstop, hmem, hbefore, hafter⟩ :=
    exists_expandWord (b := b) (s := ⟨n, n + 1⟩) (Nat.le_succ n) hlt
  refine ⟨p, t, r, htext, ⟨fun d hd => ?_, hbefore, hafter⟩, hstart, hstop, hspan⟩
  by_contra hnot
  have hd' := (hmem d (Bool.eq_false_iff.2 hnot)).1 hd
  rw [hslice, List.mem_singleton] at hd'
  exact hnot (hd' ▸ hword)

/-- A span of any character of a run grows to the run. -/
theorem expandWord_of_isWordRun (h : IsWordRun p t r) (htext : b.text = p ++ t ++ r) {n : Nat}
    (hn : p.length ≤ n) (hstop : n < p.length + t.length) :
    b.expandWord ⟨n, n + 1⟩ = ⟨p.length, p.length + t.length⟩ := by
  have hlt : n < b.text.length := by
    rw [htext, List.length_append, List.length_append]
    omega
  have hget := List.getElem?_eq_getElem hlt
  obtain ⟨p', t', r', htext', hrun', hn', hstop', hspan⟩ :=
    exists_isWordRun hget (h.isWordChar_getElem hn hstop (htext ▸ hget))
  obtain ⟨rfl, rfl, -⟩ := h.unique hrun' (htext.symm.trans htext') hn hstop hn' hstop'
  exact hspan

end Buffer

namespace Editor

variable {e : Editor} {op : Operator}

/-! ### What an operator on characters leaves -/

theorem cursor_applyRange (hop : e.operator = some op) (hne : op ≠ .yank) (source target : Nat) :
    (e.applyRange source target).cursor =
      (op.leaves e.buffer (e.rangeSpan source target)).positionAt
        (e.rangeSpan source target).start := by
  unfold applyRange
  rw [hop]
  cases op with
  | yank => exact absurd rfl hne
  | delete | change => rfl

/-- A change goes to insert mode, and no other operator leaves the mode. -/
theorem Operated.mode_eq {e' : Editor} (h : Operated e e' (some op)) :
    e'.mode = if op = .change then .insert else e.mode := by
  have hcontrol := congrArg Control.mode h.control_eq
  rw [mode_operated] at hcontrol
  simp only [Option.some.injEq] at hcontrol
  exact hcontrol

theorem mode_applyRange (hop : e.operator = some op) (source target : Nat) :
    (e.applyRange source target).mode = if op = .change then .insert else e.mode := by
  have hoperated := operated_applyRange e source target
  rw [hop] at hoperated
  exact hoperated.mode_eq

/-- **What is taken is recorded, and what stands around it is left.** -/
theorem taken_applyRange (hop : e.operator = some op) {p t r : Text}
    (htext : e.buffer.text = p ++ t ++ r) {source target : Nat}
    (hspan : e.rangeSpan source target = ⟨p.length, p.length + t.length⟩) :
    let e' := (e.applyRange source target).clampCursor
    RegistersHold e.selected t e' ∧ e'.buffer = if op = .yank then e.buffer else ⟨p ++ r⟩ := by
  intro e'
  constructor
  · have hregisters : e'.registers = e.registersAfter op t := by
      rw [← Buffer.slice_of_text_eq htext, ← hspan]
      exact registers_applyRange hop _ _
    exact .of_registers hregisters
  · refine (leaves_applyRange hop _ _).trans ?_
    rw [hspan]
    cases op with
    | yank => rfl
    | delete | change => exact Buffer.remove_of_text_eq htext

/-- **What an operator leaves depends on the cursor only through the span**, but for where a yank
leaves the cursor. -/
theorem applyRange_congr_span {e' : Editor} (hop : e.operator = some op)
    (hop' : e'.operator = some op) (hbuffer : e'.buffer = e.buffer) (hmode : e'.mode = e.mode)
    (hregisters : e'.registers = e.registers) (hselected : e'.selected = e.selected)
    {source target source' target' : Nat}
    (hspan : e'.rangeSpan source' target' = e.rangeSpan source target) :
    let e₁ := (e.applyRange source target).clampCursor
    let e₁' := (e'.applyRange source' target').clampCursor
    e₁'.registers = e₁.registers ∧
      (op ≠ .yank → e₁'.buffer = e₁.buffer ∧ e₁'.cursor = e₁.cursor ∧ e₁'.mode = e₁.mode) := by
  intro e₁ e₁'
  constructor
  · show (e'.applyRange source' target').registers = (e.applyRange source target).registers
    rw [registers_applyRange hop, registers_applyRange hop', hspan, hbuffer]
    simp only [registersAfter, recordTaken, hregisters, hselected]
  · intro hne
    have hbuffer' :
        (e'.applyRange source' target').buffer = (e.applyRange source target).buffer := by
      rw [leaves_applyRange hop, leaves_applyRange hop', hspan, hbuffer]
    have hcursor :
        (e'.applyRange source' target').cursor = (e.applyRange source target).cursor := by
      rw [cursor_applyRange hop hne, cursor_applyRange hop' hne, hspan, hbuffer]
    have hmode' : (e'.applyRange source' target').mode = (e.applyRange source target).mode := by
      rw [mode_applyRange hop, mode_applyRange hop', hmode]
    exact ⟨hbuffer', cursor_clampCursor_congr hcursor hbuffer' (congrArg _ hmode'), hmode'⟩

/-- What else an operator leaves depends neither on the registers nor on which modifier there is. -/
theorem applyRange_eq_of_modifier (e : Editor) (registers : RegisterFile)
    {modifier? : Option Modifier} (hmod : modifier?.isSome = e.modifier.isSome)
    (source target : Nat) :
    let e' : Editor :=
      ({ e with registers := registers, modifier := modifier? } : Editor).applyRange source target
    e' = { e.applyRange source target with registers := e'.registers } := by
  simp only [applyRange, hmod]
  cases e.operator with
  | none => rfl
  | some op =>
    cases op with
    | delete | change =>
      simp only [deleteSpan, takeCheckpoint, State.checkpoint, recordTaken, moveTo, enterInsert]
    | yank =>
      simp only [takeCheckpoint, State.checkpoint, recordTaken, moveTo]
      split <;> rfl

/-! ### Text objects -/

/-- **With a modifier the operator is given one character.** -/
theorem after_textObject (he : e.clampCursor = e) (hm : e.mode = .normal) (hw : e.waiting = false)
    (hn : e.repeatCount = none) (settings : Settings) {h : OperatorHead}
    (hmod : h.modifier.isSome = true) (op : Operator) (kind : WordKind) :
    let keys := h.keys op ++ (Motion.word kind).keys
    let e₁ := (h.typed op (e.captured keys)).dropCounts
    let s : Span := ⟨e.cursorOffset, min (e.cursorOffset + 1) e.buffer.length⟩
    e.after settings keys = (e₁.applyRange s.start s.stop).clampCursor ∧
      e₁.rangeSpan s.start s.stop = e.buffer.expandWord s := by
  intro keys e₁ s
  have htarget : (h.typed op (e.captured keys)).wordTarget kind = .char s.stop false := if_pos hmod
  have hafter := after_word settings he hm hw hn h op kind
  dsimp only at hafter
  rw [htarget, reach_char_of_operator rfl] at hafter
  refine ⟨hafter, ?_⟩
  have hordered : Span.ordered s.start s.stop = s :=
    if_pos (Nat.le_min.2 ⟨Nat.le_succ _, e.buffer.offsetAt_le_length e.cursor⟩)
  unfold rangeSpan
  rw [hordered]
  exact if_pos hmod

/-- The editor with the cursor elsewhere. -/
def withCursor (e : Editor) (q : Position) : Editor := { e with cursor := q }

/-- **The cursor is on a part of the text**, in order and at one of its characters; `p` stands
before this part. -/
structure On (p t : Text) (e : Editor) : Prop where
  /-- The cursor is in order. -/
  clamped : e.clampCursor = e
  /-- It is not before the part. -/
  start_le : p.length ≤ e.cursorOffset
  /-- It is not behind it. -/
  lt_stop : e.cursorOffset < p.length + t.length

section Run

variable {p t r : Text} (hm : e.mode = .normal) (hw : e.waiting = false)
  (hn : e.repeatCount = none) (hrun : IsWordRun p t r) (htext : e.buffer.text = p ++ t ++ r)
  (settings : Settings) {h : OperatorHead} (hmod : h.modifier.isSome = true) (op : Operator)
  (kind : WordKind)

include hm hw hn hrun htext hmod

/-- In a run of word characters the operator is given the run. -/
theorem On.after_textObject (he : e.On p t) :
    let keys := h.keys op ++ (Motion.word kind).keys
    let e₁ := (h.typed op (e.captured keys)).dropCounts
    let n := e.cursorOffset
    e.after settings keys = (e₁.applyRange n (n + 1)).clampCursor ∧
      e₁.rangeSpan n (n + 1) = ⟨p.length, p.length + t.length⟩ := by
  intro keys e₁ n
  obtain ⟨hafter, hspan⟩ := Editor.after_textObject he.clamped hm hw hn settings hmod op kind
  have hlt : n + 1 ≤ e.buffer.length := by
    have hstop := he.lt_stop
    rw [Buffer.length, htext, List.length_append, List.length_append]
    omega
  rw [Nat.min_eq_left hlt] at hafter hspan
  exact ⟨hafter, hspan.trans (Buffer.expandWord_of_isWordRun hrun htext he.start_le he.lt_stop)⟩

theorem On.taken (he : e.On p t) :
    let e' := e.after settings (h.keys op ++ (Motion.word kind).keys)
    RegistersHold (h.register.or e.selected) t e' ∧
      e'.buffer = if op = .yank then e.buffer else ⟨p ++ r⟩ := by
  intro e'
  obtain ⟨hafter, hspan⟩ := he.after_textObject hm hw hn hrun htext settings hmod op kind
  have he' : e' = _ := hafter
  rw [he']
  exact taken_applyRange (e := (h.typed op (e.captured _)).dropCounts) rfl htext hspan

/-- From anywhere else in the run it is the same. -/
theorem On.elsewhere (he : e.On p t) {q : Position}
    (hq : (e.withCursor q).On p t) :
    let keys := h.keys op ++ (Motion.word kind).keys
    let e₁ := e.after settings keys
    let e₁' := (e.withCursor q).after settings keys
    e₁'.registers = e₁.registers ∧
      (op ≠ .yank → e₁'.buffer = e₁.buffer ∧ e₁'.cursor = e₁.cursor ∧ e₁'.mode = e₁.mode) := by
  intro keys e₁ e₁'
  obtain ⟨hafter, hspan⟩ := he.after_textObject hm hw hn hrun htext settings hmod op kind
  obtain ⟨hafter', hspan'⟩ := On.after_textObject (e := e.withCursor q) hm hw hn hrun htext settings
    hmod op kind hq
  let e₂ : Editor := (h.typed op (e.captured keys)).dropCounts
  let e₂' : Editor := (h.typed op ((e.withCursor q).captured keys)).dropCounts
  have hop : e₂.operator = some op := rfl
  have hop' : e₂'.operator = some op := rfl
  have hsame := applyRange_congr_span hop hop' rfl rfl rfl rfl (hspan'.trans hspan.symm)
  dsimp only at hsame
  rwa [← hafter, ← hafter'] at hsame

/-- With another modifier, and another kind of word, it is the same but for what is recorded. -/
theorem On.after_modifier (he : e.On p t) (modifier : Modifier) (kind' : WordKind) :
    let h' : OperatorHead := { h with modifier := some modifier }
    let e₁ := e.after settings (h.keys op ++ (Motion.word kind).keys)
    let e₁' := e.after settings (h'.keys op ++ (Motion.word kind').keys)
    (∃ registers, e₁' = { e₁ with registers := registers }) ∧
      (e.recording = none → e₁' = e₁) := by
  intro h' e₁ e₁'
  obtain ⟨hafter, hspan⟩ := he.after_textObject hm hw hn hrun htext settings hmod op kind
  obtain ⟨hafter', hspan'⟩ :=
    he.after_textObject hm hw hn hrun htext settings (h := h') rfl op kind'
  have he₁ : e₁ = _ := hafter
  have he₁' : e₁' = _ := hafter'
  rw [he₁, he₁']
  generalize h.keys op ++ (Motion.word kind).keys = keys at hspan ⊢
  generalize h'.keys op ++ (Motion.word kind').keys = keys' at hspan' ⊢
  let e₂ : Editor := (h.typed op (e.captured keys)).dropCounts
  let e₂' : Editor := (h'.typed op (e.captured keys')).dropCounts
  let n := e.cursorOffset
  have hclamp (x : Editor) (registers : RegisterFile) :
      ({ x with registers := registers } : Editor).clampCursor =
        { x.clampCursor with registers := registers } := rfl
  have hmod' : (some modifier).isSome = e₂.modifier.isSome := hmod.symm
  have hsame : e₂'.applyRange n (n + 1) =
      { e₂.applyRange n (n + 1) with registers := (e₂'.applyRange n (n + 1)).registers } :=
    applyRange_eq_of_modifier e₂ (e.captured keys').registers hmod' n (n + 1)
  refine ⟨⟨_, (congrArg clampCursor hsame).trans (hclamp _ _)⟩, fun hrec => ?_⟩
  have hregisters : (e₂'.applyRange n (n + 1)).registers = (e₂.applyRange n (n + 1)).registers := by
    rw [registers_applyRange (e := e₂) rfl, registers_applyRange (e := e₂') rfl, hspan, hspan']
    simp only [e₂, e₂', captured_of_none hrec]
    rfl
  rw [hregisters] at hsame
  exact congrArg clampCursor hsame

end Run

/-- **A text object does not depend on where in the word the cursor is.** In normal mode, with
nothing half typed and the cursor on a word character: there is a run of word characters around it,
and an operator that is given a word with a modifier takes this run, whatever counts are typed and
whatever kind of word. It is the same wherever in the run the cursor is: a delete and a change leave
the same text, registers, cursor and mode, and a yank the same registers. Neither the modifier nor
the kind matters, but to a macro that records the keys. -/
theorem text_object_takes_run (he : e.clampCursor = e) (hm : e.mode = .normal)
    (hw : e.waiting = false) (hn : e.repeatCount = none) {c : Char}
    (hc : e.buffer.charAt? e.cursorOffset = some c) (hword : isWordChar c = true) :
    ∃ p t r, e.buffer.text = p ++ t ++ r ∧ IsWordRun p t r ∧ e.On p t ∧
      ∀ (settings : Settings) (h : OperatorHead) (op : Operator) (kind : WordKind),
        h.modifier.isSome = true →
          let keys := h.keys op ++ (Motion.word kind).keys
          let e₁ := e.after settings keys
          (RegistersHold (h.register.or e.selected) t e₁ ∧
            e₁.buffer = if op = .yank then e.buffer else ⟨p ++ r⟩) ∧
          (∀ q : Position, (e.withCursor q).On p t →
            let e₁' := (e.withCursor q).after settings keys
            e₁'.registers = e₁.registers ∧
              (op ≠ .yank →
                e₁'.buffer = e₁.buffer ∧ e₁'.cursor = e₁.cursor ∧ e₁'.mode = e₁.mode)) ∧
          ∀ (modifier : Modifier) (kind' : WordKind),
            let h' : OperatorHead := { h with modifier := some modifier }
            let e₁' := e.after settings (h'.keys op ++ (Motion.word kind').keys)
            (∃ registers, e₁' = { e₁ with registers := registers }) ∧
              (e.recording = none → e₁' = e₁) := by
  obtain ⟨p, t, r, htext, hrun, hstart, hstop, -⟩ := Buffer.exists_isWordRun hc hword
  have hon : e.On p t := { clamped := he, start_le := hstart, lt_stop := hstop }
  refine ⟨p, t, r, htext, hrun, hon, fun settings h op kind hmod => ⟨?_, ?_, ?_⟩⟩
  · exact hon.taken hm hw hn hrun htext settings hmod op kind
  · intro q hq
    exact hon.elsewhere hm hw hn hrun htext settings hmod op kind hq
  · intro modifier kind'
    exact hon.after_modifier hm hw hn hrun htext settings hmod op kind modifier kind'

/-- A change of the word under the cursor, with a register and counts, from the middle of the word
and from its end; and the same with the other modifier and the other kind of word. -/
theorem text_object_takes_run_from_end :
    let h : OperatorHead := { register := some 'r', before := ['2'], modifier := some .inside }
    let h' : OperatorHead := { h with modifier := some .around }
    let word : Text := ['b', '_', '1']
    ∃ e : Editor, Reachable ⟨['a', ',', 'b', '_', '1', '!', 'c']⟩ e ∧ e.cursor = ⟨0, 3⟩ ∧
      let e₁ := e.after {} (h.keys .change ++ (Motion.word .word).keys)
      let e₂ := (e.withCursor ⟨0, 4⟩).after {} (h.keys .change ++ (Motion.word .word).keys)
      e₁.buffer = ⟨['a', ',', '!', 'c']⟩ ∧ RegistersHold (some 'r') word e₁ ∧
        e₂.buffer = e₁.buffer ∧ e₂.registers = e₁.registers ∧ e₂.cursor = e₁.cursor ∧
        e.after {} (h'.keys .change ++ (Motion.word .bigWord).keys) = e₁ := by
  intro h h' word
  let e : Editor :=
    ofResult (interpret {} ⟨['a', ',', 'b', '_', '1', '!', 'c']⟩ none [.char '3', .char 'l'])
  have hc : e.buffer.charAt? e.cursorOffset = some '_' := by decide +kernel
  obtain ⟨p, t, r, htext, hrun, hon, hall⟩ := text_object_takes_run (e := e) (by decide +kernel)
    (by decide +kernel) (by decide +kernel) (by decide +kernel) hc (by decide +kernel)
  have hrun' : IsWordRun ['a', ','] word ['!', 'c'] := by
    refine ⟨List.all_eq_true.1 (by decide), ?_, ?_⟩
    · rintro c ⟨⟩
      decide
    · rintro c ⟨⟩
      decide
  obtain ⟨rfl, rfl, rfl⟩ := hrun.unique hrun'
    (htext.symm.trans (by decide +kernel)) hon.start_le hon.lt_stop (by decide +kernel)
    (by decide +kernel)
  obtain ⟨⟨hregisters, hbuffer⟩, helsewhere, hmodifier⟩ := hall {} h .change .word rfl
  obtain ⟨hsame, hleft⟩ := helsewhere ⟨0, 4⟩
    ⟨by decide +kernel, by decide +kernel, by decide +kernel⟩
  obtain ⟨hbuffer', hcursor, -⟩ := hleft (by decide)
  obtain ⟨-, hafter⟩ := hmodifier .around .bigWord
  exact ⟨e, .first {} [.char '3', .char 'l'], by decide +kernel, hbuffer, hregisters, hbuffer',
    hsame, hcursor, hafter (by decide +kernel)⟩

end Editor

end ModalEditor
