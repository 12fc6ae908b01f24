import ModalEditor.Proofs.Recording

/-!
# Typed motions

Wherever commands are typed, the keys of a motion do what `Motion.run` says (`after_keys`), and that
is to settle the command at its target, the search included (`settles_finish`). An unset mark alone
is passed over in silence. While a macro is being recorded, the keys are in its register (`captured`)
before the motion is carried out (`after_recorded_keys`).
-/

namespace ModalEditor

namespace Motion

/-- What the keys of a motion before its last do. -/
def begin (e : Editor) : Motion → Editor
  | top => e.awaitKey .gotoPrefix
  | jump j => { e with modifier := none }.awaitKey j.continuation
  | mark _ => e.awaitKey .jumpToMark
  | search d q => { e.startSearch d with searchQuery := q.line }
  | _ => e

/-- What a motion does. -/
def run (m : Motion) (settings : Settings) (e : Editor) : Editor :=
  m.finish settings { m.begin e with continuation := none }

/-- Whether the keys of a motion before its last have been typed. The start of the row is a motion
only where no count has been begun, which its key would add to. -/
def Begun (e : Editor) : Motion → Prop
  | top => e.Commanding ∧ e.continuation = some .gotoPrefix
  | jump j => e.Commanding ∧ e.continuation = some j.continuation
  | mark _ => e.Commanding ∧ e.continuation = some .jumpToMark
  | search d q =>
    e.mode = .search ∧ e.continuation = none ∧ e.searchDirection.getD .forward = d ∧
      e.searchQuery = q.line
  | m =>
    e.Commanding ∧ (e.continuation = none ∨ e.continuation = some .gotoPrefix) ∧
      (m = rowStart → e.repeatCount = none)

end Motion

/-! ### Keys that are recorded -/

/-- The registers with some keys recorded into one of them, if there is one for that. -/
def RegisterFile.captureAll (r : RegisterFile) (name? : Option Char) (keys : List Key) :
    RegisterFile :=
  name?.elim r fun name => keys.foldl (fun r key => r.capture name key) r

namespace RegisterFile

theorem captureAll_nil (r : RegisterFile) (name? : Option Char) : r.captureAll name? [] = r := by
  cases name? <;> rfl

theorem captureAll_append (r : RegisterFile) (name? : Option Char) (keys keys' : List Key) :
    (r.captureAll name? keys).captureAll name? keys' = r.captureAll name? (keys ++ keys') := by
  cases name? with
  | none => rfl
  | some name => exact List.foldl_append.symm

end RegisterFile

namespace Editor

section Captured

variable (e : Editor)

/-- The editor with some keys recorded, if a macro is being recorded. -/
def captured (keys : List Key) : Editor :=
  { e with registers := e.registers.captureAll e.recording keys }

theorem captured_of_none {e : Editor} (hrec : e.recording = none) (keys : List Key) :
    e.captured keys = e := by
  have hregisters : e.registers.captureAll e.recording keys = e.registers := by
    rw [hrec]
    rfl
  exact congrArg (fun r => ({ e with registers := r } : Editor)) hregisters

theorem captured_nil : e.captured [] = e :=
  congrArg (fun r => ({ e with registers := r } : Editor)) (e.registers.captureAll_nil e.recording)

theorem captured_append (keys keys' : List Key) :
    (e.captured keys).captured keys' = e.captured (keys ++ keys') :=
  congrArg (fun r => ({ e with registers := r } : Editor))
    (e.registers.captureAll_append e.recording keys keys')

theorem capture_eq (key : Key) : e.capture key = e.captured [key] := by
  rcases Option.eq_none_or_eq_some e.recording with hrec | ⟨name, hrec⟩
  · rw [capture_of_none hrec, captured_of_none hrec]
  · simp [capture, captured, RegisterFile.captureAll, hrec]

theorem exists_capture (key : Key) :
    ∃ registers, e.capture key = { e with registers := registers } ∧
      (e.recording = none → registers = e.registers) := by
  refine ⟨_, e.capture_eq key, fun hrec => ?_⟩
  rw [hrec]
  rfl

end Captured

/-- A key that leaves the cursor in order may as well have been typed before the call; it is
recorded first. -/
theorem after_cons_of_captured {e e' : Editor} {settings : Settings} {key : Key}
    (h : (e.captured [key]).press settings key = .done e') (he' : e'.clampCursor = e')
    (keys : List Key) : e.after settings (key :: keys) = e'.after settings keys := by
  rw [← capture_eq] at h
  rw [after_cons_of_done h, after_singleton_of_done h, he']

/-! ### The last key -/

theorem modeKey_of_search {e : Editor} (hm : e.mode = .search) (settings : Settings) (key : Key) :
    e.modeKey settings key = e.searchKey settings key := by
  unfold modeKey
  rw [hm]

/-- Where a key is not the second of a command, the mode decides. -/
theorem press_of_modeKey {e : Editor} (settings : Settings) {key : Key}
    (hesc : key.isEscape = false)
    (hk : e.continuation = none ∨ e.continuation = some .gotoPrefix ∧ key ≠ .char 'g') :
    e.press settings key =
      .done (({ e with continuation := none } : Editor).modeKey settings key) := by
  rcases hk with hk | ⟨hk, hkey⟩
  · simp [press, hesc, hk, continued_of_none hk]
  · simp [press, hesc, hk, hkey]

/-- The second key of a command goes to it if it is a character, and cancels it otherwise. -/
theorem press_second {e : Editor} {k : Continuation} (settings : Settings) {key : Key}
    (hesc : key.isEscape = false) (hk : e.continuation = some k)
    (hg : k = .gotoPrefix → key = .char 'g') :
    (∃ c, key = .char c ∧
        e.press settings key = ({ e with continuation := none } : Editor).continueWith k c) ∨
      (∀ c, key ≠ .char c) ∧ e.press settings key = .done { e with continuation := none } := by
  have hsecond : ¬ (k = .gotoPrefix ∧ key ≠ .char 'g') := fun h => h.2 (hg h.1)
  unfold press
  simp only [hesc, hk, if_neg hsecond]
  cases key with
  | char c => exact .inl ⟨c, rfl, rfl⟩
  | _ => exact .inr ⟨by simp, rfl⟩

/-- Where commands are typed, a key that is no digit of a count goes to normal or to visual mode. -/
theorem modeKey_of_commanding {e : Editor} (hm : e.Commanding) (settings : Settings) {key : Key}
    (hd : e.countDigit? key = none) :
    e.mode = .normal ∧ e.modeKey settings key = e.normalKey key ∨
      ∃ kind, e.mode = .visual kind ∧ e.modeKey settings key = e.visualKey kind key := by
  unfold modeKey
  rcases hm with hm | hm
  · rw [hm]
    dsimp only
    rw [hd]
    exact .inl ⟨rfl, rfl⟩
  · cases hmode : e.mode with
    | visual kind =>
      dsimp only
      rw [hd]
      exact .inr ⟨kind, rfl, rfl⟩
    | _ => simp [hmode, Mode.isVisual] at hm

theorem modeKey_of_motionKey? {e e' : Editor} (hm : e.Commanding) (settings : Settings) {c : Char}
    (hd : e.countDigit? (.char c) = none) (h : e.motionKey? c = some e') :
    e.modeKey settings (.char c) = e' := by
  rcases modeKey_of_commanding hm settings hd with ⟨-, hkey⟩ | ⟨kind, -, hkey⟩
  · rw [hkey, normalKey_char]
    simp [normalChar, h]
  · rw [hkey]
    unfold visualKey
    dsimp only
    split
    case h_8 => simp [h]
    all_goals simp [motionKey?] at h

/-- The keys of motions are no digits, but for zero. -/
theorem countDigit?_of_motionKey? {e e' : Editor} {c : Char} (h : e.motionKey? c = some e')
    (hz : c = '0' → e.repeatCount = none) : e.countDigit? (.char c) = none := by
  by_cases hc : c = '0'
  · simp [countDigit?, hc, hz hc]
  · have hdigit : c.isDigit = false := by
      unfold motionKey? at h
      split at h
      case h_3 => exact absurd rfl hc
      case h_27 => simp at h
      all_goals rfl
    simp [countDigit?, hc, hdigit]

theorem continueWith_opensMotion {e : Editor} {k : Continuation} (hk : k.opensMotion = true)
    (settings : Settings) {c : Char} (hg : k = .gotoPrefix → c = 'g') :
    ∃ m : Motion, m.last = .char c ∧
      (∀ e₁ : Editor, e₁.Commanding → e₁.continuation = some k → m.Begun e₁) ∧
      e.continueWith k c = .done (m.finish settings e) := by
  cases k with
  | findChar d => exact ⟨.jump ⟨c, .find, d⟩, rfl, fun _ => And.intro, rfl⟩
  | toChar d => exact ⟨.jump ⟨c, .till, d⟩, rfl, fun _ => And.intro, rfl⟩
  | jumpToMark => exact ⟨.mark c, rfl, fun _ => And.intro, rfl⟩
  | gotoPrefix =>
    obtain rfl := hg rfl
    exact ⟨.top, rfl, fun _ => And.intro, rfl⟩
  | _ => simp [Continuation.opensMotion] at hk

/-- **The last key of a motion carries it out.** -/
theorem press_of_begun {m : Motion} {e : Editor} (h : m.Begun e) (settings : Settings) :
    e.press settings m.last = .done (m.finish settings { e with continuation := none }) := by
  have second {k : Continuation} {c : Char} (hk : e.continuation = some k)
      (hg : k ≠ .gotoPrefix ∨ c = 'g') :
      e.press settings (.char c) = ({ e with continuation := none } : Editor).continueWith k c := by
    rcases hg with hg | rfl
    · exact press_continueWith hk hg settings c
    · simp [press, Key.isEscape, hk]
  by_cases hopening : m.opening = []
  · obtain ⟨c, hlast, hg, hzero, hkey⟩ :=
      motionKey?_of_opening hopening settings { e with continuation := none }
    have hbegun : e.Commanding ∧ (e.continuation = none ∨ e.continuation = some .gotoPrefix) ∧
        (m = .rowStart → e.repeatCount = none) := by
      cases m with
      | top | jump | mark | search => simp [Motion.opening] at hopening
      | _ => exact h
    obtain ⟨hm, hk, hz⟩ := hbegun
    have hcount := countDigit?_of_motionKey? hkey fun hc => hz (hzero hc)
    rw [hlast, press_of_modeKey settings rfl (hk.imp_right fun hk => ⟨hk, by simpa using hg⟩),
      modeKey_of_motionKey? (e := { e with continuation := none }) hm settings hcount hkey]
  · cases m with
    | top => exact second h.2 (.inr rfl)
    | jump j =>
      obtain ⟨c, kind, d⟩ := j
      cases kind <;> exact second h.2 (.inl (by simp [Jump.continuation]))
    | mark name => exact second h.2 (.inl (by simp))
    | search d q =>
      obtain ⟨hm, hk, -, -⟩ := h
      rw [Motion.last, press_of_modeKey settings rfl (.inl hk),
        modeKey_of_search (e := { e with continuation := none }) hm]
      rfl
    | _ => exact absurd rfl hopening

/-! ### All keys -/

/-- Whether the cursor is in order depends on no more of the mode than how far right it lets the
cursor stand. -/
theorem clampCursor_of_agree {e e' : Editor} (he : e.clampCursor = e)
    (hbuffer : e'.buffer = e.buffer) (hcursor : e'.cursor = e.cursor)
    (hmode : e'.mode.cursorPastEnd = e.mode.cursorPastEnd) : e'.clampCursor = e' := by
  have hclamped : e'.clampCursor.cursor = e'.cursor := by
    rw [cursor_clampCursor_congr hcursor hbuffer hmode, he, hcursor]
  show ({ e' with cursor := e'.clampCursor.cursor } : Editor) = e'
  rw [hclamped]

section FirstKey

variable {e e' : Editor} {settings : Settings} {key : Key} (hrec : e.recording = none)
  (h : e.press settings key = .done e')

include hrec h

theorem after_singleton_of_press : e.after settings [key] = e'.clampCursor := by
  refine after_singleton_of_done ?_
  rw [capture_of_none hrec, h]

/-- A key that leaves the cursor in order may as well have been typed before the call. -/
theorem after_cons_of_press (he' : e'.clampCursor = e') (keys : List Key) :
    e.after settings (key :: keys) = e'.after settings keys := by
  have hpress : (e.capture key).press settings key = .done e' := by
    rw [capture_of_none hrec, h]
  rw [after_cons_of_done hpress, after_singleton_of_done hpress, he']

end FirstKey

theorem after_query_append {e : Editor} (he : e.clampCursor = e) (hm : e.mode = .search)
    (hk : e.continuation = none) (settings : Settings) {keys : List Key}
    (hkeys : ∀ key ∈ keys, key ≠ .enter ∧ key.isEscape = false) (rest : List Key) :
    e.after settings (keys ++ rest) =
      ({ e.captured keys with
        searchQuery := keys.foldl LineInput.edit e.searchQuery } : Editor).after settings rest := by
  induction keys generalizing e with
  | nil => exact congrArg (·.after settings rest) (captured_nil e).symm
  | cons key keys ih =>
    obtain ⟨⟨henter, hesc⟩, hrest⟩ := List.forall_mem_cons.1 hkeys
    let e₁ : Editor := { e.captured [key] with searchQuery := e.searchQuery.edit key }
    have hpress : (e.captured [key]).press settings key = .done e₁ := by
      rw [press_of_modeKey (e := e.captured [key]) settings hesc (.inl hk),
        continued_of_none (e := e.captured [key]) hk,
        modeKey_of_search (e := e.captured [key]) hm]
      cases key with
      | enter => exact absurd rfl henter
      | _ => rfl
    have hclamped : e₁.clampCursor = e₁ := clampCursor_of_agree he rfl rfl rfl
    have hkeys := captured_append e [key] keys
    rw [List.singleton_append] at hkeys
    rw [List.cons_append, after_cons_of_captured hpress hclamped, ih hclamped hm hk hrest, ← hkeys]
    rfl

theorem begun_begin {m : Motion} {e : Editor} (hm : e.Commanding) (hk : e.continuation = none)
    (hz : m = .rowStart → e.repeatCount = none) : m.Begun (m.begin e) := by
  cases m with
  | top => exact ⟨hm, rfl⟩
  | jump j => exact ⟨hm, rfl⟩
  | mark name => exact ⟨hm, rfl⟩
  | search d q => exact ⟨rfl, hk, rfl, rfl⟩
  | _ => exact ⟨hm, .inl hk, hz⟩

/-- The first key of a motion, where it leaves the cursor in order. -/
theorem after_motionKey_cons {e : Editor} (hm : e.Commanding) (hk : e.continuation = none)
    (settings : Settings) {c : Char} (hc : c ≠ '0') {f : Editor → Editor}
    (hkey : ∀ e₁ : Editor, e₁.motionKey? c = some (f e₁))
    (hclamped : (f (e.captured [.char c])).clampCursor = f (e.captured [.char c]))
    (keys : List Key) :
    e.after settings (.char c :: keys) = (f (e.captured [.char c])).after settings keys := by
  let e₁ : Editor := e.captured [.char c]
  have hpress : e₁.press settings (.char c) = .done (f e₁) := by
    have hcount := countDigit?_of_motionKey? (hkey e₁) fun h => absurd h hc
    rw [press_of_modeKey (e := e₁) settings rfl (.inl hk), continued_of_none (e := e₁) hk,
      modeKey_of_motionKey? (e := e₁) hm settings hcount (hkey e₁)]
  exact after_cons_of_captured hpress hclamped keys

/-- What a motion has begun differs in no more than what is half typed; its keys are recorded. -/
theorem after_opening_append (m : Motion) {e : Editor} (he : e.clampCursor = e) (hm : e.Commanding)
    (hk : e.continuation = none) (settings : Settings) (rest : List Key) :
    e.after settings (m.opening ++ rest) =
      (m.begin (e.captured m.opening)).after settings rest := by
  cases m with
  | top =>
    exact after_motionKey_cons (c := 'g') (f := (awaitKey · .gotoPrefix)) hm hk settings
      (by decide) (fun _ => rfl) (clampCursor_of_eq he rfl rfl rfl) rest
  | mark name =>
    exact after_motionKey_cons (c := '\'') (f := (awaitKey · .jumpToMark)) hm hk settings
      (by decide) (fun _ => rfl) (clampCursor_of_eq he rfl rfl rfl) rest
  | jump j =>
    have hkey : ∀ e₁ : Editor, e₁.motionKey? j.key =
        some ({ e₁ with modifier := none }.awaitKey j.continuation) := by
      obtain ⟨c, kind, d⟩ := j
      cases kind <;> cases d <;> exact fun _ => rfl
    have hzero : j.key ≠ '0' := by
      obtain ⟨c, kind, d⟩ := j
      cases kind <;> cases d <;> simp [Jump.key]
    exact after_motionKey_cons hm hk settings hzero hkey (clampCursor_of_eq he rfl rfl rfl) rest
  | search d q =>
    let e₁ : Editor := (e.captured [.char d.searchKey]).startSearch d
    have hkey : ∀ e₁ : Editor, e₁.motionKey? d.searchKey = some (e₁.startSearch d) := by
      cases d <;> exact fun _ => rfl
    have hzero : d.searchKey ≠ '0' := by
      cases d <;> simp [Direction.searchKey]
    have hpast : e.mode.cursorPastEnd = false := cursorPastEnd_of_ne_insert hm.ne_insert
    have hstart : e₁.clampCursor = e₁ := clampCursor_of_agree he rfl rfl hpast.symm
    have hkeys := captured_append e [.char d.searchKey] q.keys
    show e.after settings (.char d.searchKey :: (q.keys ++ rest)) = _
    rw [after_motionKey_cons hm hk settings hzero hkey hstart,
      after_query_append hstart rfl hk settings q.goes_on]
    show ({ ((e.captured [.char d.searchKey]).captured q.keys).startSearch d with
      searchQuery := q.line } : Editor).after settings rest = _
    rw [hkeys]
    rfl
  | _ => exact congrArg (·.after settings rest) (captured_nil e).symm

/-- With no macro being recorded the registers are those of before. -/
theorem after_opening (m : Motion) {e : Editor} (he : e.clampCursor = e) (hm : e.Commanding)
    (hk : e.continuation = none) (hrec : e.recording = none) (settings : Settings) :
    e.after settings m.opening = m.begin e := by
  have hopening := after_opening_append m he hm hk settings []
  rw [List.append_nil, captured_of_none hrec] at hopening
  exact hopening

theorem captured_begin (m : Motion) (e : Editor) (keys : List Key) :
    (m.begin e).captured keys = m.begin (e.captured keys) := by
  cases m <;> rfl

/-- **The keys of a motion do what it does**, wherever commands are typed; they are recorded first.
They may as well have been typed in a call of their own. -/
theorem after_recorded_keys_append (m : Motion) {e : Editor} (he : e.clampCursor = e)
    (hm : e.Commanding) (hk : e.continuation = none) (hz : m = .rowStart → e.repeatCount = none)
    (settings : Settings) (rest : List Key) :
    e.after settings (m.keys ++ rest) =
      (m.run settings (e.captured m.keys)).clampCursor.after settings rest := by
  have hcaptured : (m.begin (e.captured m.opening)).captured [m.last] =
      m.begin (e.captured m.keys) := by
    rw [captured_begin, captured_append, Motion.keys]
  have hpress : ((m.begin (e.captured m.opening)).capture m.last).press settings m.last =
      .done (m.run settings (e.captured m.keys)) := by
    rw [capture_eq, hcaptured]
    exact press_of_begun (begun_begin (e := e.captured m.keys) hm hk hz) settings
  rw [Motion.keys, List.append_assoc, List.singleton_append, after_opening_append m he hm hk,
    after_cons_of_done hpress, after_singleton_of_done hpress]
  rfl

theorem after_recorded_keys (m : Motion) {e : Editor} (he : e.clampCursor = e) (hm : e.Commanding)
    (hk : e.continuation = none) (hz : m = .rowStart → e.repeatCount = none) (settings : Settings) :
    e.after settings m.keys = (m.run settings (e.captured m.keys)).clampCursor := by
  have hkeys := after_recorded_keys_append m he hm hk hz settings []
  rwa [List.append_nil] at hkeys

theorem exists_after_keys (m : Motion) {e : Editor} (he : e.clampCursor = e) (hm : e.Commanding)
    (hk : e.continuation = none) (hz : m = .rowStart → e.repeatCount = none) (settings : Settings) :
    ∃ registers,
      e.after settings m.keys = (m.run settings { e with registers := registers }).clampCursor ∧
        (e.recording = none → registers = e.registers) :=
  ⟨_, after_recorded_keys m he hm hk hz settings,
    fun hrec => congrArg (fun e : Editor => e.registers) (captured_of_none hrec m.keys)⟩

theorem after_keys_append (m : Motion) {e : Editor} (he : e.clampCursor = e) (hm : e.Commanding)
    (hk : e.continuation = none) (hrec : e.recording = none)
    (hz : m = .rowStart → e.repeatCount = none) (settings : Settings) (rest : List Key) :
    e.after settings (m.keys ++ rest) = (m.run settings e).clampCursor.after settings rest := by
  rw [after_recorded_keys_append m he hm hk hz, captured_of_none hrec]

theorem after_keys (m : Motion) {e : Editor} (he : e.clampCursor = e) (hm : e.Commanding)
    (hk : e.continuation = none) (hrec : e.recording = none)
    (hz : m = .rowStart → e.repeatCount = none) (settings : Settings) :
    e.after settings m.keys = (m.run settings e).clampCursor := by
  rw [after_recorded_keys m he hm hk hz, captured_of_none hrec]

/-! ### What a motion settles -/

/-- Nothing waits for a key of the motion any more: there is no continuation, and the query has gone
to the search register. -/
def concluded (e : Editor) : Editor :=
  match e.mode with
  | .search =>
    { e with
      continuation := none
      mode := .normal
      searchQuery := {}
      registers := e.registers.note e.searchQuery.text }
  | _ => { e with continuation := none }

theorem concluded_of_ne_search {e : Editor} (hm : e.mode ≠ .search) :
    e.concluded = { e with continuation := none } := by
  unfold concluded
  split
  · rename_i h
    exact absurd h hm
  · rfl

theorem concluded_of_search {e : Editor} (hm : e.mode = .search) :
    e.concluded =
      { e with
        continuation := none
        mode := .normal
        searchQuery := {}
        registers := e.registers.note e.searchQuery.text } := by
  unfold concluded
  rw [hm]

theorem target?_continued (m : Motion) (settings : Settings) (e : Editor) :
    m.target? settings { e with continuation := none } = m.target? settings e := by
  cases m <;> rfl

/-- **The last key of a motion settles it**, unless it names a mark that is not set. -/
theorem settles_finish {m : Motion} {e : Editor} (h : m.Begun e) (settings : Settings) :
    Settles e.concluded (m.target? settings e)
        (m.finish settings { e with continuation := none }) ∨
      ∃ name, m = .mark name ∧ e.marks.get? name = none ∧
        m.finish settings { e with continuation := none } = { e with continuation := none } := by
  by_cases hsearch : ∃ d q, m = .search d q
  · obtain ⟨d, q, rfl⟩ := hsearch
    obtain ⟨hm, -, hd, hq⟩ := h
    have hcommit := settles_commitSearch { e with continuation := none } settings
    have htext : q.text = e.searchQuery.text := congrArg LineInput.text hq.symm
    have htarget : (Motion.search d q).target? settings e =
        e.searchTarget? (e.patternFor settings e.searchQuery.text) (e.searchDirection.getD .forward)
          !e.searchQuery.text.isEmpty := by
      rw [hd, ← htext]
      rfl
    rw [concluded_of_search hm, htarget]
    exact .inl hcommit
  · have hne : ∀ d q, m ≠ .search d q := fun d q hm => hsearch ⟨d, q, hm⟩
    have hcommanding : e.Commanding := by
      cases m with
      | search d q => exact absurd rfl (hne d q)
      | _ => exact h.1
    rw [concluded_of_ne_search hcommanding.ne_search, ← target?_continued]
    exact settles_finish_of_ne_search hne settings _

theorem target?_begin (m : Motion) (settings : Settings) (e : Editor) :
    m.target? settings (m.begin e) = m.target? settings e := by
  cases m <;> rfl

/-- **A motion settles the command** once all its keys are typed, unless it leads to a mark that is
not set. Then nothing happens. -/
theorem settles_run (m : Motion) (settings : Settings) {e : Editor} (hm : e.Commanding)
    (hk : e.continuation = none) (hz : m = .rowStart → e.repeatCount = none) :
    Settles (m.begin e).concluded (m.target? settings e) (m.run settings e) ∨
      ∃ name, m = .mark name ∧ e.marks.get? name = none ∧ m.run settings e = e := by
  rcases settles_finish (begun_begin hm hk hz) settings with hs | ⟨name, rfl, hmark, hsame⟩
  · rw [target?_begin] at hs
    exact .inl hs
  · exact .inr ⟨name, rfl, hmark, hsame.trans (continued_of_none hk)⟩

end Editor

end ModalEditor
