import ModalEditor.Editor.Editing
import ModalEditor.Editor.Jump
import ModalEditor.Editor.Searching
import ModalEditor.Macro

/-!
# Keys

What a key does. An escape leaves every mode. Otherwise a command that waits for its second key gets
it; then the mode decides. Digits are counts, zero only inside a count. In visual mode keys extend
the selection or operate on it, in normal mode they are commands.

All keys but one are done at once: the key that names a macro asks for its keys to be played, and
`press` hands them out.
-/

namespace ModalEditor

/-- What a key leads to. -/
inductive Outcome where
  /-- The editor afterwards. -/
  | done (e : Editor)
  /-- The editor so far, and keys to be played a number of times before it is done. -/
  | play (e : Editor) (keys : List Key) (times : Nat)

namespace Editor

/-! ### Every mode -/

/-- Leaves every mode and forgets what was half typed. -/
def escape (e : Editor) : Editor :=
  let back := if e.mode = .insert ∧ e.insertAppend then 1 else 0
  { e.clearPending with
    cursor := ⟨e.cursor.row, e.cursor.col - back⟩
    mode := .normal
    continuation := none
    selected := none
    insertAppend := false
    visualAnchor := none
    searchQuery := {}
    commandQuery := {} }

/-- A key while a command line is typed. The line is kept for the host. -/
def commandLineKey (e : Editor) : Key → Editor
  | .char c => { e with commandQuery := e.commandQuery.insert c }
  | .backspace => { e with commandQuery := e.commandQuery.backspace }
  | .enter =>
    { e with lastCommand := some e.commandQuery.text, commandQuery := {}, mode := .normal }
  | _ => e

/-- A key while a query is typed. -/
def searchKey (e : Editor) (settings : Settings) : Key → Editor
  | .char c => { e with searchQuery := e.searchQuery.insert c }
  | .backspace => { e with searchQuery := e.searchQuery.backspace }
  | .enter => e.commitSearch settings
  | _ => e

/-- The digit that a key adds to the count: zero only to a count that has begun. -/
def countDigit? (e : Editor) : Key → Option Nat
  | .char c =>
    if c = '0' then (if e.repeatCount.isSome then some 0 else none)
    else if c.isDigit then some (c.toNat - '0'.toNat)
    else none
  | _ => none

/-- Adds a digit to the count. -/
def typeDigit (e : Editor) (digit : Nat) : Editor :=
  { e with repeatCount := some (pushDigit (e.repeatCount.getD 0) digit) }

/-- Makes a command wait for its second key. -/
def awaitKey (e : Editor) (k : Continuation) : Editor := { e with continuation := some k }

/-- Goes to a target, or gives up what was pending if there is none. -/
def reachOr (e : Editor) : Option Target → Editor
  | some target => e.reach target
  | none => e.clearPending

/-- Starts to type a query. -/
def startSearch (e : Editor) (d : Direction) : Editor :=
  { e with searchDirection := some d, modifier := none, mode := .search, searchQuery := {} }

/-- What a key does if it is a motion or starts one. -/
def motionKey? (e : Editor) : Char → Option Editor
  | 'h' => some (e.reach e.leftTarget)
  | 'l' => some (e.reach e.rightTarget)
  | '0' => some (e.reach e.rowStartTarget)
  | '^' => some (e.reach e.indentTarget)
  | '$' => some (e.reach e.rowEndTarget)
  | 'j' => some (e.reachOr e.downTarget?)
  | 'k' => some (e.reachOr e.upTarget?)
  | 'w' => some (e.reach (e.wordTarget .word))
  | 'W' => some (e.reach (e.wordTarget .bigWord))
  | 'b' => some (e.reach (e.backWordTarget .word))
  | 'B' => some (e.reach (e.backWordTarget .bigWord))
  | 'e' => some (e.reach (e.wordEndTarget .word))
  | 'E' => some (e.reach (e.wordEndTarget .bigWord))
  | 'G' => some (e.reach e.bottomTarget)
  | 'f' => some ({ e with modifier := none }.awaitKey (.findChar .forward))
  | 'F' => some ({ e with modifier := none }.awaitKey (.findChar .backward))
  | 't' => some ({ e with modifier := none }.awaitKey (.toChar .forward))
  | 'T' => some ({ e with modifier := none }.awaitKey (.toChar .backward))
  | ';' => some (e.repeatJump false)
  | ',' => some (e.repeatJump true)
  | 'g' => some (e.awaitKey .gotoPrefix)
  | '\'' => some (e.awaitKey .jumpToMark)
  | '/' => some (e.startSearch .forward)
  | '?' => some (e.startSearch .backward)
  | 'n' => some (e.repeatSearch false)
  | 'N' => some (e.repeatSearch true)
  | _ => none

/-! ### Visual mode -/

/-- Starts a selection, changes its shape, or ends one that has the shape already. -/
def toggleVisual (e : Editor) (kind : VisualKind) : Editor :=
  let e :=
    if e.mode = .visual kind then { e with mode := .normal, visualAnchor := none }
    else
      { e with
        mode := .visual kind
        visualAnchor := if e.mode.isVisual then e.visualAnchor else some e.cursor }
  e.clearPending

/-- Applies an operator to the selection, from its anchor to the cursor, whichever comes first. -/
def operateOnSelection (e : Editor) (kind : VisualKind) (op : Operator) : Editor :=
  let anchor := e.visualAnchor.getD e.cursor
  let cursor := e.cursor
  let e :=
    { e with
      mode := .normal
      visualAnchor := none
      repeatCount := none
      operator := some op }
  match kind with
  | .char =>
    let span := Span.ordered (e.buffer.offsetAt anchor) (e.buffer.offsetAt cursor)
    (e.moveTo span.start).applyRange span.start (min (span.stop + 1) e.buffer.length)
  | .line => e.applyRows (min anchor.row cursor.row) (max anchor.row cursor.row)
  | .block =>
    e.applyBlock (min anchor.row cursor.row) (max anchor.row cursor.row)
      (min anchor.col cursor.col) (max anchor.col cursor.col)

/-- A key in visual mode. -/
def visualKey (e : Editor) (kind : VisualKind) : Key → Editor
  | .ctrlV => e.toggleVisual .block
  | .char c =>
    match c with
    | 'v' => e.toggleVisual .char
    | 'V' => e.toggleVisual .line
    | 'd' | 'x' => e.operateOnSelection kind .delete
    | 'y' => e.operateOnSelection kind .yank
    | 'c' => e.operateOnSelection kind .change
    | '"' => e.awaitKey .setRegister
    | _ => (e.motionKey? c).getD e
  | _ => e

/-! ### Normal mode -/

/-- The key of an operator: doubled, it takes whole rows; otherwise it waits for a motion, and the
count typed so far is that before the operator. -/
def operatorKey (e : Editor) (op : Operator) : Editor :=
  if e.operator = some op then
    let row := e.cursor.row
    let count := e.count
    e.dropCounts.applyRows row (row + (count - 1))
  else
    { e with
      operator := some op
      modifier := none
      operatorCount := e.repeatCount
      repeatCount := none }

/-- Starts to record a macro, or ends the recording. -/
def toggleRecording (e : Editor) : Editor :=
  let e := { e with repeatCount := none }
  match e.recording with
  | some name => { e with recording := none, registers := e.registers.finish name }
  | none => e.awaitKey .startRecording

/-- A command other than a motion or an operator, with no operator pending. -/
def commandKey (e : Editor) : Char → Editor
  | 'i' => e.startInsert
  | 'a' =>
    let e := e.startInsert
    if e.buffer.rowLength e.cursor.row = 0 then e
    else { e with cursor := ⟨e.cursor.row, e.cursor.col + 1⟩ }
  | 'A' =>
    let e := e.startInsert
    e.reach e.rowEndTarget
  | 'I' =>
    let e := e.startInsert
    e.reach e.indentTarget
  | 'C' =>
    let e := { e with operator := some .change }
    e.reach e.rowEndTarget
  | 'D' =>
    let e := { e with operator := some .delete }
    e.reach e.rowEndTarget
  | 'o' => e.openRow true
  | 'O' => e.openRow false
  | 'x' => e.deleteUnder
  | 'X' => e.deleteBefore
  | 'p' => e.put true
  | 'P' => e.put false
  | 'r' => e.awaitKey .replaceChar
  | '"' => e.awaitKey .setRegister
  | 'q' => e.toggleRecording
  | '@' => e.awaitKey .startPlayback
  | 'u' => e.undo
  | 'v' => e.toggleVisual .char
  | 'V' => e.toggleVisual .line
  | ':' => { e with mode := .commandLine, commandQuery := {}, repeatCount := none }
  | _ => { e with repeatCount := none }

/-- A character in normal mode. A pending operator is given up when the key is neither a motion nor
an operator nor a modifier. -/
def normalChar (e : Editor) (c : Char) : Editor :=
  match e.motionKey? c with
  | some e' => e'
  | none =>
    match Operator.ofKey? c with
    | some op => e.operatorKey op
    | none =>
      if c = 'i' ∧ e.operator.isSome then { e with modifier := some .inside }
      else if c = 'a' ∧ e.operator.isSome then { e with modifier := some .around }
      else if c = 'm' then
        let k := if e.operator = some .delete then Continuation.deleteMark else .setMark
        (e.awaitKey k).clearPending
      else if e.operator.isSome then e.clearPending
      else e.commandKey c

/-- A key in normal mode. -/
def normalKey (e : Editor) : Key → Editor
  | .char c => e.normalChar c
  | .ctrlR => e.redo
  | .ctrlV => e.toggleVisual .block
  | _ => e

/-! ### Dispatch -/

/-- A key that no command waits for. -/
def modeKey (e : Editor) (settings : Settings) (key : Key) : Editor :=
  match e.mode with
  | .insert => e.insertKey key
  | .commandLine => e.commandLineKey key
  | .search => e.searchKey settings key
  | .normal =>
    match e.countDigit? key with
    | some digit => e.typeDigit digit
    | none => e.normalKey key
  | .visual kind =>
    match e.countDigit? key with
    | some digit => e.typeDigit digit
    | none => e.visualKey kind key

/-- Jumps to a mark, if it is set. -/
def jumpToMark (e : Editor) (name : Char) : Editor :=
  match e.marks.get? name with
  | some p => e.reach (.char (e.buffer.offsetAt p) false)
  | none => e

/-- Starts to record into a register. A capital letter adds to what is there. -/
def startRecording (e : Editor) (name : Char) : Editor :=
  { e with
    recording := some name
    registers := if name.isUpper then e.registers else e.registers.write name [] }

/-- Plays a register as often as the count says, if it holds any keys; `@` stands for the register
that was played last. -/
def startPlayback (e : Editor) (name : Char) : Outcome :=
  match if name = '@' then e.lastPlayed else some name with
  | none => .done e
  | some name =>
    let keys := e.registers.keysOf name
    let e' := { e.dropCounts with lastPlayed := some name }
    if keys.isEmpty then .done e' else .play e' keys e.count

/-- The second key of a command, if it is a character. -/
def continueWith (e : Editor) (k : Continuation) (c : Char) : Outcome :=
  match k with
  | .setRegister => .done { e with selected := some c }
  | .setMark => .done { e with marks := e.marks.insert c e.cursor }
  | .deleteMark => .done { e with marks := e.marks.erase c }
  | .findChar d => .done (e.startJump ⟨c, .find, d⟩)
  | .toChar d => .done (e.startJump ⟨c, .till, d⟩)
  | .replaceChar => .done (e.replaceChars c)
  | .jumpToMark => .done (e.jumpToMark c)
  | .startRecording => .done (e.startRecording c)
  | .startPlayback => e.startPlayback c
  | .gotoPrefix => .done (e.reach e.topTarget)

/-- What a key does. A key that is no character cancels a command that waits for its second; after
the first key of `gg` anything else is a command of its own. -/
def press (e : Editor) (settings : Settings) (key : Key) : Outcome :=
  if key.isEscape then .done e.escape
  else
    match e.continuation with
    | none => .done (e.modeKey settings key)
    | some k =>
      let e := { e with continuation := none }
      if k = .gotoPrefix ∧ key ≠ .char 'g' then .done (e.modeKey settings key)
      else
        match key with
        | .char c => e.continueWith k c
        | _ => .done e

/-- Records a key that was typed, if a macro is being recorded. -/
def capture (e : Editor) (key : Key) : Editor :=
  match e.recording with
  | some name => { e with registers := e.registers.capture name key }
  | none => e

end Editor

end ModalEditor
