import ModalEditor.Pattern.Footprint
import ModalEditor.Unicode.CaseFold

/-!
# The syntax of patterns

Reads the usual syntax of regular expressions: classes with set operations, named classes and
properties, counted and lazy repetitions, assertions, groups and flags. Flags hold to the end of the
group they stand in. What is not understood, such as a look-around or a back-reference, is an error
and never a literal. The limits on nesting and on size belong to the syntax.
-/

namespace ModalEditor.Pattern

open Unicode (CharSet)

/-- Why a text is no pattern. -/
inductive ParseError where
  /-- A group has no closing parenthesis. -/
  | unclosedGroup
  /-- A closing parenthesis has no group. -/
  | unopenedGroup
  /-- The name of a group is missing, unclosed, taken or ill-formed. -/
  | badGroupName
  /-- The flags of a group are unknown, doubled or unclosed. -/
  | badFlags
  /-- Look-around is not supported. -/
  | lookAround
  /-- Back-references are not supported. -/
  | backReference
  /-- There is nothing to repeat. -/
  | nothingToRepeat
  /-- The counts of a repetition are ill-formed or in the wrong order. -/
  | badRepetition
  /-- A class has no closing bracket. -/
  | unclosedClass
  /-- A range ends before it starts, or at something other than a character. -/
  | badRange
  /-- A pattern ends in the middle of an escape, or the escape is unknown. -/
  | badEscape
  /-- Digits do not name a character. -/
  | badCodePoint
  /-- A property is unknown. -/
  | badProperty
  /-- A named word boundary is unknown or unclosed. -/
  | badBoundary
  /-- Something reaches beyond ASCII where scripts are switched off. -/
  | notAscii
  /-- The pattern is nested too deeply. -/
  | tooDeep
  /-- The pattern is too large. -/
  | tooLarge
  deriving DecidableEq

/-- The flags that change how a pattern is read. -/
structure Flags where
  /-- Letters match their case variants. -/
  ignoreCase : Bool := false
  /-- `^` and `$` match at every line. -/
  multiLine : Bool := false
  /-- `.` matches a newline too. -/
  dotAll : Bool := false
  /-- Repetitions are lazy unless marked greedy. -/
  swapGreed : Bool := false
  /-- Classes and boundaries know all scripts. -/
  unicode : Bool := true
  /-- A carriage return ends a line too. -/
  crlf : Bool := false
  /-- White space and comments are skipped. -/
  verbose : Bool := false
  deriving DecidableEq

/-- A part of a pattern and how deeply it is nested. -/
structure Part (α : Type) where
  /-- What was read. -/
  value : α
  /-- The depth of its nesting. -/
  depth : Nat

/-! ### Characters -/

/-- The value of a hexadecimal digit. -/
def hexValue? (c : Char) : Option Nat :=
  if c.isDigit then some (c.toNat - '0'.toNat)
  else if 'a' ≤ c && c ≤ 'f' then some (c.toNat - 'a'.toNat + 10)
  else if 'A' ≤ c && c ≤ 'F' then some (c.toNat - 'A'.toNat + 10)
  else none

/-- The character that hexadecimal digits name. -/
def ofHex (digits : List Char) : Except ParseError Char :=
  match digits.mapM hexValue? with
  | none => .error .badCodePoint
  | some [] => .error .badCodePoint
  | some values =>
    let n := values.foldl (fun n d => 16 * n + d) 0
    if n.isValidChar then .ok (Char.ofNat n) else .error .badCodePoint

/-- Drops white space and comments; `inComment` says whether a comment is open. -/
def dropVerbose : Bool → Text → Text
  | _, [] => []
  | true, c :: t => dropVerbose (c != '\n') t
  | false, c :: t =>
    if Unicode.isWhiteSpace c then dropVerbose false t
    else if c = '#' then dropVerbose true t
    else c :: t

/-- Drops what may stand between two parts of a pattern. -/
def Flags.skip (f : Flags) (t : Text) : Text := if f.verbose then dropVerbose false t else t

/-- Reads up to a closing brace, without what verbose patterns skip. -/
def Flags.upToBrace (f : Flags) : Bool → Text → Option (Text × Text)
  | _, [] => none
  | true, c :: t => f.upToBrace (c != '\n') t
  | false, c :: t =>
    if c = '\x7d' then some ([], t)
    else if f.verbose && Unicode.isWhiteSpace c then f.upToBrace false t
    else if f.verbose && c == '#' then f.upToBrace true t
    else (f.upToBrace false t).map fun (name, rest) => (c :: name, rest)

/-- Reads `n` hexadecimal digits. -/
def Flags.hexDigits (f : Flags) : Nat → Text → Except ParseError (Text × Text)
  | 0, t => .ok ([], t)
  | _ + 1, [] => .error .badEscape
  | n + 1, c :: t => do
    let (digits, rest) ← f.hexDigits n (f.skip t)
    return (c :: digits, rest)

/-- Reads the digits of an escaped character after the letter, which says how many there are
without braces. -/
def Flags.hexEscape (f : Flags) (n : Nat) (t : Text) : Except ParseError (Char × Text) :=
  match f.skip t with
  | [] => .error .badEscape
  | '\x7b' :: rest =>
    match f.upToBrace false rest with
    | none => .error .badEscape
    | some (digits, rest) => do return (← ofHex digits, f.skip rest)
  | rest => do
    let (digits, rest) ← f.hexDigits n rest
    return (← ofHex digits, rest)

/-! ### Sets -/

/-- A set with its case variants, if case is ignored. -/
def Flags.fold (f : Flags) (s : CharSet) : CharSet :=
  if !f.ignoreCase then s else if f.unicode then s.foldCase else s.foldAscii

/-- A set with its case variants if case is ignored, then its complement if it is negated. Without
scripts there is no complement, since it would reach beyond ASCII. -/
def Flags.foldNegate (f : Flags) (negated : Bool) (s : CharSet) : Except ParseError CharSet :=
  if !negated then .ok (f.fold s)
  else if f.unicode then .ok (f.fold s).compl
  else .error .notAscii

/-- The class of a letter such as `d`, or its complement. -/
def Flags.letterClass (f : Flags) (negated : Bool) (all : CharSet) (k : AsciiClass) :
    Except ParseError CharSet :=
  if f.unicode then .ok (if negated then all.compl else all)
  else if negated then .error .notAscii
  else .ok k.set

/-- The set that a dot stands for. -/
def Flags.dot (f : Flags) : Except ParseError CharSet :=
  if !f.unicode then .error .notAscii
  else if f.dotAll then .ok .full
  else if f.crlf then .ok ((CharSet.single '\n').union (.single '\r')).compl
  else .ok (CharSet.single '\n').compl

/-! ### Escapes -/

/-- What an escape stands for. -/
inductive Escape where
  /-- A character; `raw` marks two hexadecimal digits, which are a byte where scripts are off. -/
  | char (c : Char) (raw : Bool)
  /-- A set. -/
  | set (s : CharSet)
  /-- An assertion. -/
  | look (l : Look)

/-- The rule for words that the flags ask for. -/
def Flags.wordRule (f : Flags) : WordRule := if f.unicode then .unicode else .ascii

/-- Whether a character may be escaped to stand for itself: ASCII other than letters, digits and
angle brackets. -/
def isEscapable (c : Char) : Bool :=
  Unicode.isAscii c && !c.isAlphanum && c != '<' && c != '>'

/-- Reads what may follow `\b`: a name in braces, or else nothing. -/
def Flags.boundary (f : Flags) (t : Text) : Except ParseError (Look × Text) :=
  let plain := Look.boundary f.wordRule
  match t with
  | '\x7b' :: rest =>
    let isNamePart (c : Char) : Bool := c.isAlpha || c == '-'
    match f.skip rest with
    | [] => .error .badBoundary
    | c :: _ =>
      if !isNamePart c then .ok (plain, t)
      else
        match f.upToBrace false rest with
        | none => .error .badBoundary
        | some (name, rest) =>
          match String.ofList name with
          | "start" => .ok (.wordStart f.wordRule, rest)
          | "end" => .ok (.wordEnd f.wordRule, rest)
          | "start-half" => .ok (.wordStartHalf f.wordRule, rest)
          | "end-half" => .ok (.wordEndHalf f.wordRule, rest)
          | _ => .error .badBoundary
  | _ => .ok (plain, t)

/-- Reads an escape after its backslash. -/
def Flags.readEscape (f : Flags) : Text → Except ParseError (Escape × Text)
  | [] => .error .badEscape
  | c :: t =>
    let ok (e : Escape) : Except ParseError (Escape × Text) := .ok (e, t)
    let letter (negated : Bool) (all : CharSet) (k : AsciiClass) :
        Except ParseError (Escape × Text) := do
      return (.set (← f.letterClass negated all k), t)
    let hex (n : Nat) (raw : Bool) : Except ParseError (Escape × Text) := do
      let braced := (f.skip t).head? == some '\x7b'
      let (c, rest) ← f.hexEscape n t
      return (.char c (raw && !braced), rest)
    let property (negated : Bool) : Except ParseError (Escape × Text) := do
      let (name, rest) ← match f.skip t with
        | [] => .error .badEscape
        | '\x7b' :: rest =>
          match f.upToBrace false rest with
          | none => .error .badEscape
          | some pair => .ok pair
        | '\\' :: _ => .error .badProperty
        | c :: rest => .ok ([c], f.skip rest)
      if !f.unicode then .error .notAscii
      else
        match propertySet? name with
        | none => .error .badProperty
        | some (s, complement) => return (.set (← f.foldNegate (negated != complement) s), rest)
    match c with
    | 'x' => hex 2 true
    | 'u' => hex 4 false
    | 'U' => hex 8 false
    | 'p' => property false
    | 'P' => property true
    | 'd' => letter false digitSet .digit
    | 'D' => letter true digitSet .digit
    | 's' => letter false spaceSet .space
    | 'S' => letter true spaceSet .space
    | 'w' => letter false wordSet .word
    | 'W' => letter true wordSet .word
    | 'a' => ok (.char '\x07' false)
    | 'f' => ok (.char '\x0c' false)
    | 't' => ok (.char '\t' false)
    | 'n' => ok (.char '\n' false)
    | 'r' => ok (.char '\r' false)
    | 'v' => ok (.char '\x0b' false)
    | 'A' => ok (.look .textStart)
    | 'z' => ok (.look .textEnd)
    | 'B' => ok (.look (.notBoundary f.wordRule))
    | '<' => ok (.look (.wordStart f.wordRule))
    | '>' => ok (.look (.wordEnd f.wordRule))
    | 'b' => do
      let (l, rest) ← f.boundary t
      return (.look l, rest)
    | _ =>
      if c.isDigit then .error .backReference
      else if isEscapable c then ok (.char c false)
      else .error .badEscape

/-! ### Classes -/

/-- How two parts of a class combine. -/
inductive SetOp where
  /-- What is in both. -/
  | inter
  /-- What is in the first alone. -/
  | diff
  /-- What is in one alone. -/
  | symmDiff

/-- Two sets combined. -/
def SetOp.apply : SetOp → CharSet → CharSet → CharSet
  | inter => .inter
  | diff => .diff
  | symmDiff => .symmDiff

/-- The members of a class so far, last first, and the part before the last set operation. -/
structure ClassState where
  /-- Whether the class is negated. -/
  negated : Bool
  /-- What stands before the last operation, and the operation. -/
  left : Option (Part CharSet × SetOp)
  /-- The members since then. -/
  members : List (Part CharSet)

/-- The union of the members of a class. -/
def unionOf (members : List (Part CharSet)) : Part CharSet :=
  match members with
  | [] => ⟨.empty, 0⟩
  | [m] => m
  | _ => ⟨.unionAll (members.map (·.value)), (members.map (·.depth)).foldl Nat.max 0 + 1⟩

/-- The part of a class that has been read. Both sides of an operation take in their case variants
first. -/
def ClassState.close (f : Flags) (st : ClassState) : Part CharSet :=
  let right := unionOf st.members
  match st.left with
  | none => right
  | some (left, op) =>
    ⟨op.apply (f.fold left.value) (f.fold right.value), Nat.max left.depth right.depth + 1⟩

/-- Adds a member. -/
def ClassState.push (st : ClassState) (s : CharSet) (depth : Nat) : ClassState :=
  { st with members := ⟨s, depth⟩ :: st.members }

/-- Reads hyphens at the start of a class, which stand for themselves. -/
def Flags.leadingHyphens (f : Flags) (st : ClassState) : Nat → Text → ClassState × Text
  | 0, t => (st, t)
  | fuel + 1, t =>
    match t with
    | '-' :: rest => f.leadingHyphens (st.push (.single '-') 0) fuel (f.skip rest)
    | _ => (st, t)

/-- Reads the start of a class after its bracket: a negation, hyphens, and a closing bracket that
stands for itself. -/
def Flags.openClass (f : Flags) (t : Text) : ClassState × Text :=
  let t := f.skip t
  let (negated, t) := match t with
    | '^' :: rest => (true, f.skip rest)
    | _ => (false, t)
  let (st, t) := f.leadingHyphens ⟨negated, none, []⟩ t.length t
  match t with
  | ']' :: rest =>
    if st.members.isEmpty then (st.push (.single ']') 0, f.skip rest) else (st, t)
  | _ => (st, t)

/-- Reads a named class of ASCII characters such as `[:alpha:]` after its first bracket. -/
def Flags.namedClass? (f : Flags) : Text → Option (Except ParseError CharSet × Text)
  | ':' :: t =>
    let (negated, t) := match t with
      | '^' :: rest => (true, rest)
      | _ => (false, t)
    let name := t.takeWhile (· != ':')
    match t.dropWhile (· != ':') with
    | ':' :: ']' :: rest =>
      (AsciiClass.ofName? name).map fun k => (f.foldNegate negated k.set, rest)
    | _ => none
  | _ => none

/-- Reads a member of a class: a character or an escape. -/
def Flags.classMember (f : Flags) : Text → Except ParseError (Escape × Text)
  | [] => .error .unclosedClass
  | '\\' :: t => f.readEscape t
  | c :: t => .ok (.char c false, t)

/-- The character that an escape stands for. -/
def Flags.escapedChar (f : Flags) (e : Escape) : Except ParseError Char :=
  match e with
  | .char c _ => if f.unicode || Unicode.isAscii c then .ok c else .error .notAscii
  | _ => .error .badRange

/-- Reads a range, or a single member if no range follows. -/
def Flags.classRange (f : Flags) (t : Text) : Except ParseError (CharSet × Text) := do
  let (first, t) ← f.classMember t
  let t := f.skip t
  let single : Except ParseError (CharSet × Text) := match first with
    | .set s => .ok (s, t)
    | .look _ => .error .badEscape
    | .char _ _ => do return (.single (← f.escapedChar first), t)
  match t with
  | [] => .error .unclosedClass
  | '-' :: rest =>
    let after := (f.skip rest).head?
    if after == some ']' || after == some '-' then single
    else do
      let (last, rest) ← f.classMember (f.skip rest)
      let lo ← f.escapedChar first
      let hi ← f.escapedChar last
      if lo ≤ hi then return (.range lo.toNat hi.toNat, rest) else .error .badRange
  | _ => single

/-- Reads the rest of a class. -/
def Flags.readClass (f : Flags) : Nat → ClassState → Text →
    Except ParseError (Part CharSet × Text)
  | 0, _, _ => .error .unclosedClass
  | fuel + 1, st, t =>
    let operate (op : SetOp) (rest : Text) : Except ParseError (Part CharSet × Text) :=
      f.readClass fuel ⟨st.negated, some (st.close f, op), []⟩ rest
    match f.skip t with
    | [] => .error .unclosedClass
    | '[' :: rest =>
      match f.namedClass? rest with
      | some (s, rest) => do f.readClass fuel (st.push (← s) 0) rest
      | none => do
        let (inner, rest) := f.openClass rest
        let (s, rest) ← f.readClass fuel inner rest
        f.readClass fuel { st with members := s :: st.members } rest
    | ']' :: rest => do
      let s := st.close f
      return (⟨← f.foldNegate st.negated s.value, s.depth + 1⟩, rest)
    | '&' :: '&' :: rest => operate .inter rest
    | '-' :: '-' :: rest => operate .diff rest
    | '~' :: '~' :: rest => operate .symmDiff rest
    | t => do
      let (s, rest) ← f.classRange t
      f.readClass fuel (st.push s 0) rest

/-! ### Repetitions -/

/-- The largest number of rounds that can be written. -/
def maxRounds : Nat := 0xFFFFFFFF

/-- Reads digits, between which verbose patterns may have blanks. -/
def verboseDigits : Bool → Text → Text × Text
  | _, [] => ([], [])
  | true, c :: t => verboseDigits (c != '\n') t
  | false, c :: t =>
    if c.isDigit then
      let (digits, rest) := verboseDigits false t
      (c :: digits, rest)
    else if Unicode.isWhiteSpace c then verboseDigits false t
    else if c = '#' then verboseDigits true t
    else ([], c :: t)

/-- Reads the digits of a count, which white space may surround. -/
def Flags.countDigits (f : Flags) (t : Text) : Text × Text :=
  if f.verbose then verboseDigits false t
  else
    let t := t.dropWhile Unicode.isWhiteSpace
    (t.takeWhile Char.isDigit, (t.dropWhile Char.isDigit).dropWhile Unicode.isWhiteSpace)

/-- The number of rounds that digits write. -/
def readRounds (digits : Text) : Except ParseError Nat :=
  let n := digits.foldl (fun n c => 10 * n + (c.toNat - '0'.toNat)) 0
  if digits.isEmpty || maxRounds < n then .error .badRepetition else .ok n

/-- Reads the counts of a repetition after their brace. -/
def Flags.readCounts (f : Flags) (t : Text) : Except ParseError ((Nat × Option Nat) × Text) := do
  let (digits, t) := f.countDigits (f.skip t)
  let min ← readRounds digits
  match t with
  | '\x7d' :: rest => return ((min, some min), rest)
  | ',' :: rest =>
    match f.skip rest with
    | '\x7d' :: rest => return ((min, none), rest)
    | rest =>
      let (digits, rest) := f.countDigits rest
      let max ← readRounds digits
      match rest with
      | '\x7d' :: rest => if min ≤ max then return ((min, some max), rest) else .error .badRepetition
      | _ => .error .badRepetition
  | _ => .error .badRepetition

/-- Reads a mark that makes a repetition lazy, or greedy where lazy is the rule. -/
def Flags.readGreed (f : Flags) : Text → Bool × Text
  | '?' :: rest => (f.swapGreed, rest)
  | t => (!f.swapGreed, t)

/-! ### Groups and flags -/

/-- What may stand in a list of flags. -/
inductive FlagItem where
  /-- The flags that follow are switched off. -/
  | negation
  /-- A flag. -/
  | flag (c : Char)
  deriving DecidableEq

/-- The letters of the flags. -/
def flagLetters : List Char := ['i', 'm', 's', 'U', 'u', 'R', 'x']

/-- Reads a list of flags up to the colon or parenthesis that ends it. -/
def readFlagItems (items : List FlagItem) : Text → Except ParseError (List FlagItem × Text)
  | [] => .error .badFlags
  | c :: t =>
    if c = ':' || c = ')' then
      if items.head? = some .negation then .error .badFlags else .ok (items.reverse, c :: t)
    else
      let item := if c = '-' then FlagItem.negation else .flag c
      if c != '-' && !flagLetters.contains c then .error .badFlags
      else if items.contains item then .error .badFlags
      else readFlagItems (item :: items) t

/-- Switches one flag. -/
def Flags.switch (f : Flags) (value : Bool) : Char → Flags
  | 'i' => { f with ignoreCase := value }
  | 'm' => { f with multiLine := value }
  | 's' => { f with dotAll := value }
  | 'U' => { f with swapGreed := value }
  | 'u' => { f with unicode := value }
  | 'R' => { f with crlf := value }
  | 'x' => { f with verbose := value }
  | _ => f

/-- Switches the flags of a list: on before the negation, off after it. -/
def Flags.switchAll (f : Flags) (value : Bool) : List FlagItem → Flags
  | [] => f
  | .negation :: items => f.switchAll false items
  | .flag c :: items => (f.switch value c).switchAll value items

/-- Reads the name of a group after its angle bracket. -/
def readGroupName (t : Text) : Except ParseError (Text × Text) :=
  let name := t.takeWhile (· != '>')
  let isNamePart (c : Char) : Bool :=
    Unicode.isAlphabetic c || Unicode.isNumeric c || c == '_' || c == '.' || c == '[' || c == ']'
  match name, t.dropWhile (· != '>') with
  | c :: _, '>' :: rest =>
    if (c == '_' || Unicode.isAlphabetic c) && name.all isNamePart then .ok (name, rest)
    else .error .badGroupName
  | _, _ => .error .badGroupName

/-- What opens after a parenthesis. -/
inductive Opening where
  /-- A group with its own flags, and its name if it has one. Only groups that are counted have a
  place for a name. -/
  | group (flags : Flags) (name : Option (Option Text))
  /-- New flags for the rest of the group around them. -/
  | flags (flags : Flags)

/-- Reads what stands between a parenthesis and the content of its group. -/
def Flags.readOpening (f : Flags) (t : Text) : Except ParseError (Opening × Text) :=
  match f.skip t with
  | '?' :: '=' :: _ | '?' :: '!' :: _ | '?' :: '<' :: '=' :: _ | '?' :: '<' :: '!' :: _ =>
    .error .lookAround
  | '?' :: 'P' :: '<' :: rest | '?' :: '<' :: rest => do
    let (name, rest) ← readGroupName rest
    return (.group f (some (some name)), rest)
  | '?' :: rest => do
    let (items, rest) ← readFlagItems [] rest
    match rest with
    | ':' :: rest => return (.group (f.switchAll true items) none, rest)
    | rest =>
      if items.isEmpty then .error .nothingToRepeat
      else return (.flags (f.switchAll true items), rest.drop 1)
  | rest => .ok (.group f (some none), rest)

/-! ### Patterns -/

/-- The groups that have been opened: how many, and the names of those that have one. -/
structure Groups where
  /-- How many. -/
  count : Nat
  /-- The names. -/
  names : List Text

/-- What has been read of a group: its flags, the alternatives that are complete, last first, and
the items of the current one, last first. An item that holds no expression was a switch of flags. -/
structure GroupState where
  /-- The flags that hold. -/
  flags : Flags
  /-- The alternatives before the current one. -/
  branches : List (Part Regex)
  /-- The items of the current alternative. -/
  items : List (Option (Part Regex))

/-- The largest of some depths. -/
def deepest (parts : List (Part Regex)) : Nat := parts.foldl (fun n p => Nat.max n p.depth) 0

/-- The items of an alternative, in order. -/
def joinItems (items : List (Option (Part Regex))) : Part Regex :=
  let parts := items.reverse.filterMap id
  ⟨Regex.sequence (parts.map (·.value)), deepest parts + (if 2 ≤ items.length then 1 else 0)⟩

/-- The alternatives of a group, in order. -/
def GroupState.close (g : GroupState) : Part Regex :=
  let branches := (joinItems g.items :: g.branches).reverse
  ⟨Regex.choice (branches.map (·.value)), deepest branches + (if 2 ≤ branches.length then 1 else 0)⟩

/-- Adds an item. -/
def GroupState.push (g : GroupState) (r : Regex) (depth : Nat) : GroupState :=
  { g with items := some ⟨r, depth⟩ :: g.items }

/-- Repeats the last item. -/
def GroupState.repeatLast (g : GroupState) (min : Nat) (max : Option Nat) (greedy : Bool) :
    Except ParseError GroupState :=
  match g.items with
  | some p :: items =>
    .ok { g with items := some ⟨p.value.repeated min max greedy, p.depth + 1⟩ :: items }
  | _ => .error .nothingToRepeat

/-- The expression of a character. -/
def Flags.charRegex (f : Flags) (c : Char) (raw : Bool) : Except ParseError Regex :=
  if !f.unicode && raw && !Unicode.isAscii c then .error .notAscii
  else if f.unicode || Unicode.isAscii c then .ok (.set (f.fold (.single c)))
  else .ok (.set (.single c))

/-- The expression of an escape. -/
def Flags.escapeRegex (f : Flags) : Escape → Except ParseError Regex
  | .char c raw => f.charRegex c raw
  | .set s => .ok (.set s)
  | .look l => .ok (.look l)

/-- The assertion of `^`. -/
def Flags.caret (f : Flags) : Look :=
  if !f.multiLine then .textStart else if f.crlf then .lineStartCrlf else .lineStart

/-- The assertion of `$`. -/
def Flags.dollar (f : Flags) : Look :=
  if !f.multiLine then .textEnd else if f.crlf then .lineEndCrlf else .lineEnd

/-- Opens a group: one that is counted has a kind, and its name has to be new. -/
def Groups.open (groups : Groups) : Option (Option Text) → Except ParseError Groups
  | none => .ok groups
  | some none => .ok { groups with count := groups.count + 1 }
  | some (some name) =>
    if groups.names.contains name then .error .badGroupName
    else .ok ⟨groups.count + 1, name :: groups.names⟩

/-- Reads the content of a group, up to its closing parenthesis or the end of the pattern. `groups`
are the groups that were opened before. -/
def readGroup : Nat → GroupState → Groups → Text →
    Except ParseError (Part Regex × Groups × Text)
  | 0, _, _, _ => .error .tooDeep
  | fuel + 1, g, groups, t =>
    let f := g.flags
    match f.skip t with
    | [] => .ok (g.close, groups, [])
    | ')' :: rest => .ok (g.close, groups, ')' :: rest)
    | '|' :: rest =>
      readGroup fuel { g with branches := joinItems g.items :: g.branches, items := [] } groups rest
    | '(' :: rest => do
      match ← f.readOpening rest with
      | (.flags f', rest) =>
        readGroup fuel { g with flags := f', items := none :: g.items } groups rest
      | (.group f' kind, rest) =>
        let opened ← groups.open kind
        let (inner, opened, rest) ← readGroup fuel ⟨f', [], []⟩ opened rest
        match rest with
        | ')' :: rest =>
          let r := kind.elim inner.value fun _ => .group groups.count inner.value
          readGroup fuel (g.push r (inner.depth + 1)) opened rest
        | _ => .error .unclosedGroup
    | '[' :: rest => do
      let (st, rest) := f.openClass rest
      let (s, rest) ← f.readClass rest.length st rest
      readGroup fuel (g.push (.set s.value) s.depth) groups rest
    | '?' :: rest => do
      let (greedy, rest) := f.readGreed rest
      readGroup fuel (← g.repeatLast 0 (some 1) greedy) groups rest
    | '*' :: rest => do
      let (greedy, rest) := f.readGreed rest
      readGroup fuel (← g.repeatLast 0 none greedy) groups rest
    | '+' :: rest => do
      let (greedy, rest) := f.readGreed rest
      readGroup fuel (← g.repeatLast 1 none greedy) groups rest
    | '\x7b' :: rest => do
      let ((min, max), rest) ← f.readCounts rest
      let (greedy, rest) := f.readGreed (f.skip rest)
      readGroup fuel (← g.repeatLast min max greedy) groups rest
    | '\\' :: rest => do
      let (e, rest) ← f.readEscape rest
      readGroup fuel (g.push (← f.escapeRegex e) 0) groups rest
    | '.' :: rest => do readGroup fuel (g.push (.set (← f.dot)) 0) groups rest
    | '^' :: rest => readGroup fuel (g.push (.look f.caret) 0) groups rest
    | '$' :: rest => readGroup fuel (g.push (.look f.dollar) 0) groups rest
    | c :: rest => do readGroup fuel (g.push (← f.charRegex c false) 0) groups rest

/-- The deepest nesting of a pattern. -/
def maxDepth : Nat := 250

/-- Reads a pattern. -/
def Regex.parse (ignoreCase : Bool) (t : Text) : Except ParseError Regex := do
  let flags : Flags := { ignoreCase := ignoreCase }
  let (part, _, rest) ← readGroup (t.length + 1) ⟨flags, [], []⟩ ⟨0, []⟩ t
  if !rest.isEmpty then .error .unopenedGroup
  else if maxDepth < part.depth then .error .tooDeep
  else if !part.value.fits then .error .tooLarge
  else return part.value

end ModalEditor.Pattern
