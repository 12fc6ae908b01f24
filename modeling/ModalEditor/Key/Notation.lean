import ModalEditor.Key

/-!
# Key notation

Keys are written as text: a character as itself, a named key as its name in angle brackets, and
the opening bracket as `<lt>`. Reading accepts further spellings of the names, in any case, and
takes a bracket that opens no known name for the character. `readAll_cons` says that every other
character is read as itself.
-/

namespace ModalEditor.Key

/-- The names that may stand in brackets. -/
def bracketNames : List (Text × Key) := [
  (['e', 's', 'c'], escape),
  (['e', 's', 'c', 'a', 'p', 'e'], escape),
  (['c', '-', 'c'], ctrlC),
  (['c', 't', 'r', 'l', '-', 'c'], ctrlC),
  (['b', 's'], backspace),
  (['b', 'a', 'c', 'k', 's', 'p', 'a', 'c', 'e'], backspace),
  (['c', 'r'], enter),
  (['e', 'n', 't', 'e', 'r'], enter),
  (['c', '-', 'r'], ctrlR),
  (['c', 't', 'r', 'l', '-', 'r'], ctrlR),
  (['c', '-', 'v'], ctrlV),
  (['c', 't', 'r', 'l', '-', 'v'], ctrlV),
  (['l', 't'], char '<')]

/-- How a key is written. -/
def write : Key → Text
  | char c => if c = '<' then ['<', 'l', 't', '>'] else [c]
  | escape => ['<', 'e', 's', 'c', '>']
  | ctrlC => ['<', 'c', '-', 'c', '>']
  | backspace => ['<', 'b', 's', '>']
  | enter => ['<', 'c', 'r', '>']
  | ctrlR => ['<', 'c', '-', 'r', '>']
  | ctrlV => ['<', 'c', '-', 'v', '>']

/-- How a list of keys is written. -/
def writeAll (keys : List Key) : Text := keys.flatMap write

/-- Reads a name and its closing bracket: the key, and how many characters were read. The name ends
at the first closing bracket; letters in it may have either case. -/
def readBracket? (t : Text) : Option (Key × Nat) :=
  let name := t.takeWhile (· != '>')
  if name.length < t.length then
    (bracketNames.lookup (name.map Char.toLower)).map fun key => (key, name.length + 1)
  else none

/-- Reads a text as keys. -/
def readAll : Text → List Key
  | [] => []
  | c :: rest =>
    if c = '<' then
      match readBracket? rest with
      | some (key, n) => key :: readAll (rest.drop n)
      | none => char c :: readAll rest
    else char c :: readAll rest
termination_by t => t.length
decreasing_by all_goals simp only [List.length_cons, List.length_drop]; omega

@[simp] theorem writeAll_nil : writeAll [] = [] := rfl

@[simp] theorem writeAll_cons (key : Key) (keys : List Key) :
    writeAll (key :: keys) = key.write ++ writeAll keys := rfl

@[simp] theorem writeAll_append (ks ls : List Key) :
    writeAll (ks ++ ls) = writeAll ks ++ writeAll ls := by
  simp [writeAll]

/-- A character other than the opening bracket is read as itself. -/
theorem readAll_cons {c : Char} (h : c ≠ '<') (t : Text) :
    readAll (c :: t) = char c :: readAll t := by
  rw [readAll]; simp [h]

end ModalEditor.Key
