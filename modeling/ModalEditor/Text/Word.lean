import ModalEditor.Text.Position
import ModalEditor.Unicode.Property

/-!
# Words

Word motions jump between tokens. Under the `word` rule a token is a run of word characters or a
single character of punctuation; under the `bigWord` rule it is any run free of white space. White
space separates tokens and stands in none.
-/

namespace ModalEditor

/-- What counts as one word. -/
inductive WordKind where
  /-- Punctuation ends a word. -/
  | word
  /-- Only white space ends a word. -/
  | bigWord
  deriving DecidableEq

/-- Letters, numbers and the underscore. -/
def isWordChar (c : Char) : Bool :=
  Unicode.isAlphabetic c || Unicode.isNumeric c || c == '_'

/-- Whether a character of a token may stand beside others in it. -/
def WordKind.joins : WordKind → Char → Bool
  | .word, c => isWordChar c
  | .bigWord, c => !Unicode.isWhiteSpace c

/-- A token and the span it covers. -/
structure WordToken where
  /-- The characters. -/
  text : Text
  /-- The offset of the first. -/
  start : Nat
  /-- The offset after the last. -/
  stop : Nat
  deriving DecidableEq

/-- The offset of the last character. -/
def WordToken.last (t : WordToken) : Nat := t.stop - 1

/-- How many characters of `rest` belong to the token that `c` starts. -/
def runLength (kind : WordKind) (c : Char) (rest : Text) : Nat :=
  if kind.joins c then (rest.takeWhile fun d => !Unicode.isWhiteSpace d && kind.joins d).length
  else 0

/-- The tokens of a text whose first character has offset `start`. -/
def tokensFrom (kind : WordKind) (start : Nat) : Text → List WordToken
  | [] => []
  | c :: rest =>
    if Unicode.isWhiteSpace c then tokensFrom kind (start + 1) rest
    else
      let more := runLength kind c rest
      ⟨c :: rest.take more, start, start + more + 1⟩ ::
        tokensFrom kind (start + more + 1) (rest.drop more)
termination_by t => t.length
decreasing_by all_goals simp only [List.length_cons, List.length_drop]; omega

/-- The tokens of a text. -/
def tokenize (kind : WordKind) (t : Text) : List WordToken := tokensFrom kind 0 t

/-- The parts of a text between white space. -/
def splitWhiteSpace (t : Text) : List Text := (tokenize .bigWord t).map (·.text)

theorem isWordChar_newline : isWordChar '\n' = false := rfl

theorem runLength_le (kind : WordKind) (c : Char) (rest : Text) :
    runLength kind c rest ≤ rest.length := by
  unfold runLength
  split
  · exact (List.takeWhile_sublist _).length_le
  · exact Nat.zero_le _

/-- What a run holds is free of white space. -/
theorem not_whiteSpace_of_mem_run {kind : WordKind} {c d : Char} {rest : Text}
    (h : d ∈ rest.take (runLength kind c rest)) : Unicode.isWhiteSpace d = false := by
  unfold runLength at h
  split at h
  · rw [← List.prefix_iff_eq_take.1 (List.takeWhile_prefix _)] at h
    have := List.all_eq_true.1 List.all_takeWhile d h
    simp_all
  · simp at h

end ModalEditor
