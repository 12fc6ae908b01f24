import ModalEditor.Pattern.Matching
import ModalEditor.Pattern.Parser
import ModalEditor.Text.Buffer
import ModalEditor.Text.Quoted

/-!
# Search

A query that is a pattern is compiled once and then searched for from any offset. A search that
finds nothing up to the edge of the text goes on from the other edge, and says so. The search
backward looks only at the text before the offset, so that a match never reaches past it.
-/

namespace ModalEditor

/-- A query that is no pattern, and why. -/
structure PatternError where
  /-- The query. -/
  source : Text
  /-- What is wrong with it. -/
  cause : Pattern.ParseError
  deriving DecidableEq

/-- The wording of the error. -/
def PatternError.message (e : PatternError) : String :=
  "invalid search pattern \x60" ++ String.ofList e.source ++ "\x60"

/-- A compiled query. -/
structure SearchPattern where
  /-- The query. -/
  source : Text
  /-- Whether it was compiled to ignore case. -/
  ignoreCase : Bool
  /-- The pattern. -/
  regex : Pattern.Regex
  /-- The pattern is what the query says. -/
  parse_eq : Pattern.Regex.parse ignoreCase source = .ok regex

namespace SearchPattern

/-- Compiles a query. -/
def compile (source : Text) (ignoreCase : Bool) : Except PatternError SearchPattern :=
  match h : Pattern.Regex.parse ignoreCase source with
  | .ok regex => .ok ⟨source, ignoreCase, regex, h⟩
  | .error cause => .error ⟨source, cause⟩

/-- Query and case setting determine the rest. -/
theorem eq_of_source {p q : SearchPattern} (hs : p.source = q.source)
    (hi : p.ignoreCase = q.ignoreCase) : p = q := by
  obtain ⟨s, i, r, hp⟩ := p
  obtain ⟨s', i', r', hq⟩ := q
  dsimp only at hs hi
  subst hs hi
  obtain rfl : r = r' := Except.ok.inj (hp.symm.trans hq)
  rfl

instance : DecidableEq SearchPattern := fun p q =>
  if h : p.source = q.source ∧ p.ignoreCase = q.ignoreCase then
    isTrue (eq_of_source h.1 h.2)
  else isFalse fun e => h (e ▸ ⟨rfl, rfl⟩)

/-- The pattern as diagnostics show it. -/
def debug (p : SearchPattern) : Text := "SearchPattern(".toList ++ quote p.source ++ [')']

end SearchPattern

/-- A match, and whether the search had to start over from the other edge. -/
structure SearchHit where
  /-- Where the match is. -/
  span : Span
  /-- Whether it was found after starting over. -/
  wrapped : Bool
  deriving DecidableEq

namespace Buffer

/-- The first match that starts at an offset or after it, or else the first of all. -/
def findNext (b : Buffer) (p : SearchPattern) (offset : Nat) : Option SearchHit :=
  match p.regex.find? b.text (min offset b.length) with
  | some span => some ⟨span, false⟩
  | none => (p.regex.find? b.text 0).map (⟨·, true⟩)

/-- The last match in the text before an offset, or else the last of all. -/
def findPrevious (b : Buffer) (p : SearchPattern) (offset : Nat) : Option SearchHit :=
  match p.regex.findLast? (b.text.take offset) with
  | some span => some ⟨span, false⟩
  | none => (p.regex.findLast? b.text).map (⟨·, true⟩)

end Buffer

end ModalEditor
