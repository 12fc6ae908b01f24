import ModalEditor.Key.Notation

/-!
# Reading what is written

Keys are read back as they were written (`readAll_writeAll`), whatever text follows
(`readAll_writeAll_append`): the name of a key ends at the first closing bracket, and no name holds
one.
-/

namespace ModalEditor.Key

theorem readBracket?_of_lookup {name : Text} {key : Key} (hname : '>' ∉ name)
    (hkey : bracketNames.lookup (name.map Char.toLower) = some key) (t : Text) :
    readBracket? (name ++ '>' :: t) = some (key, name.length + 1) := by
  have hnone : ∀ c ∈ name, (c != '>') = true := by
    intro c hc
    rw [bne_iff_ne]
    rintro rfl
    exact hname hc
  have htake : (name ++ '>' :: t).takeWhile (· != '>') = name := by
    rw [List.takeWhile_append_of_pos hnone]
    simp
  unfold readBracket?
  simp only [htake]
  simp [hkey]

theorem readAll_bracket (name : Text) {key : Key} (hname : '>' ∉ name)
    (hkey : bracketNames.lookup (name.map Char.toLower) = some key) (t : Text) :
    readAll ('<' :: (name ++ '>' :: t)) = key :: readAll t := by
  rw [readAll, if_pos rfl, readBracket?_of_lookup hname hkey t]
  simp

theorem readAll_write_append (key : Key) (t : Text) :
    readAll (key.write ++ t) = key :: readAll t := by
  cases key with
  | char c =>
    by_cases hc : c = '<'
    · subst hc
      exact readAll_bracket ['l', 't'] (by decide) rfl t
    · simp [write, hc, readAll_cons hc]
  | escape => exact readAll_bracket ['e', 's', 'c'] (by decide) rfl t
  | ctrlC => exact readAll_bracket ['c', '-', 'c'] (by decide) rfl t
  | backspace => exact readAll_bracket ['b', 's'] (by decide) rfl t
  | enter => exact readAll_bracket ['c', 'r'] (by decide) rfl t
  | ctrlR => exact readAll_bracket ['c', '-', 'r'] (by decide) rfl t
  | ctrlV => exact readAll_bracket ['c', '-', 'v'] (by decide) rfl t

/-- Keys are read as they were written, and then what follows them: where one ends does not depend
on those behind it. -/
theorem readAll_writeAll_append (keys : List Key) (t : Text) :
    readAll (writeAll keys ++ t) = keys ++ readAll t := by
  induction keys with
  | nil => rfl
  | cons key keys ih =>
    rw [writeAll_cons, List.append_assoc, readAll_write_append, ih, List.cons_append]

/-- **Reading gives back what was written**, characters that spell the name of a key among it. -/
theorem readAll_writeAll (keys : List Key) : readAll (writeAll keys) = keys := by
  have hread := readAll_writeAll_append keys []
  rwa [List.append_nil, readAll, List.append_nil] at hread

end ModalEditor.Key
