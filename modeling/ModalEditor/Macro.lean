import ModalEditor.Key.Notation
import ModalEditor.Register

/-!
# Macros

A macro is recorded as key notation in a register, so it can also be yanked and put as text. The key
that stops the recording has been recorded like any other and is taken out again.
-/

namespace ModalEditor

namespace RegisterFile

/-- Records a key. -/
def capture (r : RegisterFile) (name : Char) (key : Key) : RegisterFile :=
  r.append name key.write

/-- Ends a recording: drops the final `q`, if there is one. -/
def finish (r : RegisterFile) (name : Char) : RegisterFile :=
  if (r.read name).getLast? = some 'q' then r.write name (r.read name).dropLast else r

/-- The keys that a register holds. -/
def keysOf (r : RegisterFile) (name : Char) : List Key := Key.readAll (r.read name)

/-- Recording keys one after the other appends their notation. -/
theorem read_capture_foldl (r : RegisterFile) (name : Char) (keys : List Key) :
    (keys.foldl (fun r key => r.capture name key) r).read name =
      r.read name ++ Key.writeAll keys := by
  induction keys generalizing r with
  | nil => simp
  | cons key keys ih =>
    rw [List.foldl_cons, ih]
    simp [capture]

end RegisterFile

end ModalEditor
