import ModalEditor.Playback

/-!
# The interpreter

One run of the interpreter takes a text, the state from the run before if there was one, and the
keys typed since, and answers the text and the state afterwards. Each run has a new allowance of
playback.
-/

namespace ModalEditor

/-- Runs keys on a buffer and a state. Without a state the run starts in the initial one. -/
def interpret (settings : Settings) (b : Buffer) (state? : Option State) (keys : List Key) :
    Buffer × State :=
  let e : Editor := { toState := state?.getD (State.initial b), buffer := b }
  let (e, _) := e.typeKeys settings (.ofSettings settings) keys
  (e.buffer, e.toState)

end ModalEditor
