import Percussion.Error
import Percussion.Score.Layout

/-!
# Compiling

From written notation to a sequence, with beats of an eighth note, and to the bytes of its file.
-/

namespace Percussion

/-- The sequence that a text gives when it is played `repeats` times at `tempo`. -/
def compile (text : String) (tempo repeats : UInt32) : Except Error Sequence := do
  let score ← (Score.ofText text).mapError .score
  (score.render { tempo, repeats }).mapError .render

/-- The sequence that a text gives, and the bytes of the file for it. -/
def compileBytes (text : String) (tempo repeats : UInt32) (names : Names) :
    Except Error (Sequence × List UInt8) := do
  let sequence ← compile text tempo repeats
  let bytes ← (sequence.encode names).mapError .midi
  return (sequence, bytes)

end Percussion
