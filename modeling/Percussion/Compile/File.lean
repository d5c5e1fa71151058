import Percussion.Compile.Basic
import Percussion.Storage.Access

/-!
# Compiling into files

A file is written only when everything before has succeeded, so a failure leaves all files as
they are.
-/

namespace Percussion

open Storage

variable {m : Type → Type} [Monad m] [FileAccess m]

/-- Compiles a text into the file at `output`. -/
def compileToFile (text : String) (tempo repeats : UInt32) (output : String) (names : Names) :
    m (Except Error Sequence) := do
  match compileBytes text tempo repeats names with
  | .error error => return .error error
  | .ok (sequence, bytes) =>
    match ← FileAccess.write output bytes with
    | .error fault => return .error (.midi (.writing fault.message))
    | .ok () => return .ok sequence

/-- Compiles the text in the file at `input` into the file at `output`, which may be the same. -/
def compileFile (input : String) (tempo repeats : UInt32) (output : String) (names : Names) :
    m (Except Error Sequence) := do
  match ← readText input with
  | .error fault => return .error (.reading fault.message)
  | .ok text => compileToFile text tempo repeats output names

end Percussion
