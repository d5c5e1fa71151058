import Percussion.Config.Reading
import Percussion.Error
import Percussion.Storage.Access

/-!
# Configuration files

A configuration is read from a file that the user names, or from the one at home. The file at
home is a convenience: without it, or if it cannot be understood, there is no configuration and
no error.
-/

namespace Percussion.Config

open Storage

variable {m : Type → Type} [Monad m] [FileAccess m]

/-- Where the configuration is in the home folder. -/
def homePath : String := ".vpal/config.yaml"

/-- Reads the configuration in the file at a path. -/
def ofFile (path : String) : m (Except Error Config) := do
  match ← Storage.readText path with
  | .error fault => return .error (.reading fault.message)
  | .ok text => return (ofText text).mapError fun fault => .config fault.message

/-- Reads the configuration in the home folder `home`. -/
def ofHome? (home : String) : m (Option Config) := do
  return (← ofFile s!"{home}/{homePath}").toOption

end Percussion.Config
