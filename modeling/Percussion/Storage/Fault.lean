/-!
# Faults

Why a file cannot be read or written.
-/

namespace Percussion.Storage

/-- What stood in the way of reading or writing a file. -/
inductive Fault where
  /-- There is no file at the path, or a folder on the way to it is missing. -/
  | missing
  /-- The path goes through a file as if it were a folder. -/
  | notFolder
  /-- There is a folder at the path. -/
  | isFolder
  /-- The bytes of the file are not a text in UTF-8. -/
  | notText
  /-- Anything else, in the words of the system. -/
  | other (text : String)
  deriving Repr, DecidableEq

/-- What the user is told. -/
def Fault.message : Fault → String
  | .missing => "No such file or directory (os error 2)"
  | .notFolder => "Not a directory (os error 20)"
  | .isFolder => "Is a directory (os error 21)"
  | .notText => "stream did not contain valid UTF-8"
  | .other text => text

end Percussion.Storage
