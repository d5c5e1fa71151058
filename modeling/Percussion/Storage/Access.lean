import Percussion.Storage.Store

/-!
# Access to files

Programs that read and write files are written once for everything that has files: a store that
is passed along, or the machine on which the program runs.
-/

namespace Percussion.Storage

/-- Computations that can read and write files. -/
class FileAccess (m : Type → Type) where
  /-- The bytes of the file at a path. -/
  read : String → m (Except Fault (List UInt8))
  /-- Writes the file at a path as a whole. -/
  write : String → List UInt8 → m (Except Fault Unit)

instance : FileAccess (StateM Store) where
  read path := do
    return (← get).read path
  write path bytes := do
    match (← get).write path bytes with
    | .error fault => return .error fault
    | .ok store =>
      set store
      return .ok ()

/-- The text that bytes stand for in UTF-8. -/
def decode (bytes : List UInt8) : Except Fault String :=
  match String.fromUTF8? ⟨bytes.toArray⟩ with
  | some text => .ok text
  | none => .error .notText

/-- The text in the file at a path. -/
def readText {m : Type → Type} [Monad m] [FileAccess m] (path : String) :
    m (Except Fault String) := do
  return (← FileAccess.read path).bind decode

end Percussion.Storage
