import Percussion.Command.Run

/-!
# The program

Carries out what the command line asks for, on the files of the machine.
-/

namespace Percussion

open Storage

/-- The number of an error, which some calls give with a minus sign. -/
def errorNumber (code : UInt32) : UInt32 :=
  if code < 0x80000000 then code else 0 - code

/-- The number and the text that the system has for an error. -/
def systemError? : IO.Error → Option (UInt32 × String)
  | .alreadyExists _ code text | .inappropriateType _ code text | .invalidArgument _ code text
  | .noSuchThing _ code text | .permissionDenied _ code text | .resourceExhausted _ code text
  | .interrupted _ code text | .noFileOrDirectory _ code text
  | .hardwareFault code text | .illegalOperation code text | .otherError code text
  | .protocolError code text | .resourceBusy code text | .resourceVanished code text
  | .timeExpired code text | .unsatisfiedConstraints code text
  | .unsupportedOperation code text => some (errorNumber code, text)
  | .unexpectedEof | .userError _ => none

/-- The fault that an error of the system is. -/
def faultOfError (error : IO.Error) : Fault :=
  match systemError? error with
  | some (2, _) => .missing
  | some (20, _) => .notFolder
  | some (21, _) => .isFolder
  | some (code, text) => .other s!"{text} (os error {code})"
  | none => .other (toString error)

/-- The result of an action on the machine. -/
def attempt {α : Type} (action : IO α) : IO (Except Fault α) := do
  try
    return .ok (← action)
  catch error =>
    return .error (faultOfError error)

instance : FileAccess IO where
  read path := attempt do
    return (← IO.FS.readBinFile path).data.toList
  write path bytes := attempt do
    IO.FS.writeBinFile path ⟨bytes.toArray⟩

/-- What an invocation on this machine finds around it. -/
def surroundings : IO Surroundings := do
  let home? := (← IO.getEnv "HOME").filter (!·.isEmpty)
  let noise ← IO.getRandomBytes 8
  return ⟨home?, noise.data.foldl (fun seed byte => seed * 256 + byte.toUInt64) 0⟩

end Percussion

open Percussion in
/-- Runs the program. -/
def main (arguments : List String) : IO UInt32 := do
  let outcome ← runArguments (← surroundings) arguments
  IO.print outcome.stdout
  IO.eprint outcome.stderr
  return outcome.status
