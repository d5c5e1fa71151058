import Percussion.Score.Sound

/-!
# Hits

A token of notation is a rest or a hit: a sound, and how loud it is played. The spelling of the
token decides on the volume, and any capital letter accents the hit.
-/

namespace Percussion

/-- How loud a hit is played. -/
inductive Volume where
  | normal
  | accented
  deriving Repr, DecidableEq

/-- The key velocity of a volume. -/
def Volume.velocity : Volume → UInt8
  | .normal => 40
  | .accented => 80

/-- The name of a volume. -/
def Volume.name : Volume → String
  | .normal => "normal"
  | .accented => "accented"

/-- One sound played at one volume. -/
structure Hit where
  sound : Sound
  volume : Volume
  deriving Repr, DecidableEq

/-- Why a text is not a score. -/
inductive ScoreError where
  /-- A token that is neither a rest nor the name of a sound, as it was written. -/
  | unknownSound (token : String)
  /-- A line whose number of beats differs from that of the first line. Lines count from 1. -/
  | misaligned (expected actual line : Nat)
  deriving Repr, DecidableEq

/-- What the user is told. -/
def ScoreError.message : ScoreError → String
  | .unknownSound token => "\"" ++ token ++ "\" is not a valid percussive sound"
  | .misaligned expected actual line =>
    s!"the first line has {expected} beats, but line {line} has {actual}"

/-- The token of a position at which nothing is played. -/
def restToken : String := "."

/-- The sound that a token names, without regard to case; a rest names none. -/
def Sound.ofToken (token : String) : Except ScoreError (Option Sound) :=
  if token = restToken then
    .ok none
  else
    match Sound.lookup token with
    | some sound => .ok (some sound)
    | none => .error (.unknownSound token)

/-- The hit that a token stands for; a rest stands for none. -/
def Hit.ofToken (token : String) : Except ScoreError (Option Hit) :=
  if token = restToken then
    .ok none
  else
    let lower := String.ofList (Text.lowercase token.toList)
    match Sound.lookup lower with
    | some sound => .ok (some ⟨sound, if token = lower then .normal else .accented⟩)
    | none => .error (.unknownSound token)

end Percussion
