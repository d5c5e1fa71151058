import Percussion.Midi.Encoding

/-!
# Configurations

What a user can set once for all pieces: a tempo, a number of repeats, and the names that are
written into files.
-/

namespace Percussion

/-- The settings of a user. -/
structure Config where
  /-- The tempo where none is asked for. -/
  tempo : UInt32 := 120
  /-- How often a score is played where it is not said. -/
  repeats : UInt32 := 1
  names : Names := {}
  deriving Repr, DecidableEq

namespace Config

/-- The settings by name, in the order in which they are written. -/
inductive Field where
  | tempo
  | repeats
  | sequenceName
  | trackName
  | instrumentName
  deriving Repr, DecidableEq

/-- All settings. -/
def Field.all : List Field := [.tempo, .repeats, .sequenceName, .trackName, .instrumentName]

/-- The key under which a setting is written. -/
def Field.key : Field → String
  | .tempo => "tempo"
  | .repeats => "repeat"
  | .sequenceName => "sequence_name"
  | .trackName => "track_name"
  | .instrumentName => "instrument_name"

/-- The setting with a key, if it is one. -/
def Field.ofKey? (key : List Char) : Option Field :=
  all.find? fun field => field.key.toList == key

end Config

end Percussion
