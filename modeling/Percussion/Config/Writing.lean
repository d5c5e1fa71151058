import Percussion.Config.Basic
import Percussion.Yaml.Writing

/-!
# Writing configurations

A configuration is written with all its settings, one under the other.
-/

namespace Percussion.Config

/-- The value of a setting, from the space after the colon to the end of the line. -/
def fieldValue (config : Config) : Field → List Char
  | .tempo => ' ' :: (Nat.toDigits 10 config.tempo.toNat) ++ ['\n']
  | .repeats => ' ' :: (Nat.toDigits 10 config.repeats.toNat) ++ ['\n']
  | .sequenceName => Yaml.writeValue config.names.sequence.toList
  | .trackName => Yaml.writeValue config.names.track.toList
  | .instrumentName => Yaml.writeValue config.names.instrument.toList

/-- A configuration as a text. -/
def text (config : Config) : String :=
  String.ofList (Field.all.flatMap fun field =>
    field.key.toList ++ ':' :: config.fieldValue field)

end Percussion.Config
