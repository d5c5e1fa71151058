import Percussion.Text.Lowercase

/-!
# Sounds

The percussive sounds that notation can name, each with its name and its key on the percussion
channel. Names are looked up without regard to case.
-/

namespace Percussion

/-- A percussive sound. The constructors stand in the order in which the sounds are listed,
roughly by family. -/
inductive Sound where
  -- bass drum
  | doom | boom
  -- snare
  | tik | rik
  -- clap and slap
  | pah | kah
  -- hi-hat
  | chik | pss | wsh
  -- cymbals
  | krsh | psh | dang | ash
  -- toms
  | dee | dih | dah | doh | doo | duh
  -- agogo
  | ding | dong
  -- bongo
  | bum | bom
  -- tambourine, maracas, cowbell, vibraslap
  | plik | shik | goh | dddd
  -- whistle
  | twih | twee
  -- guiro
  | gih | grrr
  -- claves
  | dink
  -- wood block
  | nik | nok
  -- cuica
  | uhh | err
  -- triangle
  | twik | tink
  deriving Repr, DecidableEq

namespace Sound

/-- All sounds, in the order in which they are listed. -/
def all : List Sound := [
  doom, boom, tik, rik, pah, kah, chik, pss, wsh, krsh, psh, dang, ash, dee, dih, dah, doh, doo,
  duh, ding, dong, bum, bom, plik, shik, goh, dddd, twih, twee, gih, grrr, dink, nik, nok, uhh,
  err, twik, tink]

/-- The name by which notation refers to a sound. -/
def name : Sound → String
  | doom => "doom" | boom => "boom" | tik => "tik" | rik => "rik" | pah => "pah" | kah => "kah"
  | chik => "chik" | pss => "pss" | wsh => "wsh" | krsh => "krsh" | psh => "psh"
  | dang => "dang" | ash => "ash" | dee => "dee" | dih => "dih" | dah => "dah" | doh => "doh"
  | doo => "doo" | duh => "duh" | ding => "ding" | dong => "dong" | bum => "bum" | bom => "bom"
  | plik => "plik" | shik => "shik" | goh => "goh" | dddd => "dddd" | twih => "twih"
  | twee => "twee" | gih => "gih" | grrr => "grrr" | dink => "dink" | nik => "nik"
  | nok => "nok" | uhh => "uhh" | err => "err" | twik => "twik" | tink => "tink"

/-- The General MIDI percussion key of a sound. -/
def key : Sound → UInt8
  | doom => 35 | boom => 36 | tik => 37 | rik => 38 | pah => 39 | kah => 40 | chik => 42
  | pss => 44 | wsh => 46 | krsh => 49 | psh => 51 | dang => 53 | ash => 52 | dee => 50
  | dih => 48 | dah => 47 | doh => 45 | doo => 43 | duh => 41 | ding => 67 | dong => 68
  | bum => 63 | bom => 64 | plik => 54 | shik => 70 | goh => 56 | dddd => 58 | twih => 71
  | twee => 72 | gih => 73 | grrr => 74 | dink => 75 | nik => 76 | nok => 77 | uhh => 78
  | err => 79 | twik => 80 | tink => 81

/-- The list of sounds leaves none out. -/
theorem mem_all (s : Sound) : s ∈ all := by cases s <;> decide

/-- Every key is a data byte, so it is written to a file as it is. -/
theorem key_lt (s : Sound) : s.key < 128 := by cases s <;> decide

/-- The sound with the given name, whatever the case of its letters. -/
def lookup (name : String) : Option Sound :=
  let lower := Text.lowercase name.toList
  all.find? fun s => s.name.toList == lower

end Sound

end Percussion
