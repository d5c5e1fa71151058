import Percussion.Midi.Encoding

/-!
# Errors

Every way in which the road from a file of notation to a MIDI file can fail.
-/

namespace Percussion

/-- A failure between reading a text and writing a file. -/
inductive Error where
  /-- The text is not a score. -/
  | score (error : ScoreError)
  /-- The score cannot be played. -/
  | render (error : RenderError)
  /-- The sequence cannot be written to a MIDI file. -/
  | midi (error : MidiError)
  /-- A file could not be read, for the given reason. -/
  | reading (cause : String)
  /-- A configuration was not understood, for the given reason. -/
  | config (cause : String)
  deriving Repr, DecidableEq

namespace Error

/-- The text of the error that lies beneath, where there is one. -/
def cause? : Error → Option String
  | score error => some error.message
  | render error => some error.message
  | midi error => some error.message
  | reading _ => none
  | config _ => none

/-- What the user is told. -/
def message : Error → String
  | score error => error.message
  | render error => error.message
  | midi error => error.message
  | reading cause => s!"I/O error: {cause}"
  | config cause => s!"YAML error: {cause}"

end Error

end Percussion
