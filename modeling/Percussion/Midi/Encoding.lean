import Percussion.Midi.Track
import Percussion.Sequence.Basic

/-!
# Sequences as MIDI files

A sequence becomes a file of two simultaneous tracks: the first holds the tempo and the name of
the sequence, the second its notes on the percussion channel. What stands in the way is a gap between
two events that is too wide for a quantity of variable length.

Errors of size are left out. A file cannot tell the length of a name of 2 ^ 28 bytes or more, or of a
track of 2 ^ 32 bytes or more, and writing one fails; here such a sequence still gets bytes, but they
are no file.
-/

namespace Percussion

/-- The names that are written into a file. -/
structure Names where
  sequence : String := "Vocal Percussion Assembly"
  track : String := "Percussion"
  instrument : String := "Drum Kit"
  deriving Repr, DecidableEq

/-- Why a sequence is not in a MIDI file. -/
inductive MidiError where
  /-- Two events lie too many ticks apart. -/
  | tickOverflow (delta : Nat)
  /-- The file could not be written, for the given reason. -/
  | writing (cause : String)
  deriving Repr, DecidableEq

/-- What the user is told. -/
def MidiError.message : MidiError → String
  | .tickOverflow delta => s!"delta of {delta} ticks is too large for a MIDI file"
  | .writing cause => s!"failed to write MIDI file: {cause}"

namespace Midi

/-- The channel that General MIDI sets aside for percussion, counted from 0. -/
def percussionChannel : UInt8 := 9

/-- The most microseconds that a tempo message can give to a quarter note. -/
def maxMicrosPerQuarter : Nat := 0xFFFFFF

/-- The microseconds of a quarter note at `tempo` quarter notes per minute, as far as a tempo
message can hold them. -/
def microsPerQuarter (tempo : UInt32) : Nat :=
  if tempo = 0 then
    maxMicrosPerQuarter
  else
    min (60000000 / tempo.toNat) maxMicrosPerQuarter

/-- The distance of each event from the one before, and of the first from the start. -/
def deltas (events : List Event) : List Nat :=
  let ticks := events.map (·.tick)
  List.zipWith (fun previous tick => tick.since previous) (Tick.zero :: ticks) ticks

/-- The message for an event. -/
def Message.ofEvent (event : Event) : Message :=
  let key := event.hit.sound.key
  let velocity := event.hit.volume.velocity
  match event.kind with
  | .start => .noteOn percussionChannel key velocity
  | .stop => .noteOff percussionChannel key velocity

/-- The track event for an event at distance `delta`. -/
def TrackEvent.ofEvent (delta : Nat) (event : Event) : Except MidiError TrackEvent :=
  if maxQuantity < delta then
    .error (.tickOverflow delta)
  else
    .ok ⟨delta, .ofEvent event⟩

/-- The track events for the events of a sequence. The first gap that is too wide is the
error. -/
def notes (events : List Event) : Except MidiError Track :=
  ((deltas events).zip events).mapM fun (delta, event) => TrackEvent.ofEvent delta event

/-- The bytes of a text in UTF-8. -/
def textBytes (text : String) : List UInt8 := text.toUTF8.data.toList

/-- The track with the tempo and the name of the sequence. -/
def metadataTrack (tempo : UInt32) (names : Names) : Track := [
  ⟨0, .tempo (microsPerQuarter tempo)⟩,
  ⟨0, .trackName (textBytes names.sequence)⟩,
  ⟨0, .endOfTrack⟩]

/-- The track with the given notes. -/
def percussionTrack (notes : Track) (names : Names) : Track :=
  [⟨0, .trackName (textBytes names.track)⟩, ⟨0, .instrumentName (textBytes names.instrument)⟩] ++
    notes ++ [⟨0, .endOfTrack⟩]

end Midi

namespace Sequence

/-- The file for a sequence: format 1, tracks that are played together. -/
def toMidi (sequence : Sequence) (names : Names) : Except MidiError Midi.File := do
  let notes ← Midi.notes sequence.events
  return {
    format := 1
    division := Tick.perQuarter
    tracks := [Midi.metadataTrack sequence.tempo names, Midi.percussionTrack notes names] }

/-- The bytes of the file for a sequence. Names and tracks are taken to be small enough for a file to
tell their lengths. -/
def encode (sequence : Sequence) (names : Names) : Except MidiError (List UInt8) := do
  let file ← sequence.toMidi names
  return file.bytes

end Sequence

end Percussion
