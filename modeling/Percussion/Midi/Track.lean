import Percussion.Midi.Quantity

/-!
# Tracks

A track is a list of messages, each with its distance in ticks from the one before, and a file is
a list of tracks under a header. Within a track the status byte of a note is left out when the
message before it had the same one; a meta message has none, and the note after it is written in
full.
-/

namespace Percussion.Midi

/-- A message of a track. Texts are the bytes that are written. -/
inductive Message where
  /-- How many microseconds a quarter note lasts. -/
  | tempo (micros : Nat)
  | trackName (text : List UInt8)
  | instrumentName (text : List UInt8)
  | endOfTrack
  | noteOn (channel key velocity : UInt8)
  | noteOff (channel key velocity : UInt8)
  deriving Repr, DecidableEq

namespace Message

/-- The status byte of a note: its kind and its channel. -/
def status? : Message → Option UInt8
  | noteOn channel _ _ => some (0x90 + channel)
  | noteOff channel _ _ => some (0x80 + channel)
  | _ => none

/-- A meta message of the given type. -/
def metaBytes (type : UInt8) (payload : List UInt8) : List UInt8 :=
  [0xFF, type] ++ variableLength payload.length ++ payload

/-- A message without its status byte. -/
def body : Message → List UInt8
  | tempo micros => metaBytes 0x51 (fixedLength 3 micros)
  | trackName text => metaBytes 0x03 text
  | instrumentName text => metaBytes 0x04 text
  | endOfTrack => metaBytes 0x2F []
  | noteOn _ key velocity => [key, velocity]
  | noteOff _ key velocity => [key, velocity]

/-- A message after one with the status byte `running`. -/
def bytes (running : Option UInt8) (message : Message) : List UInt8 :=
  match message.status? with
  | none => message.body
  | some status =>
    if running = some status then message.body else status :: message.body

end Message

/-- A message and its distance in ticks from the one before. -/
structure TrackEvent where
  delta : Nat
  message : Message
  deriving Repr, DecidableEq

/-- The messages of a track in order. -/
abbrev Track := List TrackEvent

/-- A track without its chunk header. -/
def Track.bytes (track : Track) : List UInt8 :=
  let running := none :: track.map fun event => event.message.status?
  (List.zipWith (fun status event => variableLength event.delta ++ event.message.bytes status)
    running track).flatten

/-- A file: how its tracks belong together, the ticks of a quarter note, and the tracks. -/
structure File where
  format : Nat
  division : Nat
  tracks : List Track
  deriving Repr, DecidableEq

/-- A chunk: four letters, the length of the content, and the content. -/
def chunk (name : String) (content : List UInt8) : List UInt8 :=
  name.toUTF8.data.toList ++ fixedLength 4 content.length ++ content

/-- The bytes of a file. -/
def File.bytes (file : File) : List UInt8 :=
  let header :=
    fixedLength 2 file.format ++ fixedLength 2 file.tracks.length ++ fixedLength 2 file.division
  chunk "MThd" header ++ (file.tracks.map fun track => chunk "MTrk" track.bytes).flatten

end Percussion.Midi
