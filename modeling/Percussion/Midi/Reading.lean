import Percussion.Midi.Track

/-!
# Reading MIDI files

Reads back what `File.bytes` writes: the header, the chunk of each track, and in each track the
messages with their distances, where a note without a status byte has the one of the note before.
All bytes have to be read, and a track has to end with its end message.
-/

namespace Percussion.Midi

/-- The first `count` bytes, if there are as many, and those after them. -/
def splitBytes? (count : Nat) (bytes : List UInt8) : Option (List UInt8 × List UInt8) :=
  if count ≤ bytes.length then some (bytes.take count, bytes.drop count) else none

namespace Message

/-- The meta message of a type with a payload. -/
def ofMeta? (type : UInt8) (payload : List UInt8) : Option Message :=
  if type = 0x51 then
    match readFixed? 3 0 payload with
    | some (micros, []) => some (tempo micros)
    | _ => none
  else if type = 0x03 then some (trackName payload)
  else if type = 0x04 then some (instrumentName payload)
  else if type = 0x2F ∧ payload = [] then some endOfTrack
  else none

/-- The note with a status byte and two data bytes. -/
def ofNote? (status key velocity : UInt8) : Option Message :=
  if 128 ≤ key ∨ 128 ≤ velocity then none
  else if status / 16 = 9 then some (noteOn (status % 16) key velocity)
  else if status / 16 = 8 then some (noteOff (status % 16) key velocity)
  else none

/-- Reads a message after one with the status byte `running`. -/
def read? (running : Option UInt8) : List UInt8 → Option (Message × List UInt8)
  | [] => none
  | first :: rest =>
    if first = 0xFF then
      match rest with
      | [] => none
      | type :: rest => do
        let (length, rest) ← readVariable? rest
        let (payload, rest) ← splitBytes? length rest
        return (← ofMeta? type payload, rest)
    else if first < 128 then
      match rest with
      | [] => none
      | velocity :: rest => do
        return (← ofNote? (← running) first velocity, rest)
    else
      match rest with
      | key :: velocity :: rest => do
        return (← ofNote? first key velocity, rest)
      | _ => none

end Message

namespace Track

/-- Reads at most `count` events, the last of which ends the track and the bytes. -/
def readEvents? : (count : Nat) → (running : Option UInt8) → List UInt8 → Option Track
  | 0, _, _ => none
  | count + 1, running, bytes => do
    let (delta, rest) ← readVariable? bytes
    let (message, rest) ← Message.read? running rest
    if message = .endOfTrack then
      if rest.isEmpty then some [⟨delta, message⟩] else none
    else
      let later ← readEvents? count message.status? rest
      return ⟨delta, message⟩ :: later

/-- The track without its chunk header that consists of the given bytes. Each event takes at
least one of them. -/
def ofBytes? (bytes : List UInt8) : Option Track :=
  readEvents? bytes.length none bytes

/-- The position of each message of a track that begins at `start`: the sum of the distances up
to it. -/
def positions (start : Nat) : Track → List Nat
  | [] => []
  | event :: later => (start + event.delta) :: positions (start + event.delta) later

end Track

/-- Reads a chunk with the given name. -/
def readChunk? (name : String) (bytes : List UInt8) : Option (List UInt8 × List UInt8) := do
  let (letters, rest) ← splitBytes? 4 bytes
  if letters = name.toUTF8.data.toList then
    let (length, rest) ← readFixed? 4 0 rest
    splitBytes? length rest
  else
    none

/-- Reads the chunks of `count` tracks. -/
def readTracks? : (count : Nat) → List UInt8 → Option (List Track × List UInt8)
  | 0, bytes => some ([], bytes)
  | count + 1, bytes => do
    let (content, rest) ← readChunk? "MTrk" bytes
    let track ← Track.ofBytes? content
    let (tracks, rest) ← readTracks? count rest
    return (track :: tracks, rest)

/-- The file that consists of the given bytes. -/
def File.ofBytes? (bytes : List UInt8) : Option File := do
  let (header, rest) ← readChunk? "MThd" bytes
  let (format, header) ← readFixed? 2 0 header
  let (count, header) ← readFixed? 2 0 header
  let (division, header) ← readFixed? 2 0 header
  let (tracks, rest) ← readTracks? count rest
  if header.isEmpty && rest.isEmpty then some { format, division, tracks } else none

end Percussion.Midi
