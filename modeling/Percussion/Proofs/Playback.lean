import Percussion.Midi.Encoding
import Percussion.Proofs.FileReading
import Percussion.Proofs.Order
import Percussion.Proofs.Traversal

/-!
# What a written sequence plays

The bytes of a rendered sequence are read back as the notes of its events. Two facts about what is
written make this work. Because the ticks of a rendered sequence never decrease, no distance is cut
off at zero and the distances add up to the ticks again (`positions_notesAfter`); and because every
sound has a key of seven bits, notes fit where they are written (`writable_ofEvent`).
-/

namespace Percussion

namespace Midi

/-! ## Distances -/

/-- The distance of each event from the one before, and of the first from `previous`. -/
def deltasAfter (previous : Tick) (events : List Event) : List ℕ :=
  let ticks := events.map (·.tick)
  List.zipWith (fun previous tick => tick.since previous) (previous :: ticks) ticks

/-- The track events for events after one at `previous`, however wide the gaps are. -/
def notesAfter (previous : Tick) (events : List Event) : Track :=
  List.zipWith (fun delta event => ⟨delta, .ofEvent event⟩) (deltasAfter previous events) events

@[simp] theorem notesAfter_cons (previous : Tick) (event : Event) (later : List Event) :
    notesAfter previous (event :: later) =
      ⟨event.tick.since previous, .ofEvent event⟩ :: notesAfter event.tick later := rfl

/-- Notes that can be written have no gap that is too wide. -/
theorem notes_eq_ok {events : List Event} {track : Track} (h : notes events = .ok track) :
    track = notesAfter Tick.zero events ∧ ∀ note ∈ track, note.delta ≤ maxQuantity := by
  rw [notes, mapM_eq_ok_iff] at h
  have each {entry : ℕ × Event} {note : TrackEvent}
      (written : TrackEvent.ofEvent entry.1 entry.2 = .ok note) :
      note = ⟨entry.1, .ofEvent entry.2⟩ ∧ note.delta ≤ maxQuantity := by
    unfold TrackEvent.ofEvent at written
    split at written
    · cases written
    · next narrow =>
      rw [← Except.ok.inj written]
      exact ⟨rfl, Nat.le_of_not_lt narrow⟩
  constructor
  · have same := h.imp fun _ _ written => (each written).1.symm
    rw [← List.forall₂_map_left_iff, List.forall₂_eq_eq_eq] at same
    rw [← same, notesAfter, List.zip, List.map_zipWith]
    rfl
  · intro note hnote
    obtain ⟨index, hindex, rfl⟩ := List.getElem_of_mem hnote
    have written := h.get (h.length_eq ▸ hindex) hindex
    exact (each written).2

/-- The messages of the notes are those of the events, in order. -/
theorem map_message_notesAfter (previous : Tick) (events : List Event) :
    (notesAfter previous events).map (·.message) = events.map .ofEvent := by
  induction events generalizing previous with
  | nil => rfl
  | cons event later ih => rw [notesAfter_cons, List.map_cons, ih, List.map_cons]

/-- The distances add up to the ticks, as long as these do not decrease. -/
theorem positions_notesAfter (previous : Tick) {events : List Event}
    (start : ∀ event ∈ events, previous.toNat ≤ event.tick.toNat)
    (ordered : events.Pairwise fun a b => a.tick.toNat ≤ b.tick.toNat) :
    Track.positions previous.toNat (notesAfter previous events) =
      events.map (·.tick.toNat) := by
  induction events generalizing previous with
  | nil => rfl
  | cons event later ih =>
    rw [List.forall_mem_cons] at start
    rw [List.pairwise_cons] at ordered
    -- the next position is the tick of this event, since the distance was not cut off
    have arrives : previous.toNat + event.tick.since previous = event.tick.toNat := by
      rw [Tick.since]
      omega
    rw [notesAfter_cons, Track.positions, arrives, ih event.tick ordered.1 ordered.2,
      List.map_cons]

/-! ## Notes -/

/-- The message for an event fits where it is written, and does not end a track. -/
theorem writable_ofEvent (event : Event) :
    (Message.ofEvent event).Writable ∧ Message.ofEvent event ≠ .endOfTrack := by
  have key := Sound.key_lt event.hit.sound
  have velocity : event.hit.volume.velocity < 128 := by cases event.hit.volume <;> decide
  have channel : percussionChannel < 16 := by decide
  unfold Message.ofEvent
  cases event.kind with
  | start => exact ⟨⟨channel, key, velocity⟩, nofun⟩
  | stop => exact ⟨⟨channel, key, velocity⟩, nofun⟩

theorem exists_event_of_mem_notesAfter {previous : Tick} {events : List Event} {note : TrackEvent}
    (h : note ∈ notesAfter previous events) : ∃ event, note.message = .ofEvent event := by
  have hmessage := List.mem_map_of_mem (f := (·.message)) h
  rw [map_message_notesAfter, List.mem_map] at hmessage
  obtain ⟨event, _, same⟩ := hmessage
  exact ⟨event, same.symm⟩

/-- The length of a quarter note fits into three bytes. -/
theorem microsPerQuarter_lt (tempo : UInt32) : microsPerQuarter tempo < 0x1000000 := by
  unfold microsPerQuarter maxMicrosPerQuarter
  split <;> omega

/-- The track with the tempo can be read back if the name of the sequence is short enough. -/
theorem writable_metadataTrack (tempo : UInt32) {names : Names}
    (short : (textBytes names.sequence).length ≤ maxQuantity) :
    (metadataTrack tempo names).Writable where
  deltas := by simp [metadataTrack]
  messages := by simp [metadataTrack, Message.Writable, microsPerQuarter_lt, short]
  ends := ⟨[⟨0, .tempo (microsPerQuarter tempo)⟩, ⟨0, .trackName (textBytes names.sequence)⟩], 0,
    rfl, by simp⟩

/-- The track with the notes can be read back if its gaps are narrow and its names short enough. -/
theorem writable_percussionTrack {previous : Tick} {events : List Event} {names : Names}
    (narrow : ∀ note ∈ notesAfter previous events, note.delta ≤ maxQuantity)
    (track : (textBytes names.track).length ≤ maxQuantity)
    (instrument : (textBytes names.instrument).length ≤ maxQuantity) :
    (percussionTrack (notesAfter previous events) names).Writable where
  deltas := by simpa [percussionTrack, or_imp, forall_and] using narrow
  messages := by
    intro note hnote
    simp only [percussionTrack, List.mem_append, List.mem_cons, List.not_mem_nil, or_false] at hnote
    rcases hnote with ((rfl | rfl) | hnote) | rfl
    · exact track
    · exact instrument
    · obtain ⟨event, same⟩ := exists_event_of_mem_notesAfter hnote
      rw [same]
      exact (writable_ofEvent event).1
    · trivial
  ends := by
    refine ⟨_, 0, rfl, ?_⟩
    intro note hnote
    simp only [List.mem_append, List.mem_cons, List.not_mem_nil, or_false] at hnote
    rcases hnote with (rfl | rfl) | hnote
    · nofun
    · nofun
    · obtain ⟨event, same⟩ := exists_event_of_mem_notesAfter hnote
      rw [same]
      exact (writable_ofEvent event).2

end Midi

/-! ## Files -/

/-- The lengths of the names and of the tracks fit where they are written. -/
structure Sequence.Fits (sequence : Sequence) (names : Names) : Prop where
  sequenceName : names.sequence.utf8ByteSize < 0x10000000
  trackName : names.track.utf8ByteSize < 0x10000000
  instrumentName : names.instrument.utf8ByteSize < 0x10000000
  tracks : ∀ file, sequence.toMidi names = .ok file →
    ∀ track ∈ file.tracks, track.bytes.length < 0x100000000

namespace Sequence

open Midi

/-- The file of a sequence, if there is one, has the notes of its events. -/
theorem toMidi_eq_ok {sequence : Sequence} {names : Names} {file : File}
    (h : sequence.toMidi names = .ok file) :
    file = ⟨1, 480, [metadataTrack sequence.tempo names,
        percussionTrack (notesAfter Tick.zero sequence.events) names]⟩ ∧
      ∀ note ∈ notesAfter Tick.zero sequence.events, note.delta ≤ maxQuantity := by
  unfold toMidi at h
  cases written : notes sequence.events with
  | error error =>
    rw [written] at h
    cases h
  | ok track =>
    obtain ⟨rfl, narrow⟩ := notes_eq_ok written
    rw [written] at h
    exact ⟨(Except.ok.inj h).symm, narrow⟩

/-- The bytes of a sequence are those of its file. -/
theorem encode_eq_ok {sequence : Sequence} {names : Names} {bytes : List UInt8}
    (h : sequence.encode names = .ok bytes) :
    ∃ file, sequence.toMidi names = .ok file ∧ file.bytes = bytes := by
  unfold encode at h
  cases written : sequence.toMidi names with
  | error error =>
    rw [written] at h
    cases h
  | ok file =>
    rw [written] at h
    exact ⟨file, rfl, Except.ok.inj h⟩

theorem length_textBytes_le {name : String} (h : name.utf8ByteSize < 0x10000000) :
    (textBytes name).length ≤ maxQuantity := by
  have length : (textBytes name).length = name.utf8ByteSize := rfl
  rw [length]
  unfold maxQuantity
  omega

/-- A file of a sequence can be written, and is read back. -/
theorem ofBytes?_bytes {sequence : Sequence} {names : Names} {file : File}
    (h : sequence.toMidi names = .ok file) (fits : sequence.Fits names) :
    File.ofBytes? file.bytes = some file := by
  obtain ⟨rfl, narrow⟩ := toMidi_eq_ok h
  apply File.ofBytes?_bytes
  constructor
  · show 1 < 0x10000
    decide
  · show 2 < 0x10000
    decide
  · show 480 < 0x10000
    decide
  · rw [List.forall_mem_cons, List.forall_mem_singleton]
    constructor
    · exact writable_metadataTrack sequence.tempo (length_textBytes_le fits.sequenceName)
    · exact writable_percussionTrack narrow (length_textBytes_le fits.trackName)
        (length_textBytes_le fits.instrumentName)
  · exact fits.tracks _ h

/-- **A file plays its sequence.** The bytes of a rendered sequence are read back, to the last one,
as a file with the tempo and the names it was given, whose notes are the events of the sequence:
in the same order, on the percussion channel, with the key and the velocity of the hit, and at the
tick of the event once their distances are added up. -/
theorem encode_read_back {score : Score} {playing : Playing} {sequence : Sequence} {names : Names}
    {bytes : List UInt8} (rendered : score.render playing = .ok sequence)
    (encoded : sequence.encode names = .ok bytes) (fits : sequence.Fits names) :
    ∃ notes : Track,
      File.ofBytes? bytes = some {
        format := 1
        division := 480
        tracks := [
          [⟨0, .tempo (microsPerQuarter playing.tempo)⟩,
            ⟨0, .trackName (textBytes names.sequence)⟩,
            ⟨0, .endOfTrack⟩],
          [⟨0, .trackName (textBytes names.track)⟩,
            ⟨0, .instrumentName (textBytes names.instrument)⟩] ++ notes ++ [⟨0, .endOfTrack⟩]] } ∧
      notes.map (·.message) = sequence.events.map (fun event =>
        let velocity := if event.hit.volume = .accented then 80 else 40
        match event.kind with
        | .start => .noteOn 9 event.hit.sound.key velocity
        | .stop => .noteOff 9 event.hit.sound.key velocity) ∧
      Track.positions 0 notes = sequence.events.map (·.tick.toNat) := by
  obtain ⟨tempo, ordered⟩ := Score.ordered_of_render rendered
  obtain ⟨file, written, rfl⟩ := encode_eq_ok encoded
  refine ⟨notesAfter Tick.zero sequence.events, ?_, ?_, ?_⟩
  · rw [ofBytes?_bytes written fits, (toMidi_eq_ok written).1, tempo]
    rfl
  · rw [map_message_notesAfter]
    apply List.map_congr_left
    intro event _
    obtain ⟨kind, ⟨sound, volume⟩, tick⟩ := event
    cases kind <;> cases volume <;> rfl
  · apply positions_notesAfter Tick.zero
    · intro event _
      exact Nat.zero_le _
    · exact ordered

/-- An accented hit beside a normal one, on a beat of three ticks. -/
private def twoHits : Sequence where
  tempo := 120
  resolution := ⟨3, by decide⟩
  length := .ofNat 3
  events := [
    ⟨.start, ⟨.boom, .accented⟩, .ofNat 0⟩, ⟨.start, ⟨.tik, .normal⟩, .ofNat 0⟩,
    ⟨.stop, ⟨.boom, .accented⟩, .ofNat 1⟩, ⟨.stop, ⟨.tik, .normal⟩, .ofNat 2⟩]

theorem encode_read_back_two_hits :
    Score.render ⟨[⟨[⟨.boom, .accented⟩, ⟨.tik, .normal⟩]⟩]⟩ ⟨120, 1, ⟨3, by decide⟩⟩ =
      .ok twoHits ∧
    twoHits.Fits ⟨"Go", "", "Kit"⟩ ∧
    ∃ bytes notes, twoHits.encode ⟨"Go", "", "Kit"⟩ = .ok bytes ∧
      File.ofBytes? bytes = some {
        format := 1
        division := 480
        tracks := [
          [⟨0, .tempo 500000⟩, ⟨0, .trackName [71, 111]⟩, ⟨0, .endOfTrack⟩],
          [⟨0, .trackName []⟩, ⟨0, .instrumentName [75, 105, 116]⟩] ++ notes ++
            [⟨0, .endOfTrack⟩]] } ∧
      notes.map (·.message) =
        [.noteOn 9 36 80, .noteOn 9 37 40, .noteOff 9 36 80, .noteOff 9 37 40] ∧
      Track.positions 0 notes = [0, 0, 1, 2] := by
  have rendered : Score.render ⟨[⟨[⟨.boom, .accented⟩, ⟨.tik, .normal⟩]⟩]⟩
      ⟨120, 1, ⟨3, by decide⟩⟩ = .ok twoHits := rfl
  have written : twoHits.toMidi ⟨"Go", "", "Kit"⟩ = .ok ⟨1, 480, [_, _]⟩ := rfl
  have fits : twoHits.Fits ⟨"Go", "", "Kit"⟩ := by
    refine ⟨by decide, by decide, by decide, ?_⟩
    intro file h
    rw [written] at h
    obtain rfl := Except.ok.inj h
    decide +kernel
  obtain ⟨notes, read, messages, positions⟩ := encode_read_back rendered rfl fits
  exact ⟨rendered, fits, _, notes, rfl, read, messages, positions⟩

end Sequence

end Percussion
