import Mathlib.Data.Nat.Notation
import Percussion.Midi.Reading

/-!
# Reading back a MIDI file

`File.ofBytes?_bytes`: reading gives back every file whose parts fit where they are written, and
uses up all bytes. The proof goes up the layers of the format, and each layer is read back whatever
follows it: a message after any running status (`Message.read?_bytes`), the events of a track
(`Track.ofBytes?_bytes`), a chunk (`readChunk?_chunk`), a list of tracks (`readTracks?_bytes`).
-/

namespace Percussion.Midi

/-! ## Counted runs of bytes -/

theorem splitBytes?_append (bytes rest : List UInt8) :
    splitBytes? bytes.length (bytes ++ rest) = some (bytes, rest) := by
  have enough : bytes.length ≤ (bytes ++ rest).length := by
    rw [List.length_append]
    omega
  rw [splitBytes?, if_pos enough, List.take_left, List.drop_left]

@[simp] theorem length_fixedLength (width n : ℕ) : (fixedLength width n).length = width := by
  induction width generalizing n with
  | zero => rfl
  | succ width ih => rw [fixedLength, List.length_append, ih, List.length_singleton]

/-- The last group of a quantity is written also when it is 0. -/
theorem length_variableLength_pos (n : ℕ) : 0 < (variableLength n).length := by
  have last := markedGroups_append (n / 128) [] [UInt8.ofNat (n % 128)]
  rw [List.nil_append] at last
  rw [variableLength, ← last, List.length_append, List.length_singleton]
  omega

/-! ## Messages -/

namespace Message

/-- A message whose parts fit where they are written: a tempo in three bytes, a text whose length
is a quantity, a channel in half a byte, and data bytes without their high bit. -/
def Writable : Message → Prop
  | tempo micros => micros < 0x1000000
  | trackName text => text.length ≤ maxQuantity
  | instrumentName text => text.length ≤ maxQuantity
  | endOfTrack => True
  | noteOn channel key velocity => channel < 16 ∧ key < 128 ∧ velocity < 128
  | noteOff channel key velocity => channel < 16 ∧ key < 128 ∧ velocity < 128

/-- A meta event whose payload is not too long is read back from its type and its payload. -/
theorem read?_metaBytes {type : UInt8} {payload : List UInt8} {message : Message}
    (fits : payload.length ≤ maxQuantity) (known : ofMeta? type payload = some message)
    (running : Option UInt8) (rest : List UInt8) :
    read? running (metaBytes type payload ++ rest) = some (message, rest) := by
  have length := readVariable?_append fits (payload ++ rest)
  -- a meta message has its own status byte, so the running one does not matter
  simp only [metaBytes, List.append_assoc, List.cons_append, List.nil_append, read?,
    if_pos trivial, length, splitBytes?_append, known, Option.bind_eq_bind, Option.bind_some,
    Option.pure_def]

/-- A note is read back from its two data bytes alone if its status is the running one. -/
theorem read?_note {status key velocity : UInt8} {message : Message} (high : 128 ≤ status)
    (plain : status ≠ 0xFF) (data : key < 128)
    (known : ofNote? status key velocity = some message)
    (running : Option UInt8) (rest : List UInt8) :
    read? running ((if running = some status then [key, velocity] else [status, key, velocity]) ++
      rest) = some (message, rest) := by
  split
  · next same =>
    have hkey : key ≠ 0xFF := by
      rintro rfl
      exact absurd data (by decide)
    simp only [List.cons_append, List.nil_append, read?, if_neg hkey, if_pos data, same, known,
      Option.bind_eq_bind, Option.bind_some, Option.pure_def]
  · have hstatus : ¬ status < 128 := UInt8.not_lt.mpr high
    simp only [List.cons_append, List.nil_append, read?, if_neg plain, if_neg hstatus, known,
      Option.bind_eq_bind, Option.bind_some, Option.pure_def]

/-- The status byte of a note holds its kind and its channel apart. -/
theorem status_split (kind : UInt8) {channel : UInt8} (h : channel < 16) (hkind : kind < 15)
    (high : 8 ≤ kind) :
    (kind * 16 + channel) / 16 = kind ∧ (kind * 16 + channel) % 16 = channel ∧
      128 ≤ kind * 16 + channel ∧ kind * 16 + channel ≠ 0xFF := by
  rw [UInt8.lt_iff_toNat_lt] at h hkind
  rw [UInt8.le_iff_toNat_le] at high
  -- below 128 nothing wraps around, so it is a matter of whole numbers
  refine ⟨?_, ?_, ?_, ?_⟩
  all_goals
    simp only [← UInt8.toNat_inj, UInt8.le_iff_toNat_le, Ne, UInt8.toNat_add, UInt8.toNat_mul,
      UInt8.toNat_div, UInt8.toNat_mod, UInt8.reduceToNat] at *
    omega

/-- A message is read back after any running status, whatever follows it. -/
theorem read?_bytes {message : Message} (h : message.Writable) (running : Option UInt8)
    (rest : List UInt8) :
    read? running (message.bytes running ++ rest) = some (message, rest) := by
  -- meta events come with their length, notes with a status that can be the one running
  cases message with
  | tempo micros =>
    have back := @readFixed?_append 3 micros h []
    rw [List.append_nil] at back
    apply read?_metaBytes
    · rw [length_fixedLength]
      decide
    · simp only [ofMeta?, if_pos trivial, back]
  | trackName text =>
    apply read?_metaBytes h
    simp [ofMeta?]
  | instrumentName text =>
    apply read?_metaBytes h
    simp [ofMeta?]
  | endOfTrack =>
    apply read?_metaBytes (Nat.zero_le _)
    simp [ofMeta?]
  | noteOn channel key velocity =>
    obtain ⟨hchannel, hkey, hvelocity⟩ := h
    obtain ⟨hdiv, hmod, high, plain⟩ := status_split 9 hchannel (by decide) (by decide)
    have data : ¬ (128 ≤ key ∨ 128 ≤ velocity) := by simp [hkey, hvelocity]
    apply read?_note high plain hkey
    rw [ofNote?, if_neg data, if_pos hdiv, hmod]
  | noteOff channel key velocity =>
    obtain ⟨hchannel, hkey, hvelocity⟩ := h
    obtain ⟨hdiv, hmod, high, plain⟩ := status_split 8 hchannel (by decide) (by decide)
    have data : ¬ (128 ≤ key ∨ 128 ≤ velocity) := by simp [hkey, hvelocity]
    -- the upper half of the status tells a note that ends from one that begins
    have notOn : ¬ (8 * 16 + channel) / 16 = 9 := by
      rw [hdiv]
      decide
    apply read?_note high plain hkey
    rw [ofNote?, if_neg data, if_neg notOn, if_pos hdiv, hmod]

end Message

/-! ## Tracks -/

namespace Track

/-- The events of a track, the first of which follows a message with the status byte `running`. -/
def bytesAfter : (running : Option UInt8) → Track → List UInt8
  | _, [] => []
  | running, event :: later =>
    variableLength event.delta ++ event.message.bytes running ++
      bytesAfter event.message.status? later

theorem bytes_eq_bytesAfter (track : Track) : track.bytes = bytesAfter none track := by
  have after (running : Option UInt8) :
      (List.zipWith (fun status event => variableLength event.delta ++ event.message.bytes status)
        (running :: track.map fun event => event.message.status?) track).flatten =
      bytesAfter running track := by
    induction track generalizing running with
    | nil => rfl
    | cons event later ih =>
      rw [List.map_cons, List.zipWith_cons_cons, List.flatten_cons, ih, bytesAfter]
  exact after none

/-- Each event takes at least one byte. -/
theorem length_le_length_bytesAfter (running : Option UInt8) (track : Track) :
    track.length ≤ (bytesAfter running track).length := by
  induction track generalizing running with
  | nil => exact Nat.zero_le _
  | cons event later ih =>
    have first := length_variableLength_pos event.delta
    have rest := ih event.message.status?
    simp only [bytesAfter, List.length_append, List.length_cons]
    omega

/-- A track whose parts fit where they are written, and which ends with its only end message. -/
structure Writable (track : Track) : Prop where
  deltas : ∀ event ∈ track, event.delta ≤ maxQuantity
  messages : ∀ event ∈ track, event.message.Writable
  ends : ∃ before delta, track = before ++ [⟨delta, .endOfTrack⟩] ∧
    ∀ event ∈ before, event.message ≠ .endOfTrack

/-- Reading passes over an event that is not the end. -/
theorem readEvents?_cons {event : TrackEvent} (delta : event.delta ≤ maxQuantity)
    (message : event.message.Writable) (goesOn : event.message ≠ .endOfTrack) (count : ℕ)
    (running : Option UInt8) (later : Track) :
    readEvents? (count + 1) running (bytesAfter running (event :: later)) =
      (readEvents? count event.message.status? (bytesAfter event.message.status? later)).map
        (event :: ·) := by
  rw [readEvents?, bytesAfter, List.append_assoc, readVariable?_append delta]
  simp only [Option.bind_eq_bind, Option.bind_some, Message.read?_bytes message, if_neg goesOn]
  cases readEvents? count event.message.status? _ <;> rfl

/-- Reading stops at the end message. -/
theorem readEvents?_end {delta : ℕ} (h : delta ≤ maxQuantity) (count : ℕ)
    (running : Option UInt8) :
    readEvents? (count + 1) running (bytesAfter running [⟨delta, .endOfTrack⟩]) =
      some [⟨delta, .endOfTrack⟩] := by
  have message := @Message.read?_bytes .endOfTrack trivial running []
  rw [List.append_nil] at message
  rw [readEvents?, bytesAfter, bytesAfter, List.append_nil, readVariable?_append h]
  simp only [Option.bind_eq_bind, Option.bind_some, message, if_pos, List.isEmpty_nil]

/-- The events of a track are read back up to the one that ends it. -/
theorem readEvents?_bytesAfter {before : Track} {delta count : ℕ}
    (deltas : ∀ event ∈ before ++ [⟨delta, .endOfTrack⟩], event.delta ≤ maxQuantity)
    (messages : ∀ event ∈ before, event.message.Writable)
    (goesOn : ∀ event ∈ before, event.message ≠ .endOfTrack)
    (enough : before.length < count) (running : Option UInt8) :
    readEvents? count running (bytesAfter running (before ++ [⟨delta, .endOfTrack⟩])) =
      some (before ++ [⟨delta, .endOfTrack⟩]) := by
  obtain ⟨count, rfl⟩ := Nat.exists_eq_succ_of_ne_zero (Nat.ne_zero_of_lt enough)
  -- the running status is that of the event before, so the induction is for every one
  induction before generalizing count running with
  | nil =>
    rw [List.nil_append, List.forall_mem_singleton] at deltas
    exact readEvents?_end deltas count running
  | cons event before ih =>
    rw [List.forall_mem_cons] at messages goesOn
    rw [List.cons_append, List.forall_mem_cons] at deltas
    rw [List.length_cons, Nat.succ_lt_succ_iff] at enough
    obtain ⟨count, rfl⟩ := Nat.exists_eq_succ_of_ne_zero (Nat.ne_zero_of_lt enough)
    rw [List.cons_append, readEvents?_cons deltas.1 messages.1 goesOn.1,
      ih deltas.2 messages.2 goesOn.2 _ count enough]
    rfl

/-- A track is read back. -/
theorem ofBytes?_bytes {track : Track} (h : track.Writable) : ofBytes? track.bytes = some track := by
  obtain ⟨before, delta, rfl, goesOn⟩ := h.ends
  have enough := length_le_length_bytesAfter none (before ++ [⟨delta, .endOfTrack⟩])
  rw [List.length_append, List.length_singleton] at enough
  have messages : ∀ event ∈ before, event.message.Writable := by
    intro event hevent
    exact h.messages event (List.mem_append_left _ hevent)
  rw [ofBytes?, bytes_eq_bytesAfter]
  exact readEvents?_bytesAfter h.deltas messages goesOn enough none

end Track

/-! ## Chunks and files -/

/-- The content of a chunk is read back if four bytes can tell its length. -/
theorem readChunk?_chunk {name : String} (letters : name.toUTF8.data.toList.length = 4)
    (content : List UInt8) (fits : content.length < 0x100000000) (rest : List UInt8) :
    readChunk? name (chunk name content ++ rest) = some (content, rest) := by
  have split := splitBytes?_append name.toUTF8.data.toList
    (fixedLength 4 content.length ++ (content ++ rest))
  rw [letters] at split
  have length := @readFixed?_append 4 _ fits (content ++ rest)
  simp only [readChunk?, chunk, List.append_assoc, split, length, splitBytes?_append,
    Option.bind_eq_bind, Option.bind_some, if_pos]

/-- Tracks are read back one after the other, as many as there are. -/
theorem readTracks?_bytes {tracks : List Track} (writable : ∀ track ∈ tracks, track.Writable)
    (fits : ∀ track ∈ tracks, track.bytes.length < 0x100000000) (rest : List UInt8) :
    readTracks? tracks.length
      ((tracks.map fun track => chunk "MTrk" track.bytes).flatten ++ rest) = some (tracks, rest) := by
  induction tracks with
  | nil => rfl
  | cons track tracks ih =>
    rw [List.forall_mem_cons] at writable fits
    rw [List.map_cons, List.flatten_cons, List.append_assoc, List.length_cons, readTracks?,
      readChunk?_chunk (by decide) _ fits.1]
    simp only [Option.bind_eq_bind, Option.bind_some, Track.ofBytes?_bytes writable.1,
      ih writable.2 fits.2, Option.pure_def]

/-- A file whose header and tracks fit where they are written. -/
structure File.Writable (file : File) : Prop where
  format : file.format < 0x10000
  count : file.tracks.length < 0x10000
  division : file.division < 0x10000
  tracks : ∀ track ∈ file.tracks, track.Writable
  chunks : ∀ track ∈ file.tracks, track.bytes.length < 0x100000000

/-- Reading gives back what was written, and leaves no byte over. -/
theorem File.ofBytes?_bytes {file : File} (h : file.Writable) :
    ofBytes? file.bytes = some file := by
  have tracks := readTracks?_bytes h.tracks h.chunks []
  rw [List.append_nil] at tracks
  have format := @readFixed?_append 2 _ h.format
    (fixedLength 2 file.tracks.length ++ fixedLength 2 file.division)
  have count := @readFixed?_append 2 _ h.count (fixedLength 2 file.division)
  have division := @readFixed?_append 2 _ h.division []
  rw [List.append_nil] at division
  have header := @readChunk?_chunk "MThd" (by decide)
    (fixedLength 2 file.format ++ (fixedLength 2 file.tracks.length ++ fixedLength 2 file.division))
    (by simp) (file.tracks.map fun track => chunk "MTrk" track.bytes).flatten
  simp only [ofBytes?, File.bytes, List.append_assoc, header, format, count, division, tracks,
    Option.bind_eq_bind, Option.bind_some, List.isEmpty_nil, Bool.and_self, if_pos]

end Percussion.Midi
