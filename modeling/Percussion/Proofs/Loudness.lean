import Percussion.Proofs.Spelling
import Percussion.Proofs.Influence

/-!
# What loudness changes in a file

Volumes decide neither when an event takes place nor which note it is, so all that they add to a
file is one byte at the end of each note (`Midi.bytesAfter_notesAfter`). What is left when loudness
is taken away from a score therefore settles everything else: how its events are spaced, which
status bytes are left out, and whether there is a file at all. Texts that differ in the case of
letters give scores that differ only in loudness, and so do their files
(`compileBytes_up_to_case`).
-/

namespace Percussion

/-! ## Plain events -/

/-- The event with its hit at normal volume. -/
def Event.plain (event : Event) : Event := { event with hit := event.hit.plain }

/-- Without accents a beat has the same events, without accents. -/
theorem Beat.block_plain (ticks start : ℕ) (beat : Beat) :
    beat.plain.block ticks start = (beat.block ticks start).map Event.plain := by
  simp [block, plain, List.zipIdx_map, Event.plain, Function.comp_def]

namespace Score

@[simp] theorem size_plain (score : Score) : score.plain.size = score.size := List.length_map _

theorem beatAt_plain (score : Score) (n : ℕ) : score.plain.beatAt n = (score.beatAt n).plain := by
  rw [beatAt, beatAt, size_plain]
  exact List.getD_map score.beats ⟨[]⟩ Beat.plain

/-- Without accents a score has the same schedule, without accents. -/
theorem schedule_plain (score : Score) (ticks count : ℕ) :
    score.plain.schedule ticks count = (score.schedule ticks count).map Event.plain := by
  rw [schedule, schedule, List.map_flatMap]
  refine congrArg (List.range count).flatMap (funext fun n => ?_)
  rw [blockAt, blockAt, beatAt_plain, Beat.block_plain]

end Score

namespace Midi

/-- Accents do not bear on the gaps between events. -/
theorem wideGap?_map_plain (events : List Event) :
    wideGap? (events.map Event.plain) = wideGap? events := by
  rw [wideGap?, wideGap?, deltas, deltas, List.map_map]
  rfl

/-! ## Notes without their velocity -/

/-- The notes for events, each without its last byte, which is the velocity: what is left are the
distance from the event before, the status byte where it is written, and the key. The first event
follows one at `previous`, after the status byte `running`. -/
def noteHeads : (running : Option UInt8) → (previous : Tick) → List Event → List (List UInt8)
  | _, _, [] => []
  | running, previous, event :: later =>
    (variableLength (event.tick.since previous) ++
      ((Message.ofEvent event).bytes running).dropLast) ::
      noteHeads (Message.ofEvent event).status? event.tick later

/-- Notes with the given heads and the velocities of events. -/
def noteBytes (heads : List (List UInt8)) (events : List Event) : List UInt8 :=
  (List.zipWith (fun head event => head ++ [event.hit.volume.velocity]) heads events).flatten

theorem length_noteHeads (running : Option UInt8) (previous : Tick) (events : List Event) :
    (noteHeads running previous events).length = events.length := by
  induction events generalizing running previous with
  | nil => rfl
  | cons event later ih => rw [noteHeads, List.length_cons, List.length_cons, ih]

/-- The status of a message does not tell an accent. -/
theorem Message.status?_ofEvent_plain (event : Event) :
    (ofEvent event.plain).status? = (ofEvent event).status? := by
  obtain ⟨kind, hit, tick⟩ := event
  cases kind <;> rfl

/-- The velocity is the last byte of a note, and the only one that depends on the volume. -/
theorem Message.bytes_ofEvent (running : Option UInt8) (event : Event) :
    (ofEvent event).bytes running =
      ((ofEvent event.plain).bytes running).dropLast ++ [event.hit.volume.velocity] := by
  obtain ⟨kind, hit, tick⟩ := event
  cases kind <;> simp only [ofEvent, Event.plain, Hit.plain, bytes, status?, body] <;> split <;> rfl

theorem noteHeads_map_plain (running : Option UInt8) (previous : Tick) (events : List Event) :
    noteHeads running previous (events.map Event.plain) = noteHeads running previous events := by
  induction events generalizing running previous with
  | nil => rfl
  | cons event later ih =>
    rw [List.map_cons, noteHeads, noteHeads, ih, Message.status?_ofEvent_plain,
      Message.bytes_ofEvent running event, List.dropLast_concat]
    rfl

/-- A track is the heads of its notes, each followed by the velocity. -/
theorem bytesAfter_notesAfter (running : Option UInt8) (previous : Tick) (events : List Event) :
    Track.bytesAfter running (notesAfter previous events) =
      noteBytes (noteHeads running previous events) events := by
  induction events generalizing running previous with
  | nil => rfl
  | cons event later ih =>
    rw [notesAfter_cons, Track.bytesAfter, ih, noteHeads, noteBytes, noteBytes,
      List.zipWith_cons_cons, List.flatten_cons, Message.bytes_ofEvent, List.dropLast_concat]
    simp only [List.append_assoc]

/-- How long notes are does not depend on their velocities. -/
theorem length_noteBytes {heads : List (List UInt8)} {events events' : List Event}
    (length : heads.length = events.length) (length' : heads.length = events'.length) :
    (noteBytes heads events).length = (noteBytes heads events').length := by
  induction heads generalizing events events' with
  | nil =>
    rw [noteBytes, noteBytes, List.zipWith_nil_left, List.zipWith_nil_left]
  | cons head heads ih =>
    obtain ⟨event, later, rfl⟩ := List.exists_cons_of_length_eq_add_one length.symm
    obtain ⟨event', later', rfl⟩ := List.exists_cons_of_length_eq_add_one length'.symm
    have rest := ih (Nat.succ.inj length) (Nat.succ.inj length')
    rw [noteBytes, noteBytes] at rest
    rw [noteBytes, noteBytes, List.zipWith_cons_cons, List.zipWith_cons_cons, List.flatten_cons,
      List.flatten_cons, List.length_append, List.length_append, rest, List.length_append,
      List.length_append]
    rfl

/-- Of the notes of a file, what stands around them depends on their length alone. -/
theorem exists_fileBytes_around (tempo : UInt32) (names : Names) (length : ℕ) :
    ∃ start finish : List UInt8, ∀ notes : List UInt8, notes.length = length →
      fileBytes tempo names notes = start ++ notes ++ finish := by
  obtain ⟨front, hfront⟩ : ∃ front, front = metaEvent 0x03 (textBytes names.track) ++
    metaEvent 0x04 (textBytes names.instrument) := ⟨_, rfl⟩
  refine ⟨headerChunk ++ metadataChunk tempo names.sequence ++ ("MTrk".toUTF8.data.toList ++
    fixedLength 4 (front.length + length + (metaEvent 0x2F []).length) ++ front),
    metaEvent 0x2F [], fun notes hlength => ?_⟩
  rw [fileBytes, percussionChunk, ← hfront, chunk, List.length_append, List.length_append, hlength]
  simp only [List.append_assoc]

end Midi

/-- Without too wide a gap the file has the notes of the sequence. -/
theorem Sequence.encode_of_narrow {sequence : Sequence}
    (narrow : Midi.wideGap? sequence.events = none) (names : Names) :
    sequence.encode names = .ok (Midi.fileBytes sequence.tempo names
      (Midi.noteBytes (Midi.noteHeads none Tick.zero sequence.events) sequence.events)) := by
  rw [Sequence.encode_eq, narrow, ← Midi.bytesAfter_notesAfter]
  exact congrArg Except.ok (Midi.bytes_eq_fileBytes sequence.tempo names _)

/-! ## Texts that are compiled alike -/

/-- How what is made of two texts agrees that differ in the case of letters. -/
inductive CompiledAlike :
    Except Error (Sequence × List UInt8) → Except Error (Sequence × List UInt8) → Prop
  /-- There are no files, for the same reason. -/
  | failed (error : Error) : CompiledAlike (.error error) (.error error)
  /-- The files are equally long and have the same bytes before, after and within their notes, up
  to the velocity at the end of each. -/
  | written {sequence sequence' : Sequence} {bytes bytes' : List UInt8} (start finish : List UInt8)
    (heads : List (List UInt8)) :
    heads = Midi.noteHeads none Tick.zero sequence.events →
    heads = Midi.noteHeads none Tick.zero sequence'.events →
    bytes = start ++ Midi.noteBytes heads sequence.events ++ finish →
    bytes' = start ++ Midi.noteBytes heads sequence'.events ++ finish →
    bytes.length = bytes'.length →
    CompiledAlike (.ok (sequence, bytes)) (.ok (sequence', bytes'))

variable {text text' : String} {tempo repeats : UInt32} {names : Names}

/-- Sequences at one tempo whose events differ in loudness alone have files that do so, or none for
the same reason. -/
theorem compiledAlike_of_events {sequence sequence' : Sequence}
    (compiled : compile text tempo repeats = .ok sequence)
    (compiled' : compile text' tempo repeats = .ok sequence')
    (tempos : sequence.tempo = sequence'.tempo)
    (events : sequence.events.map Event.plain = sequence'.events.map Event.plain) :
    CompiledAlike (compileBytes text tempo repeats names)
      (compileBytes text' tempo repeats names) := by
  have gaps : Midi.wideGap? sequence.events = Midi.wideGap? sequence'.events := by
    rw [← Midi.wideGap?_map_plain, events, Midi.wideGap?_map_plain]
  have heads : Midi.noteHeads none Tick.zero sequence.events =
      Midi.noteHeads none Tick.zero sequence'.events := by
    rw [← Midi.noteHeads_map_plain, events, Midi.noteHeads_map_plain]
  cases gap : Midi.wideGap? sequence.events with
  | some delta =>
    rw [compileBytes_of_wide compiled (encode_eq_error_iff.mpr ⟨delta, gap, rfl⟩),
      compileBytes_of_wide compiled' (encode_eq_error_iff.mpr ⟨delta, gaps ▸ gap, rfl⟩)]
    exact .failed _
  | none =>
    have encoded := Sequence.encode_of_narrow gap names
    have encoded' := Sequence.encode_of_narrow (gaps ▸ gap) names
    rw [← tempos, ← heads] at encoded'
    have length := Midi.length_noteHeads none Tick.zero sequence.events
    have length' := Midi.length_noteHeads none Tick.zero sequence'.events
    rw [← heads] at length'
    -- equally long notes have the same length in the header of their chunk
    have notes := Midi.length_noteBytes length length'
    obtain ⟨start, finish, around⟩ := Midi.exists_fileBytes_around sequence.tempo names
      (Midi.noteBytes (Midi.noteHeads none Tick.zero sequence.events) sequence.events).length
    rw [around _ rfl] at encoded
    rw [around _ notes.symm] at encoded'
    rw [compileBytes_of_ok compiled encoded, compileBytes_of_ok compiled' encoded']
    refine .written start finish _ rfl heads rfl rfl ?_
    rw [List.length_append, List.length_append, notes, List.length_append, List.length_append]

/-- Texts of scores that differ in loudness alone are compiled alike. -/
theorem compiledAlike_of_plain {score score' : Score} (read : Score.ofText text = .ok score)
    (read' : Score.ofText text' = .ok score') (plain : score.plain = score'.plain) :
    CompiledAlike (compileBytes text tempo repeats names)
      (compileBytes text' tempo repeats names) := by
  by_cases still : tempo = 0
  · subst still
    rw [compileBytes_of_error (compile_of_still read),
      compileBytes_of_error (compile_of_still read')]
    exact .failed _
  · apply compiledAlike_of_events (compile_eq_ok read still repeats)
      (compile_eq_ok read' still repeats) rfl
    have size : score.size = score'.size := by rw [← score.size_plain, plain, score'.size_plain]
    rw [← Score.schedule_plain, ← Score.schedule_plain, plain, size]

/-- **Case decides on loudness and on nothing else.** Texts that differ only in the case of ASCII
letters are read alike: as scores that differ in volumes only, or with the same error, which for an
unknown sound is at the same place and names a token that differs only in case. Scores read from
them are compiled alike: there is no file of either, for the same reason, or the files are equally
long and differ in nothing but the velocities of notes. -/
theorem compileBytes_up_to_case (same : EqUpToCase text text') (tempo repeats : UInt32)
    (names : Names) :
    ReadAlike (tokenRows text.toList) (tokenRows text'.toList)
      (Score.ofText text) (Score.ofText text') ∧
    ∀ score score', Score.ofText text = .ok score → Score.ofText text' = .ok score' →
      CompiledAlike (compileBytes text tempo repeats names)
        (compileBytes text' tempo repeats names) := by
  have alike := Score.readAlike_ofText same
  refine ⟨alike, fun score score' read read' => ?_⟩
  rw [read, read'] at alike
  cases alike with
  | score plain => exact compiledAlike_of_plain read read' plain

/-- Two voices whose accents are exchanged have different files of one length, and an unknown token
is reported at its place in both spellings. -/
theorem compileBytes_up_to_case_two_voices :
    (EqUpToCase "boom KAH\ntik ." "BOOM kah\nTik ." ∧
      ∃ sequence sequence' bytes bytes',
        compileBytes "boom KAH\ntik ." 120 2 {} = .ok (sequence, bytes) ∧
        compileBytes "BOOM kah\nTik ." 120 2 {} = .ok (sequence', bytes') ∧
        bytes.length = bytes'.length ∧ bytes ≠ bytes') ∧
    EqUpToCase "tik Boom\nbang ." "TIK boom\nBANG ." ∧
      ReadAlike [["tik", "Boom"], ["bang", "."]] [["TIK", "boom"], ["BANG", "."]]
        (.error (.unknownSound "bang")) (.error (.unknownSound "BANG")) := by
  have known : EqUpToCase "boom KAH\ntik ." "BOOM kah\nTik ." := by
    rw [EqUpToCase]
    decide +kernel
  have unknown : EqUpToCase "tik Boom\nbang ." "TIK boom\nBANG ." := by
    rw [EqUpToCase]
    decide +kernel
  have read : Score.ofText "boom KAH\ntik ." =
      .ok ⟨[⟨[⟨.boom, .normal⟩, ⟨.tik, .normal⟩]⟩, ⟨[⟨.kah, .accented⟩]⟩]⟩ := by decide +kernel
  have read' : Score.ofText "BOOM kah\nTik ." =
      .ok ⟨[⟨[⟨.boom, .accented⟩, ⟨.tik, .accented⟩]⟩, ⟨[⟨.kah, .normal⟩]⟩]⟩ := by decide +kernel
  have misread : Score.ofText "tik Boom\nbang ." = .error (.unknownSound "bang") := by
    decide +kernel
  have misread' : Score.ofText "TIK boom\nBANG ." = .error (.unknownSound "BANG") := by
    decide +kernel
  have alike := (compileBytes_up_to_case known 120 2 {}).2 _ _ read read'
  have misalike := (compileBytes_up_to_case unknown 120 2 {}).1
  rw [misread, misread'] at misalike
  have differ : (compileBytes "boom KAH\ntik ." 120 2 {}).toOption.map Prod.snd ≠
      (compileBytes "BOOM kah\nTik ." 120 2 {}).toOption.map Prod.snd := by decide +kernel
  refine ⟨⟨known, ?_⟩, unknown, misalike⟩
  obtain ⟨⟨sequence, bytes⟩, compiled⟩ :
      ∃ result, compileBytes "boom KAH\ntik ." 120 2 {} = .ok result :=
    ⟨_, compileBytes_of_ok (compile_eq_ok read (by decide) 2) rfl⟩
  obtain ⟨⟨sequence', bytes'⟩, compiled'⟩ :
      ∃ result, compileBytes "BOOM kah\nTik ." 120 2 {} = .ok result :=
    ⟨_, compileBytes_of_ok (compile_eq_ok read' (by decide) 2) rfl⟩
  rw [compiled, compiled'] at alike differ
  cases alike with
  | written start finish heads hheads hheads' hbytes hbytes' length =>
    exact ⟨sequence, sequence', bytes, bytes', compiled, compiled', length,
      fun equal => differ (congrArg some equal)⟩

end Percussion
