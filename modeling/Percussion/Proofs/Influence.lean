import Percussion.Proofs.FileCompilation

/-!
# What the tempo and the names change in a file

A file consists of a header that is always the same, a chunk that tells the tempo and the name of
the sequence, and a chunk with the other names and the notes. The notes come from the text and the
repeats alone, and so does the reason why there is no file (`compileBytes_influence`). The tempo
stands in three octets that no length depends on (`Midi.exists_fileBytes_eq`).
-/

namespace Percussion

namespace Midi

/-! ## The chunks of a file -/

/-- The chunk in front of the tracks. -/
def headerChunk : List UInt8 :=
  chunk "MThd" (fixedLength 2 1 ++ fixedLength 2 2 ++ fixedLength 2 Tick.perQuarter)

/-- A meta message at the tick of the one before it. -/
def metaEvent (type : UInt8) (payload : List UInt8) : List UInt8 :=
  variableLength 0 ++ Message.metaBytes type payload

/-- The chunk with the tempo and the name of the sequence. -/
def metadataChunk (tempo : UInt32) (sequenceName : String) : List UInt8 :=
  chunk "MTrk" (metaEvent 0x51 (fixedLength 3 (microsPerQuarter tempo)) ++
    metaEvent 0x03 (textBytes sequenceName) ++ metaEvent 0x2F [])

/-- The chunk with the names of the track and the instrument and with the notes. -/
def percussionChunk (notes : List UInt8) (trackName instrumentName : String) : List UInt8 :=
  chunk "MTrk" (metaEvent 0x03 (textBytes trackName) ++
    metaEvent 0x04 (textBytes instrumentName) ++ notes ++ metaEvent 0x2F [])

/-- The bytes of a file with the given notes. -/
def fileBytes (tempo : UInt32) (names : Names) (notes : List UInt8) : List UInt8 :=
  headerChunk ++ metadataChunk tempo names.sequence ++
    percussionChunk notes names.track names.instrument

theorem Track.bytesAfter_endOfTrack (running : Option UInt8) (notes : Track) :
    bytesAfter running (notes ++ [⟨0, .endOfTrack⟩]) =
      bytesAfter running notes ++ metaEvent 0x2F [] := by
  induction notes generalizing running with
  | nil => simp [bytesAfter, metaEvent, Message.bytes, Message.status?, Message.body]
  | cons note notes ih =>
    rw [List.cons_append, bytesAfter, bytesAfter, ih, List.append_assoc, List.append_assoc,
      List.append_assoc]

/-- The tempo and the names of a file stand in front of its notes. -/
theorem bytes_eq_fileBytes (tempo : UInt32) (names : Names) (notes : Track) :
    File.bytes ⟨1, Tick.perQuarter, [metadataTrack tempo names, percussionTrack notes names]⟩ =
      fileBytes tempo names (notes.bytesAfter none) := by
  have metadata : (metadataTrack tempo names).bytes =
      metaEvent 0x51 (fixedLength 3 (microsPerQuarter tempo)) ++
        metaEvent 0x03 (textBytes names.sequence) ++ metaEvent 0x2F [] := by
    rw [Track.bytes_eq_bytesAfter]
    simp [metadataTrack, Track.bytesAfter, metaEvent, Message.bytes, Message.status?, Message.body]
  have percussion : (percussionTrack notes names).bytes =
      metaEvent 0x03 (textBytes names.track) ++ metaEvent 0x04 (textBytes names.instrument) ++
        notes.bytesAfter none ++ metaEvent 0x2F [] := by
    rw [Track.bytes_eq_bytesAfter, percussionTrack, List.append_assoc, List.cons_append,
      List.cons_append, List.nil_append, Track.bytesAfter, Track.bytesAfter]
    simp [Track.bytesAfter_endOfTrack, metaEvent, Message.bytes, Message.status?, Message.body]
  simp [File.bytes, fileBytes, headerChunk, metadataChunk, percussionChunk, metadata, percussion]

/-! ## The octets of the tempo -/

/-- A tempo is told in three bytes after its header. -/
theorem tempoEvent_eq (micros : ℕ) :
    metaEvent 0x51 (fixedLength 3 micros) =
      variableLength 0 ++ [0xFF, 0x51] ++ variableLength 3 ++ fixedLength 3 micros := by
  rw [metaEvent, Message.metaBytes, length_fixedLength]
  simp only [List.append_assoc]

theorem length_tempoEvent (micros : ℕ) : (metaEvent 0x51 (fixedLength 3 micros)).length = 7 := by
  rw [tempoEvent_eq, List.length_append, length_fixedLength]
  decide +kernel

/-- The tempo stands in three octets after the first 26, and nothing else depends on it. -/
theorem exists_fileBytes_eq (names : Names) (notes : List UInt8) :
    ∃ before after : List UInt8, before.length = 26 ∧ ∀ tempo : UInt32,
      fileBytes tempo names notes =
        before ++ fixedLength 3 (microsPerQuarter tempo) ++ after := by
  obtain ⟨name, hname⟩ :
    ∃ name, name = metaEvent 0x03 (textBytes names.sequence) ++ metaEvent 0x2F [] := ⟨_, rfl⟩
  refine ⟨headerChunk ++ ("MTrk".toUTF8.data.toList ++ fixedLength 4 (7 + name.length)) ++
    (variableLength 0 ++ [0xFF, 0x51] ++ variableLength 3),
    name ++ percussionChunk notes names.track names.instrument, ?_, fun tempo => ?_⟩
  · rw [List.length_append, List.length_append, List.length_append, length_fixedLength]
    decide +kernel
  · -- the length in the header of the chunk does not depend on the tempo
    have length : (metaEvent 0x51 (fixedLength 3 (microsPerQuarter tempo)) ++ name).length =
        7 + name.length := by
      rw [List.length_append, length_tempoEvent]
    rw [fileBytes, metadataChunk, List.append_assoc (metaEvent 0x51 _), ← hname, chunk, length,
      tempoEvent_eq]
    simp only [List.append_assoc]

/-- Numbers that fit in three octets are told by them. -/
theorem fixedLength_three_inj {n m : ℕ} (hn : n < 0x1000000) (hm : m < 0x1000000)
    (h : fixedLength 3 n = fixedLength 3 m) : n = m := by
  have readN := @readFixed?_append 3 n hn []
  have readM := @readFixed?_append 3 m hm []
  rw [h, readM] at readN
  exact (Prod.mk.inj (Option.some.inj readN)).1.symm

/-- Files with the same names and notes differ at most in the octets of the tempo. -/
theorem fileBytes_tempo (tempo tempo' : UInt32) (names : Names) (notes : List UInt8) :
    (fileBytes tempo names notes).length = (fileBytes tempo' names notes).length ∧
    (fileBytes tempo names notes).take 26 = (fileBytes tempo' names notes).take 26 ∧
    ((fileBytes tempo names notes).drop 26).take 3 = fixedLength 3 (microsPerQuarter tempo) ∧
    (fileBytes tempo names notes).drop 29 = (fileBytes tempo' names notes).drop 29 ∧
    (fileBytes tempo names notes = fileBytes tempo' names notes ↔
      microsPerQuarter tempo = microsPerQuarter tempo') := by
  obtain ⟨before, after, length, same⟩ := exists_fileBytes_eq names notes
  have three (n : ℕ) : (fixedLength 3 n).length = 3 := length_fixedLength 3 n
  rw [same, same]
  refine ⟨?_, ?_, ?_, ?_, ?_, ?_⟩
  · simp only [List.length_append, three]
  · simp [length]
  · simp [length, three]
  · simp [List.drop_append, length, three]
  · intro h
    rw [List.append_cancel_right_eq, List.append_cancel_left_eq] at h
    exact fixedLength_three_inj (microsPerQuarter_lt tempo) (microsPerQuarter_lt tempo') h
  · intro h
    rw [h]

end Midi

/-- What is made of a text, except for what the tempo and the names add. -/
theorem compileBytes_error_or_fileBytes (text : String) (repeats : UInt32) :
    (∃ error, ∀ (tempo : UInt32) (names : Names), tempo ≠ 0 →
      compileBytes text tempo repeats names = .error error) ∨
    ∃ notes : List UInt8, ∀ (tempo : UInt32) (names : Names), tempo ≠ 0 →
      ∃ sequence, compileBytes text tempo repeats names =
        .ok (sequence, Midi.fileBytes tempo names notes) := by
  cases read : Score.ofText text with
  | error error =>
    exact .inl ⟨_, fun tempo names _ => compileBytes_of_error (compile_of_misread read)⟩
  | ok score =>
    -- gaps are counted in ticks, which the tempo does not move
    cases gap : Midi.wideGap? (score.schedule 240 (repeats.toNat * score.size)) with
    | some delta =>
      refine .inl ⟨.midi (.tickOverflow delta), fun tempo names ne => ?_⟩
      apply compileBytes_of_wide (compile_eq_ok read ne repeats)
      exact encode_eq_error_iff.mpr ⟨delta, gap, rfl⟩
    | none =>
      refine .inr ⟨Midi.Track.bytesAfter none (Midi.notesAfter Tick.zero
        (score.schedule 240 (repeats.toNat * score.size))), fun tempo names ne => ?_⟩
      refine ⟨_, compileBytes_of_ok (compile_eq_ok read ne repeats) ?_⟩
      rw [Sequence.encode_eq, gap]
      exact congrArg Except.ok (Midi.bytes_eq_fileBytes tempo names _)

/-- **The notes of a file come from the text and the repeats alone.** At a tempo of at least one
quarter note per minute a text either has no file, for a reason that neither the tempo nor the names
change, or has files for all tempos and names with the same notes. Each of the two track chunks
depends only on what it tells. With the same names, two files differ at most in the three octets of
the tempo, which are the microseconds of a quarter note. -/
theorem compileBytes_influence (text : String) (repeats : UInt32) :
    ((∃ error, ∀ (tempo : UInt32) (names : Names), tempo ≠ 0 →
        compileBytes text tempo repeats names = .error error) ∨
      ∃ notes : List UInt8, ∀ (tempo : UInt32) (names : Names), tempo ≠ 0 →
        ∃ sequence, compileBytes text tempo repeats names = .ok (sequence, Midi.headerChunk ++
          Midi.metadataChunk tempo names.sequence ++
          Midi.percussionChunk notes names.track names.instrument)) ∧
    ∀ (tempo tempo' : UInt32) (names : Names) (sequence sequence' : Sequence)
      (bytes bytes' : List UInt8),
      compileBytes text tempo repeats names = .ok (sequence, bytes) →
      compileBytes text tempo' repeats names = .ok (sequence', bytes') →
      bytes.length = bytes'.length ∧ bytes.take 26 = bytes'.take 26 ∧
        (bytes.drop 26).take 3 = Midi.fixedLength 3 (Midi.microsPerQuarter tempo) ∧
        bytes.drop 29 = bytes'.drop 29 ∧
        (bytes = bytes' ↔ Midi.microsPerQuarter tempo = Midi.microsPerQuarter tempo') := by
  have made := compileBytes_error_or_fileBytes text repeats
  refine ⟨made, ?_⟩
  intro tempo tempo' names sequence sequence' bytes bytes' compiled compiled'
  have ne := tempo_ne_zero_of_compile (compileBytes_eq_ok compiled).1
  have ne' := tempo_ne_zero_of_compile (compileBytes_eq_ok compiled').1
  -- one file has been made, so that the text is not in error at any tempo
  rcases made with ⟨error, fails⟩ | ⟨notes, succeeds⟩
  · rw [fails tempo names ne] at compiled
    cases compiled
  · obtain ⟨_, same⟩ := succeeds tempo names ne
    obtain ⟨_, same'⟩ := succeeds tempo' names ne'
    rw [compiled, Except.ok.injEq, Prod.mk.injEq] at same
    rw [compiled', Except.ok.injEq, Prod.mk.injEq] at same'
    rw [same.2, same'.2]
    exact Midi.fileBytes_tempo tempo tempo' names notes

/-- Two tempos at which a quarter note takes as many microseconds have the same file, and two others
do not. A text that is not a score has the same error at all of them. -/
theorem compileBytes_influence_two_tempos :
    (∃ sequence sequence' bytes, compileBytes "boom . TIK" 20000001 2 {} = .ok (sequence, bytes) ∧
      compileBytes "boom . TIK" 25000000 2 {} = .ok (sequence', bytes)) ∧
    (∃ sequence sequence' bytes bytes',
      compileBytes "boom . TIK" 120 2 {} = .ok (sequence, bytes) ∧
      compileBytes "boom . TIK" 121 2 {} = .ok (sequence', bytes') ∧
      bytes ≠ bytes' ∧ bytes.drop 29 = bytes'.drop 29) ∧
    ∃ error, compileBytes "boom bang" 120 2 {} = .error error ∧
      compileBytes "boom bang" 7 2 ⟨"", "drums", "kit"⟩ = .error error := by
  have read : Score.ofText "boom . TIK" =
      .ok ⟨[⟨[⟨.boom, .normal⟩]⟩, ⟨[]⟩, ⟨[⟨.tik, .accented⟩]⟩]⟩ := by decide +kernel
  have compiled (tempo : UInt32) (ne : tempo ≠ 0) :
      ∃ result, compileBytes "boom . TIK" tempo 2 {} = .ok result :=
    ⟨_, compileBytes_of_ok (compile_eq_ok read ne 2) rfl⟩
  obtain ⟨_, two⟩ := compileBytes_influence "boom . TIK" 2
  obtain ⟨made, _⟩ := compileBytes_influence "boom bang" 2
  refine ⟨?_, ?_, ?_⟩
  · obtain ⟨⟨sequence, bytes⟩, first⟩ := compiled 20000001 (by decide)
    obtain ⟨⟨sequence', bytes'⟩, second⟩ := compiled 25000000 (by decide)
    obtain ⟨_, _, _, _, same⟩ := two _ _ _ _ _ _ _ first second
    obtain rfl := same.mpr (by decide)
    exact ⟨sequence, sequence', bytes, first, second⟩
  · obtain ⟨⟨sequence, bytes⟩, first⟩ := compiled 120 (by decide)
    obtain ⟨⟨sequence', bytes'⟩, second⟩ := compiled 121 (by decide)
    obtain ⟨_, _, _, later, same⟩ := two _ _ _ _ _ _ _ first second
    refine ⟨sequence, sequence', bytes, bytes', first, second, ?_, later⟩
    rw [Ne, same]
    decide
  · rcases made with ⟨error, fails⟩ | ⟨notes, succeeds⟩
    · exact ⟨error, fails 120 {} (by decide), fails 7 ⟨"", "drums", "kit"⟩ (by decide)⟩
    · have misread : Score.ofText "boom bang" = .error (.unknownSound "bang") := by decide +kernel
      obtain ⟨_, made⟩ := succeeds 120 {} (by decide)
      rw [compileBytes_of_error (compile_of_misread misread)] at made
      cases made

end Percussion
