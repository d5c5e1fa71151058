import Percussion.Proofs.Playback

/-!
# The tempo of a file

A file tells its tempo once, as the microseconds of a quarter note. They never outgrow the message,
and a faster tempo never has more of them; but they are whole, and so from 60000001 quarter notes
per minute on there are none left (`Midi.microsPerQuarter_pos_iff`), and all notes of the file come
at once.
-/

namespace Percussion

namespace Midi

/-! ## Microseconds -/

theorem microsPerQuarter_le (tempo : UInt32) : microsPerQuarter tempo ≤ 0xFFFFFF := by
  have bound := microsPerQuarter_lt tempo
  omega

/-- A quarter note has a microsecond to last for up to sixty million quarter notes per minute. -/
theorem microsPerQuarter_pos_iff (tempo : UInt32) :
    1 ≤ microsPerQuarter tempo ↔ tempo.toNat ≤ 60000000 := by
  unfold microsPerQuarter maxMicrosPerQuarter
  by_cases zero : tempo = 0
  · subst zero
    decide
  · have pos : 0 < tempo.toNat := by
      rw [← UInt32.toNat_inj] at zero
      exact Nat.pos_of_ne_zero zero
    have quotient : 1 ≤ 60000000 / tempo.toNat ↔ tempo.toNat ≤ 60000000 := by
      rw [Nat.le_div_iff_mul_le pos, Nat.one_mul]
    rw [if_neg zero]
    omega

/-- A faster tempo does not have longer quarter notes. -/
theorem microsPerQuarter_anti {tempo faster : UInt32} (h : tempo ≤ faster) :
    microsPerQuarter faster ≤ microsPerQuarter tempo := by
  by_cases zero : tempo = 0
  · subst zero
    exact microsPerQuarter_le faster
  · rw [UInt32.le_iff_toNat_le] at h
    have pos : 0 < tempo.toNat := by
      rw [← UInt32.toNat_inj] at zero
      exact Nat.pos_of_ne_zero zero
    have ne : faster ≠ 0 := by
      rw [Ne, ← UInt32.toNat_inj]
      show faster.toNat ≠ 0
      omega
    have quotient : 60000000 / faster.toNat ≤ 60000000 / tempo.toNat := Nat.div_le_div_left h pos
    unfold microsPerQuarter
    rw [if_neg zero, if_neg ne]
    omega

/-! ## Tempo messages -/

/-- The tempo that a message tells, if it is about that. -/
def Message.tempo? : Message → Option ℕ
  | .tempo micros => some micros
  | _ => none

/-- All tempos that a track tells. -/
def Track.tempos (track : Track) : List ℕ := track.filterMap fun event => event.message.tempo?

/-- All tempos that a file tells. -/
def File.tempos (file : File) : List ℕ := file.tracks.flatMap Track.tempos

theorem tempo?_ofEvent (event : Event) : (Message.ofEvent event).tempo? = none := by
  unfold Message.ofEvent
  cases event.kind with
  | start => rfl
  | stop => rfl

theorem tempos_metadataTrack (tempo : UInt32) (names : Names) :
    Track.tempos (metadataTrack tempo names) = [microsPerQuarter tempo] := rfl

/-- Notes and names tell no tempo. -/
theorem tempos_percussionTrack (previous : Tick) (events : List Event) (names : Names) :
    Track.tempos (percussionTrack (notesAfter previous events) names) = [] := by
  have notes : Track.tempos (notesAfter previous events) = [] := by
    unfold Track.tempos
    rw [List.filterMap_eq_nil_iff]
    intro note hnote
    obtain ⟨event, message⟩ := exists_event_of_mem_notesAfter hnote
    rw [message, tempo?_ofEvent]
  unfold Track.tempos at notes ⊢
  rw [percussionTrack, List.filterMap_append, List.filterMap_append, notes]
  rfl

end Midi

namespace Sequence

open Midi

variable {sequence : Sequence} {names : Names}

/-- The one tempo in a file is the one of its sequence. -/
theorem tempos_of_toMidi {file : File} (written : sequence.toMidi names = .ok file) :
    file.tempos = [microsPerQuarter sequence.tempo] := by
  rw [(toMidi_eq_ok written).1]
  unfold File.tempos
  rw [List.flatMap_cons, List.flatMap_singleton, tempos_metadataTrack, tempos_percussionTrack]
  rfl

/-- Whether a sequence has a file does not depend on its tempo. -/
theorem exists_toMidi_of_tempo {file : File} (written : sequence.toMidi names = .ok file)
    (tempo : UInt32) : ∃ file', { sequence with tempo }.toMidi names = .ok file' := by
  unfold toMidi at written ⊢
  cases notes : Midi.notes sequence.events with
  | error error =>
    rw [notes] at written
    cases written
  | ok notes => exact ⟨_, rfl⟩

/-- **What tempo a file tells.** A file tells one tempo, of at most 16777215 microseconds for a
quarter note. It is playable, of at least one microsecond, up to a tempo of 60000000 quarter notes
per minute and at no tempo above, though all of them are accepted. Played faster, the score has a
file whose quarter notes are not longer. -/
theorem encode_tempo {score : Score} {playing : Playing} {bytes : List UInt8}
    (rendered : score.render playing = .ok sequence)
    (encoded : sequence.encode names = .ok bytes) :
    ∃ file micros, sequence.toMidi names = .ok file ∧ file.bytes = bytes ∧
      (sequence.Fits names → File.ofBytes? bytes = some file) ∧
      file.tempos = [micros] ∧ micros ≤ 0xFFFFFF ∧
      (1 ≤ micros ↔ playing.tempo.toNat ≤ 60000000) ∧
      ∀ faster : UInt32, playing.tempo ≤ faster →
        ∃ sequence' file' micros',
          score.render { playing with tempo := faster } = .ok sequence' ∧
          sequence'.toMidi names = .ok file' ∧ file'.tempos = [micros'] ∧ micros' ≤ micros := by
  have accepted := Score.tempo_ne_zero_of_render rendered
  rw [score.render_eq_ok accepted] at rendered
  obtain rfl := Except.ok.inj rendered
  obtain ⟨file, written, rfl⟩ := encode_eq_ok encoded
  refine ⟨file, _, written, rfl, ofBytes?_bytes written, tempos_of_toMidi written,
    microsPerQuarter_le _, microsPerQuarter_pos_iff _, ?_⟩
  intro faster hfaster
  -- the slower tempo was accepted, and so a faster one is
  have ne : faster ≠ 0 := by
    intro zero
    subst zero
    exact accepted (UInt32.le_zero_iff.mp hfaster)
  obtain ⟨file', written'⟩ := exists_toMidi_of_tempo written faster
  exact ⟨_, file', _, @Score.render_eq_ok score { playing with tempo := faster } ne, written',
    tempos_of_toMidi written', microsPerQuarter_anti hfaster⟩

/-- The fastest tempo that is playable, and the next one. -/
theorem encode_tempo_at_the_limit :
    ∃ sequence bytes file micros,
      Score.render ⟨[⟨[⟨.boom, .normal⟩]⟩]⟩ ⟨60000000, 1, ⟨2, by decide⟩⟩ = .ok sequence ∧
      sequence.encode ⟨"", "", ""⟩ = .ok bytes ∧
      sequence.toMidi ⟨"", "", ""⟩ = .ok file ∧
      file.tempos = [micros] ∧ 1 ≤ micros ∧ micros ≤ 0xFFFFFF ∧
      ∃ sequence' file' micros',
        Score.render ⟨[⟨[⟨.boom, .normal⟩]⟩]⟩ ⟨60000001, 1, ⟨2, by decide⟩⟩ = .ok sequence' ∧
        sequence'.toMidi ⟨"", "", ""⟩ = .ok file' ∧ file'.tempos = [micros'] ∧
        micros' ≤ micros := by
  obtain ⟨file, micros, written, _, _, tempos, most, least, faster⟩ :=
    @encode_tempo _ ⟨"", "", ""⟩ ⟨[⟨[⟨.boom, .normal⟩]⟩]⟩ ⟨60000000, 1, ⟨2, by decide⟩⟩ _ rfl rfl
  exact ⟨_, _, file, micros, rfl, rfl, written, tempos, least.mpr (by decide), most,
    faster 60000001 (by decide)⟩

/-- At sixty million and one quarter notes per minute a file is written without an error, and none
of its quarter notes lasts. -/
theorem encode_tempo_above_the_limit :
    ∃ sequence bytes file,
      Score.render ⟨[⟨[⟨.boom, .normal⟩]⟩]⟩ ⟨60000001, 1, ⟨2, by decide⟩⟩ = .ok sequence ∧
      sequence.encode ⟨"", "", ""⟩ = .ok bytes ∧
      sequence.toMidi ⟨"", "", ""⟩ = .ok file ∧ file.tempos = [0] :=
  ⟨_, _, _, rfl, rfl, rfl, rfl⟩

end Sequence

end Percussion
