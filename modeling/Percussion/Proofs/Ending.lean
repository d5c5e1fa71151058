import Mathlib.Data.List.Induction
import Percussion.Proofs.Passages
import Percussion.Proofs.Playback

/-!
# The end of a file

The length of a sequence counts whole beats, silent ones included, but its file ends with the last
stop. That is earlier if the last beats are silent, and also if the hits of the last beat that is
not do not share its ticks without a remainder. `Score.render_finish` says by how much.
-/

namespace Percussion

/-! ## The last event of a beat -/

namespace Beat

/-- What the last stop of a beat leaves of it: the remainder of its steps, or nothing if it has more
hits than ticks. -/
def leftOver (ticks count : ℕ) : ℕ := if count ≤ ticks then ticks % count else 0

/-- From the stop of the last hit to the end of the beat there is what is left over. -/
theorem stopOffset_last {count : ℕ} (pos : 0 < count) (ticks : ℕ) :
    stopOffset ticks count (count - 1) + leftOver ticks count = ticks := by
  rw [stopOffset, leftOver, Nat.sub_add_cancel pos]
  split
  · next enough =>
    have step : 0 < ticks / count := Nat.div_pos enough pos
    have division := Nat.div_add_mod ticks count
    rw [Nat.max_eq_left step, Nat.min_eq_left (by omega)]
    exact division
  · next crowded =>
    rw [Nat.div_eq_of_lt (by omega), Nat.max_eq_right (Nat.zero_le 1), Nat.mul_one,
      Nat.min_eq_right (by omega), Nat.add_zero]

/-- Nothing is left over if the hits divide the beat, or if they outnumber its ticks. -/
theorem leftOver_eq_zero_iff {ticks count : ℕ} :
    leftOver ticks count = 0 ↔ count ∣ ticks ∨ ticks < count := by
  rw [leftOver]
  split
  · next enough => rw [← Nat.dvd_iff_mod_eq_zero, or_iff_left (by omega)]
  · next crowded => simp [Nat.lt_of_not_le crowded]

end Beat

/-! ## The last event of a performance -/

namespace Score

/-- The last beat that is not silent has `hits` hits, and `rests` silent beats come after it. -/
def EndsWith (score : Score) (hits rests : ℕ) : Prop :=
  ∃ before beat, score.beats = before ++ beat :: List.replicate rests ⟨[]⟩ ∧ beat.hits ≠ [] ∧
    beat.hits.length = hits

theorem exists_endsWith {score : Score} (sounds : score.hitCount ≠ 0) :
    ∃ hits rests, score.EndsWith hits rests := by
  obtain ⟨beats⟩ := score
  induction beats using List.reverseRecOn with
  | nil => exact absurd rfl sounds
  | append_singleton beats beat ih =>
    by_cases silent : beat.hits = []
    · have earlier : hitCount ⟨beats⟩ ≠ 0 := by simpa [hitCount, silent] using sounds
      obtain ⟨hits, rests, before, last, split, hlast⟩ := ih earlier
      refine ⟨hits, rests + 1, before, last, ?_, hlast⟩
      obtain ⟨_⟩ := beat
      obtain rfl := silent
      obtain rfl := split
      simp [List.replicate_succ']
    · exact ⟨_, 0, beats, beat, rfl, silent, rfl⟩

/-- The last repeat decides on the last event: together with the left-over of its beat and the
silence after it, it makes up the length. -/
theorem exists_getLast?_schedule {score : Score} {hits rests times : ℕ}
    (ends : score.EndsWith hits rests) (again : times ≠ 0) (ticks : ℕ) :
    ∃ hit stop, (score.schedule ticks (times * score.size)).getLast? =
        some ⟨.stop, hit, Tick.ofNat stop⟩ ∧
      score.size * times * ticks = stop + (rests * ticks + Beat.leftOver ticks hits) := by
  obtain ⟨before, beat, split, sounds, rfl⟩ := ends
  obtain ⟨earlier, rfl⟩ := Nat.exists_eq_succ_of_ne_zero again
  -- all that is played up to the beat
  let played := (List.replicate earlier score.beats).flatten ++ before
  have beats : (List.replicate (earlier + 1) score.beats).flatten =
      (played ++ [beat]) ++ List.replicate rests ⟨[]⟩ := by
    simp [played, List.replicate_succ', ← split]
  have silence : passage ticks (List.replicate rests ⟨[]⟩) = [] :=
    passage_of_silent (by simp) ticks
  have schedule : score.schedule ticks ((earlier + 1) * score.size) =
      passage ticks played ++ beat.block ticks (played.length * ticks) := by
    rw [schedule_eq_passage, beats, passage_append, silence, List.map_nil, List.append_nil,
      passage_concat]
  obtain ⟨hit, last⟩ := Beat.exists_getLast?_block sounds ticks (played.length * ticks)
  refine ⟨hit, played.length * ticks +
    Beat.stopOffset ticks beat.hits.length (beat.hits.length - 1), ?_, ?_⟩
  · rw [schedule, List.getLast?_append, last]
    rfl
  · have size : score.size * (earlier + 1) = played.length + (rests + 1) := by
      have length := congrArg List.length beats
      simpa [size, Nat.mul_comm] using length
    have pos := List.length_pos_of_ne_nil sounds
    have share := Beat.stopOffset_last pos ticks
    rw [size, Nat.add_mul, Nat.succ_mul]
    omega

/-- Up to the last position, ticks are what they are without a limit. -/
theorem exists_last_schedule {score : Score} {hits rests times ticks : ℕ}
    (ends : score.EndsWith hits rests) (again : times ≠ 0)
    (fits : score.size * times * ticks ≤ Tick.last) :
    ∃ last, (score.schedule ticks (times * score.size)).getLast? = some last ∧
      (Tick.ofBeats (score.size * times) ticks).toNat =
        last.tick.toNat + (rests * ticks + Beat.leftOver ticks hits) := by
  obtain ⟨hit, stop, last, length⟩ := exists_getLast?_schedule ends again ticks
  refine ⟨_, last, ?_⟩
  rw [Tick.ofBeats, Tick.toNat_ofNat_of_le fits, Tick.toNat_ofNat_of_le (by omega), length]

end Score

/-! ## The end of a track -/

namespace Midi

/-- The time at which a track ends: the position of its last message. -/
def Track.finish (track : Track) : ℕ := (track.positions 0).getLastD 0

/-- A file ends with the track that ends last. -/
def File.finish (file : File) : ℕ := (file.tracks.map Track.finish).foldr max 0

/-- The positions of later events are counted from the last one before them. -/
theorem Track.positions_append (start : ℕ) (track later : Track) :
    Track.positions start (track ++ later) =
      Track.positions start track ++
        Track.positions ((Track.positions start track).getLastD start) later := by
  induction track generalizing start with
  | nil => rfl
  | cons event track ih =>
    rw [List.cons_append, Track.positions, ih, Track.positions, List.getLastD_cons]
    rfl

/-- The messages around the notes take no time. -/
theorem finish_percussionTrack (notes : Track) (names : Names) :
    (percussionTrack notes names).finish = notes.finish := by
  have ends : ∀ before : Track, Track.finish (before ++ [⟨0, .endOfTrack⟩]) = before.finish := by
    intro before
    rw [Track.finish, Track.positions_append, Track.positions, Track.positions, Nat.add_zero,
      List.getLastD_concat, Track.finish]
  rw [percussionTrack, ends]
  exact List.getLastD_cons.trans List.getLastD_cons

theorem finish_metadataTrack (tempo : UInt32) (names : Names) :
    (metadataTrack tempo names).finish = 0 := rfl

/-- Notes end at the tick of the last event. -/
theorem finish_notesAfter {events : List Event}
    (ordered : events.Pairwise fun a b => a.tick.toNat ≤ b.tick.toNat) :
    (notesAfter Tick.zero events).finish = (events.getLast?.map (·.tick.toNat)).getD 0 := by
  have positions := positions_notesAfter Tick.zero (fun _ _ => Nat.zero_le _) ordered
  have start : Tick.zero.toNat = 0 := rfl
  rw [start] at positions
  rw [Track.finish, positions, List.getLastD_eq_getLast?, List.getLast?_map]

end Midi

namespace Sequence

open Midi

variable {sequence : Sequence} {names : Names}

/-- The notes of a file last until the last event of its sequence. -/
theorem finish_of_toMidi {file : File} (written : sequence.toMidi names = .ok file)
    (ordered : sequence.events.Pairwise fun a b => a.tick.toNat ≤ b.tick.toNat) :
    file.finish = (sequence.events.getLast?.map (·.tick.toNat)).getD 0 := by
  obtain ⟨rfl, _⟩ := toMidi_eq_ok written
  simp only [File.finish, List.map_cons, List.map_nil, List.foldr_cons, List.foldr_nil,
    finish_metadataTrack, finish_percussionTrack, finish_notesAfter ordered, Nat.zero_max,
    Nat.max_zero]

/-- A sequence without events always has a file, which ends at once. -/
theorem exists_file_of_events_eq_nil (silent : sequence.events = []) (names : Names) :
    ∃ file, sequence.toMidi names = .ok file ∧ sequence.encode names = .ok file.bytes ∧
      file.finish = 0 := by
  obtain ⟨file, written⟩ : ∃ file, sequence.toMidi names = .ok file := by
    rw [toMidi, silent]
    exact ⟨_, rfl⟩
  refine ⟨file, written, ?_, ?_⟩
  · rw [encode, written]
    rfl
  · have ordered : sequence.events.Pairwise fun a b => a.tick.toNat ≤ b.tick.toNat := by
      rw [silent]
      exact .nil
    rw [finish_of_toMidi written ordered, silent]
    rfl

end Sequence

namespace Score

open Midi

/-- **A file ends before its sequence by the silence at the end and what the last stop leaves.** The
last event is the last stop of the last beat with hits, and there the file ends: that is the end of
the sequence if and only if the beat is the last of all, and its hits share its ticks without a
remainder or outnumber them. Without hits a file ends at once. -/
theorem render_finish (score : Score) (playing : Playing) (ne : playing.tempo ≠ 0) :
    ∃ sequence, score.render playing = .ok sequence ∧
      (score.hitCount = 0 → ∀ names, ∃ file, sequence.toMidi names = .ok file ∧
        sequence.encode names = .ok file.bytes ∧ file.finish = 0) ∧
      (score.hitCount ≠ 0 → playing.repeats ≠ 0 →
        score.size * playing.repeats.toNat * playing.resolution.ticks.toNat < 0x10000000000000000 →
        ∃ hits rests last, score.EndsWith hits rests ∧ sequence.events.getLast? = some last ∧
          sequence.length.toNat = last.tick.toNat + (rests * playing.resolution.ticks.toNat +
            Beat.leftOver playing.resolution.ticks.toNat hits) ∧
          ∀ names bytes, sequence.encode names = .ok bytes →
            ∃ file, sequence.toMidi names = .ok file ∧ file.bytes = bytes ∧
              (sequence.Fits names → File.ofBytes? bytes = some file) ∧
              file.finish = last.tick.toNat ∧
              (file.finish = sequence.length.toNat ↔
                rests = 0 ∧ (hits ∣ playing.resolution.ticks.toNat ∨
                  playing.resolution.ticks.toNat < hits))) := by
  have rendered := score.render_eq_ok ne
  obtain ⟨_, ordered⟩ := ordered_of_render rendered
  have pos := playing.resolution.toNat_pos
  refine ⟨_, rendered, ?_, ?_⟩
  · intro silent names
    exact Sequence.exists_file_of_events_eq_nil (schedule_of_hitCount silent _ _) names
  · intro sounds again fits
    rw [Ne, ← UInt32.toNat_inj] at again
    obtain ⟨hits, rests, ends⟩ := exists_endsWith sounds
    obtain ⟨last, hlast, length⟩ := exists_last_schedule ends again (Nat.le_of_lt_succ fits)
    refine ⟨hits, rests, last, ends, hlast, length, ?_⟩
    intro names bytes encoded
    obtain ⟨file, written, rfl⟩ := Sequence.encode_eq_ok encoded
    have finish : file.finish = last.tick.toNat := by
      rw [Sequence.finish_of_toMidi written ordered, hlast]
      rfl
    refine ⟨file, written, rfl, Sequence.ofBytes?_bytes written, finish, ?_⟩
    -- what keeps the file from ending with the sequence: the rests, and what the last hits leave over
    rw [finish, length, ← Beat.leftOver_eq_zero_iff]
    simp [pos.ne']

/-- Two hits that share a beat of seven ticks, followed by a silent beat, twice. -/
private def twoHitsAndRest : Sequence where
  tempo := 120
  resolution := ⟨7, by decide⟩
  length := .ofNat 28
  events := [
    ⟨.start, ⟨.boom, .normal⟩, .ofNat 0⟩, ⟨.start, ⟨.tik, .normal⟩, .ofNat 0⟩,
    ⟨.stop, ⟨.boom, .normal⟩, .ofNat 3⟩, ⟨.stop, ⟨.tik, .normal⟩, .ofNat 6⟩,
    ⟨.start, ⟨.boom, .normal⟩, .ofNat 14⟩, ⟨.start, ⟨.tik, .normal⟩, .ofNat 14⟩,
    ⟨.stop, ⟨.boom, .normal⟩, .ofNat 17⟩, ⟨.stop, ⟨.tik, .normal⟩, .ofNat 20⟩]

theorem render_finish_rest_at_end :
    Score.render ⟨[⟨[⟨.boom, .normal⟩, ⟨.tik, .normal⟩]⟩, ⟨[]⟩]⟩ ⟨120, 2, ⟨7, by decide⟩⟩ =
      .ok twoHitsAndRest ∧
    twoHitsAndRest.length.toNat = 28 ∧
    ∃ bytes file, twoHitsAndRest.encode {} = .ok bytes ∧ File.ofBytes? bytes = some file ∧
      file.finish = 20 := by
  have written : twoHitsAndRest.toMidi {} = .ok ⟨1, 480, [_, _]⟩ := rfl
  have fits : twoHitsAndRest.Fits {} := by
    refine ⟨by decide, by decide, by decide, ?_⟩
    intro file h
    rw [written] at h
    obtain rfl := Except.ok.inj h
    decide +kernel
  obtain ⟨sequence, rendered, _, sounds⟩ := render_finish
    ⟨[⟨[⟨.boom, .normal⟩, ⟨.tik, .normal⟩]⟩, ⟨[]⟩]⟩ ⟨120, 2, ⟨7, by decide⟩⟩ (by decide)
  have same : sequence = twoHitsAndRest := (Except.ok.inj rendered).symm
  subst same
  obtain ⟨_, _, last, _, hlast, _, files⟩ := sounds (by decide) (by decide) (by decide)
  obtain ⟨file, _, _, read, finish, _⟩ := files {} _ rfl
  refine ⟨rendered, rfl, _, file, rfl, read fits, ?_⟩
  rw [finish, ← Option.some.inj hlast]
  rfl

end Score

end Percussion
