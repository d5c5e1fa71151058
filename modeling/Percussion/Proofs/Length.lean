import Percussion.Proofs.Order
import Percussion.Proofs.Passages

/-!
# The length of a performance

The length of a sequence is a product that is computed apart from its events: beats, repeats and
ticks, each product cut off at the last position. It is still the position that the playhead
reaches after the last beat (`Playhead.position_playTimes`), because positions that are cut off stay
cut off (`Tick.later_cut`, `Tick.ofBeats_cut`). So one more beat, and one more repeat, goes on from
there (`Score.render_length`).
-/

namespace Percussion

/-! ## Positions that are cut off -/

namespace Tick

/-- A distance can be cut off at the last position before it is added. -/
theorem later_cut (t : Tick) (n : ℕ) : t.later (ofNat n).toNat = t.later n := by
  ext
  simp only [toNat_later, toNat_ofNat]
  omega

/-- A number of beats can be cut off at the last position before it is multiplied. -/
theorem ofBeats_cut {ticks : ℕ} (pos : 0 < ticks) (count : ℕ) :
    ofBeats (ofNat count).toNat ticks = ofBeats count ticks := by
  ext
  unfold ofBeats
  simp only [toNat_ofNat]
  by_cases fits : count ≤ last
  · rw [Nat.min_eq_left fits]
  · -- each of the two products is past the last position
    have beyond : last ≤ count := by omega
    have first : last ≤ last * ticks := Nat.le_mul_of_pos_right last pos
    have second : last ≤ count * ticks := beyond.trans (Nat.le_mul_of_pos_right count pos)
    rw [Nat.min_eq_right beyond]
    omega

end Tick

theorem Event.later_cut (event : Event) (n : ℕ) :
    event.later (Tick.ofNat n).toNat = event.later n := by
  unfold Event.later
  rw [Tick.later_cut]

/-! ## The end of a walk -/

namespace Playhead

/-- After the last beat of the last repeat the playhead is at the length of the performance. -/
theorem position_playTimes (score : Score) (ticks times : ℕ) :
    (initial.playTimes ticks score times).position = Tick.ofBeats (score.size * times) ticks := by
  rw [(after_playTimes score ticks times).position, Nat.mul_comm times]
  rfl

end Playhead

/-! ## What goes on from the end -/

namespace Score

/-- No event of a schedule is after the end of its last beat. -/
theorem toNat_tick_le_of_mem_schedule {score : Score} {ticks count : ℕ} {event : Event}
    (h : event ∈ score.schedule ticks count) :
    event.tick.toNat ≤ (Tick.ofNat (count * ticks)).toNat := by
  unfold schedule at h
  rw [List.mem_flatMap] at h
  obtain ⟨n, hn, hevent⟩ := h
  rw [List.mem_range] at hn
  have ends : n * ticks + ticks ≤ count * ticks := by
    rw [← Nat.succ_mul]
    exact Nat.mul_le_mul_right ticks hn
  calc event.tick.toNat
      ≤ (Tick.ofNat (n * ticks + ticks)).toNat := (Beat.tick_mem_block hevent).2
    _ ≤ (Tick.ofNat (count * ticks)).toNat := Tick.ofNat_mono ends

/-- One more repeat is the first one, later by all repeats before it. -/
theorem schedule_succ_mul (score : Score) (ticks times : ℕ) :
    score.schedule ticks ((times + 1) * score.size) =
      score.schedule ticks (times * score.size) ++
        (score.schedule ticks (1 * score.size)).map (·.later (score.size * times * ticks)) := by
  have length : (List.replicate times score.beats).flatten.length = score.size * times := by
    rw [List.length_flatten, List.map_replicate, List.sum_replicate_nat, Nat.mul_comm, size]
  have once : (List.replicate 1 score.beats).flatten = score.beats := List.append_nil _
  rw [schedule_eq_passage, schedule_eq_passage, schedule_eq_passage, List.replicate_succ',
    List.flatten_append, List.flatten_singleton, passage_append, length, once]

/-- One more beat at the end of a score begins where the score has ended, with its starts. -/
theorem exists_schedule_concat (score : Score) (beat : Beat) (ticks : ℕ) :
    ∃ stops, schedule ⟨score.beats ++ [beat]⟩ ticks (1 * size ⟨score.beats ++ [beat]⟩) =
        score.schedule ticks (1 * score.size) ++
          beat.hits.map (fun hit => ⟨.start, hit, Tick.ofBeats (score.size * 1) ticks⟩) ++ stops ∧
      ∀ event ∈ stops, event.kind = .stop := by
  have once (beats : List Beat) : (List.replicate 1 beats).flatten = beats := List.append_nil _
  have length : Tick.ofBeats (score.size * 1) ticks = Tick.ofNat (score.beats.length * ticks) := by
    rw [Nat.mul_one]
    rfl
  rw [schedule_eq_passage, schedule_eq_passage, once, once, passage_concat, length, Beat.block,
    ← List.append_assoc]
  refine ⟨_, rfl, ?_⟩
  intro event hevent
  obtain ⟨_, _, rfl⟩ := List.mem_map.mp hevent
  rfl

/-- **A performance ends where its playhead stops.** The length of a sequence is the number of its
beats times their ticks, up to the last position, whether or not the number of beats is cut off
there first. The playhead that has played the events is at that position, and no event is after it.
Played once, a score with one more beat starts that beat at the length of the score without it; and
one more repeat has the events of the first, later by the length of the repeats before it. -/
theorem render_length (score : Score) (playing : Playing) (ne : playing.tempo ≠ 0) :
    ∃ sequence once, score.render playing = .ok sequence ∧
      score.render { playing with repeats := 1 } = .ok once ∧
      sequence.length.toNat =
        min (score.size * playing.repeats.toNat * playing.resolution.ticks.toNat)
          0xFFFFFFFFFFFFFFFF ∧
      sequence.length = Tick.ofBeats
        (Tick.ofNat (score.size * playing.repeats.toNat)).toNat playing.resolution.ticks.toNat ∧
      (∃ finish, Playhead.initial.playTimes playing.resolution.ticks.toNat score
          playing.repeats.toNat = finish ∧
        finish.position = sequence.length ∧ finish.played.toList = sequence.events) ∧
      (∀ event ∈ sequence.events, event.tick.toNat ≤ sequence.length.toNat) ∧
      (∀ beat : Beat, ∃ longer stops,
        Score.render ⟨score.beats ++ [beat]⟩ { playing with repeats := 1 } = .ok longer ∧
        longer.events = once.events ++
          beat.hits.map (fun hit => ⟨.start, hit, once.length⟩) ++ stops ∧
        ∀ event ∈ stops, event.kind = .stop) ∧
      ∀ next : UInt32, next.toNat = playing.repeats.toNat + 1 →
        ∃ longer, score.render { playing with repeats := next } = .ok longer ∧
          longer.events = sequence.events ++ once.events.map (·.later sequence.length.toNat) := by
  have pos := playing.resolution.toNat_pos
  refine ⟨_, _, score.render_eq_ok ne, @render_eq_ok score { playing with repeats := 1 } ne, rfl,
    ?_, ?_, ?_, ?_, ?_⟩
  · exact (Tick.ofBeats_cut pos _).symm
  · refine ⟨_, rfl, ?_, ?_⟩
    · exact Playhead.position_playTimes score _ _
    · exact (Playhead.after_playTimes score _ _).played
  · intro event hevent
    have ends := toNat_tick_le_of_mem_schedule hevent
    rw [Nat.mul_comm playing.repeats.toNat] at ends
    exact ends
  · intro beat
    obtain ⟨stops, schedule, stop⟩ :=
      score.exists_schedule_concat beat playing.resolution.ticks.toNat
    exact ⟨_, stops, @render_eq_ok ⟨score.beats ++ [beat]⟩ { playing with repeats := 1 } ne,
      schedule, stop⟩
  -- one repeat more is the schedule of one score, moved by the length of all before it
  · intro next hnext
    refine ⟨_, @render_eq_ok score { playing with repeats := next } ne, ?_⟩
    show score.schedule _ (next.toNat * score.size) = _
    rw [hnext, schedule_succ_mul]
    simp only [Tick.ofBeats, Event.later_cut]
    rfl

/-- Played so often that there are no positions left, a score of two beats has its last repeat at
the last position. -/
theorem render_length_at_the_limit :
    ∃ sequence longer once,
      Score.render ⟨[⟨[⟨.boom, .normal⟩]⟩, ⟨[]⟩]⟩ ⟨120, 4294967294, ⟨4294967295, by decide⟩⟩ =
        .ok sequence ∧
      Score.render ⟨[⟨[⟨.boom, .normal⟩]⟩, ⟨[]⟩]⟩ ⟨120, 4294967295, ⟨4294967295, by decide⟩⟩ =
        .ok longer ∧
      Score.render ⟨[⟨[⟨.boom, .normal⟩]⟩, ⟨[]⟩]⟩ ⟨120, 1, ⟨4294967295, by decide⟩⟩ = .ok once ∧
      sequence.length.toNat = 0xFFFFFFFFFFFFFFFF ∧
      (∀ event ∈ sequence.events, event.tick.toNat ≤ 0xFFFFFFFFFFFFFFFF) ∧
      longer.events = sequence.events ++ once.events.map (·.later 0xFFFFFFFFFFFFFFFF) := by
  obtain ⟨sequence, once, rendered, rendered_once, length, _, _, inside, _, again⟩ :=
    render_length ⟨[⟨[⟨.boom, .normal⟩]⟩, ⟨[]⟩]⟩ ⟨120, 4294967294, ⟨4294967295, by decide⟩⟩
      (by decide)
  have limit : sequence.length.toNat = 0xFFFFFFFFFFFFFFFF := by
    rw [length]
    decide
  obtain ⟨longer, rendered_longer, events⟩ := again 4294967295 (by decide)
  rw [limit] at inside events
  exact ⟨sequence, longer, once, rendered, rendered_longer, rendered_once, limit, inside, events⟩

end Score

end Percussion
