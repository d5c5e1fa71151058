import Mathlib.Data.List.GetD
import Mathlib.Tactic.Ring
import Percussion.Sequence.Basic

/-!
# The schedule of a performance

A score that is played over and over is a schedule of blocks, one for each beat, and the block of
beat number `n` can be written down from `n` alone: nothing is carried along from the beats before,
so no rounding error builds up. The player, in contrast, walks through the score with a playhead
whose position stays at the last tick once it has got there. `events_eq_schedule` says that both
give the same events; `Playhead.After` is the invariant of the walk.
-/

namespace Percussion

/-- Two steps from an exact position, the first of which may pass the last tick, are one step. -/
@[simp] theorem Tick.later_ofNat (n m : ℕ) : (Tick.ofNat n).later m = Tick.ofNat (n + m) := by
  ext
  simp only [toNat_later, toNat_ofNat]
  omega

/-! ## Blocks -/

/-- The events of a beat of `ticks` ticks that begins at tick `start`: all starts, then all stops,
both in the order of the hits. A tick past the last position is moved there. -/
def Beat.block (ticks start : ℕ) (beat : Beat) : List Event :=
  beat.hits.map (fun hit => ⟨.start, hit, Tick.ofNat start⟩) ++
    beat.hits.zipIdx.map fun (hit, index) =>
      ⟨.stop, hit,
        Tick.ofNat (start + min ((index + 1) * max (ticks / beat.hits.length) 1) ticks)⟩

/-- Wherever a beat begins, its events are those of its block. -/
theorem Beat.eventsAt_ofNat (ticks start : ℕ) (beat : Beat) :
    beat.eventsAt ticks (Tick.ofNat start) = beat.block ticks start := by
  simp only [eventsAt, block, stopOffset, Tick.later_ofNat]

theorem Beat.block_of_silent {beat : Beat} (silent : beat.hits = []) (ticks start : ℕ) :
    beat.block ticks start = [] := by
  simp only [block, silent, List.map_nil, List.zipIdx_nil, List.append_nil]

/-- A block begins with a start. -/
theorem Beat.exists_block_eq_cons {beat : Beat} (sounds : beat.hits ≠ []) (ticks start : ℕ) :
    ∃ hit later, beat.block ticks start = ⟨.start, hit, Tick.ofNat start⟩ :: later := by
  obtain ⟨hit, hits, hhits⟩ := List.exists_cons_of_ne_nil sounds
  rw [block, hhits, List.map_cons, List.cons_append]
  exact ⟨_, _, rfl⟩

@[simp] theorem Beat.length_eventsAt (ticks : ℕ) (start : Tick) (beat : Beat) :
    (beat.eventsAt ticks start).length = 2 * beat.hits.length := by
  simp only [eventsAt, List.length_append, List.length_map, List.length_zipIdx]
  omega

namespace Score

/-- Beat number `n`, counted from 0, of a score that is played over and over. -/
def beatAt (score : Score) (n : ℕ) : Beat :=
  score.beats.getD (n % score.size) ⟨[]⟩

/-- The events of beat number `n` of a score that is played over and over. -/
def blockAt (score : Score) (ticks n : ℕ) : List Event :=
  (score.beatAt n).block ticks (n * ticks)

/-- The events of the first `count` beats of a score that is played over and over. -/
def schedule (score : Score) (ticks count : ℕ) : List Event :=
  (List.range count).flatMap (score.blockAt ticks)

theorem schedule_succ (score : Score) (ticks n : ℕ) :
    score.schedule ticks (n + 1) = score.schedule ticks n ++ score.blockAt ticks n := by
  rw [schedule, schedule, List.range_succ, List.flatMap_append, List.flatMap_singleton]

/-- The schedule of more beats begins with that of fewer. -/
theorem schedule_prefix_schedule (score : Score) (ticks : ℕ) {n count : ℕ} (h : n ≤ count) :
    score.schedule ticks n <+: score.schedule ticks count := by
  induction count, h using Nat.le_induction with
  | base => exact List.prefix_rfl
  | succ count _ ih =>
    rw [schedule_succ]
    exact ih.trans (List.prefix_append _ _)

/-- Each repeat has the beats of the score. -/
theorem map_beatAt (score : Score) (times : ℕ) :
    (List.range score.size).map (fun i => score.beatAt (times * score.size + i)) =
      score.beats := by
  apply List.ext_getElem
  · rw [List.length_map, List.length_range, size]
  · intro i _ hi
    have hmod : (times * score.size + i) % score.size = i := by
      rw [Nat.mul_add_mod_self_right]
      exact Nat.mod_eq_of_lt hi
    rw [List.getElem_map, List.getElem_range, beatAt, hmod]
    exact List.getD_eq_getElem _ _ hi

/-- Some repeats together have the beats of the score as often. -/
theorem map_range_beatAt (score : Score) (times : ℕ) :
    (List.range (times * score.size)).map score.beatAt =
      (List.replicate times score.beats).flatten := by
  induction times with
  | zero => simp
  | succ times ih =>
    have last := score.map_beatAt times
    rw [Nat.succ_mul, List.range_add, List.map_append, ih, List.replicate_succ',
      List.flatten_append, List.flatten_singleton, List.map_map]
    exact congrArg _ last

end Score

/-! ## The playhead -/

namespace Playhead

/-- After `n` beats the playhead is at the start of beat number `n`, or at the last tick if that
comes first, and what has been played is the schedule up to there. -/
structure After (score : Score) (ticks n : ℕ) (head : Playhead) : Prop where
  position : head.position = Tick.ofNat (n * ticks)
  played : head.played.toList = score.schedule ticks n

variable {score : Score} {ticks n : ℕ} {head : Playhead}

theorem after_initial (score : Score) (ticks : ℕ) : initial.After score ticks 0 := by
  constructor
  · rw [Nat.zero_mul]
    rfl
  · rfl

/-- One beat moves the playhead on by one, also where its position is at the last tick already. -/
theorem After.playBeat (h : head.After score ticks n) :
    (head.playBeat ticks (score.beatAt n)).After score ticks (n + 1) where
  position := by
    simp only [Playhead.playBeat, h.position, Tick.later_ofNat, Nat.succ_mul]
  played := by
    simp only [Playhead.playBeat, Array.toList_appendList, h.played, h.position,
      Beat.eventsAt_ofNat, Score.schedule_succ, Score.blockAt]

/-- Beats that are played one after the other add their blocks. -/
theorem After.playBeats (h : head.After score ticks n) (count : ℕ) :
    (((List.range count).map fun i => score.beatAt (n + i)).foldl
      (Playhead.playBeat ticks) head).After score ticks (n + count) := by
  induction count with
  | zero => exact h
  | succ count ih =>
    rw [List.range_succ, List.map_append, List.foldl_append]
    exact ih.playBeat

/-- A score that is played once more adds the blocks of all its beats. -/
theorem After.playScore {times : ℕ} (h : head.After score ticks (times * score.size)) :
    (head.playScore ticks score).After score ticks ((times + 1) * score.size) := by
  have finish := h.playBeats score.size
  rw [Score.map_beatAt, ← Nat.succ_mul] at finish
  exact finish

/-- The walk goes on from any number of repeats before it. -/
theorem After.playTimes (times : ℕ) {before : ℕ}
    (h : head.After score ticks (before * score.size)) :
    (head.playTimes ticks score times).After score ticks ((before + times) * score.size) := by
  induction times generalizing head before with
  | zero => exact h
  | succ times ih =>
    -- the player takes the first repeat off, so the induction is for every playhead
    have count : before + (times + 1) = before + 1 + times := by omega
    rw [count]
    exact ih h.playScore

/-- From the start of a piece, the walk is through all beats of all repeats. -/
theorem after_playTimes (score : Score) (ticks times : ℕ) :
    (initial.playTimes ticks score times).After score ticks (times * score.size) := by
  have start : initial.After score ticks (0 * score.size) := by
    rw [Nat.zero_mul]
    exact after_initial score ticks
  have finish := start.playTimes times
  rw [Nat.zero_add] at finish
  exact finish

end Playhead

/-! ## The events of a performance -/

namespace Score

/-- A score without hits is silent at every beat. -/
theorem hits_eq_nil_of_hitCount (score : Score) (h : score.hitCount = 0) (n : ℕ) :
    (score.beatAt n).hits = [] := by
  rw [hitCount, List.length_eq_zero_iff, List.flatMap_eq_nil_iff] at h
  rw [beatAt, List.getD_eq_getElem?_getD]
  cases hbeat : score.beats[n % score.size]? with
  | none => rfl
  | some beat =>
    apply h
    exact List.mem_of_getElem? hbeat

theorem beatAt_of_lt {score : Score} {n : ℕ} (h : n < score.size) :
    score.beatAt n = score.beats[n] := by
  rw [beatAt, Nat.mod_eq_of_lt h]
  exact List.getD_eq_getElem _ _ h

/-- Beats come back each time that the score is played. -/
theorem beatAt_add_mul_size (score : Score) (n k : ℕ) :
    score.beatAt (n + k * score.size) = score.beatAt n := by
  rw [beatAt, beatAt, Nat.add_mul_mod_self_right]

/-- A score that is silent at every beat has no hits. -/
theorem hitCount_eq_zero_of_silent {score : Score}
    (silent : ∀ n < score.size, (score.beatAt n).hits = []) : score.hitCount = 0 := by
  rw [hitCount, List.length_eq_zero_iff, List.flatMap_eq_nil_iff]
  intro beat hbeat
  obtain ⟨n, hn, rfl⟩ := List.getElem_of_mem hbeat
  rw [← beatAt_of_lt hn]
  exact silent n hn

/-- The blocks of a score without hits are all empty. -/
theorem schedule_of_hitCount {score : Score} (silent : score.hitCount = 0) (ticks count : ℕ) :
    score.schedule ticks count = [] := by
  rw [schedule, List.flatMap_eq_nil_iff]
  intro n _
  exact Beat.block_of_silent (hits_eq_nil_of_hitCount score silent n) _ _

/-- What the player plays is the schedule. -/
theorem events_eq_schedule (score : Score) (ticks times : ℕ) :
    score.events ticks times = score.schedule ticks (times * score.size) := by
  unfold events
  split
  · -- the player does not walk through a score without hits
    next silent => rw [schedule_of_hitCount silent]
  · exact (Playhead.after_playTimes score ticks times).played

/-- One pass through the score plays the start and the stop of each hit. -/
theorem length_playScore (score : Score) (ticks : ℕ) (head : Playhead) :
    (head.playScore ticks score).played.toList.length =
      head.played.toList.length + 2 * score.hitCount := by
  unfold Playhead.playScore hitCount
  induction score.beats generalizing head with
  | nil => rfl
  | cons beat later ih =>
    rw [List.foldl_cons, ih, List.flatMap_cons, List.length_append, Playhead.playBeat,
      Array.toList_appendList, List.length_append, Beat.length_eventsAt]
    omega

/-- Each hit adds two events each time that the score is played. -/
theorem length_playTimes (score : Score) (ticks times : ℕ) (head : Playhead) :
    (head.playTimes ticks score times).played.toList.length =
      head.played.toList.length + 2 * times * score.hitCount := by
  induction times generalizing head with
  | zero => rw [Playhead.playTimes, Nat.mul_zero, Nat.zero_mul, Nat.add_zero]
  | succ times ih =>
    rw [Playhead.playTimes, ih, length_playScore]
    ring

/-- Every hit of every repeat has two events. -/
theorem length_events (score : Score) (ticks times : ℕ) :
    (score.events ticks times).length = 2 * times * score.hitCount := by
  unfold events
  split
  · next silent => rw [silent, Nat.mul_zero, List.length_nil]
  · rw [length_playTimes]
    exact Nat.zero_add _

/-- A playing at a tempo of at least one quarter note per minute gives a sequence. -/
theorem render_eq_ok (score : Score) {playing : Playing} (h : playing.tempo ≠ 0) :
    score.render playing = .ok {
      tempo := playing.tempo
      resolution := playing.resolution
      length :=
        Tick.ofBeats (score.size * playing.repeats.toNat) playing.resolution.ticks.toNat
      events :=
        score.schedule playing.resolution.ticks.toNat (playing.repeats.toNat * score.size) } := by
  simp only [render, if_neg h, events_eq_schedule]

/-- Nothing is played at tempo 0. -/
theorem tempo_ne_zero_of_render {score : Score} {playing : Playing} {sequence : Sequence}
    (h : score.render playing = .ok sequence) : playing.tempo ≠ 0 := by
  intro zero
  rw [render, if_pos zero] at h
  cases h

/-- **A performance is its schedule.** At tempo 0 nothing can be played. At any other tempo the
events are the blocks of all beats of all repeats in order, each of which starts at its number
times the length of a beat. -/
theorem render_eq_schedule (score : Score) (tempo repeats : UInt32) (resolution : Resolution) :
    score.render ⟨0, repeats, resolution⟩ = .error (.invalidTempo 0) ∧
    (tempo ≠ 0 → ∃ sequence, score.render ⟨tempo, repeats, resolution⟩ = .ok sequence ∧
      sequence.events = (List.range (repeats.toNat * score.size)).flatMap (fun n =>
        (score.beatAt n).block resolution.ticks.toNat (n * resolution.ticks.toNat)) ∧
      sequence.events.length = 2 * repeats.toNat * score.hitCount) := by
  constructor
  · rfl
  · intro h
    refine ⟨_, score.render_eq_ok h, rfl, ?_⟩
    rw [← events_eq_schedule, length_events]

/-- Two hits that share a beat of three ticks, and a silent beat, twice. -/
theorem render_eq_schedule_twice :
    ∃ sequence, Score.render ⟨[⟨[⟨.boom, .normal⟩, ⟨.tik, .accented⟩]⟩, ⟨[]⟩]⟩
        ⟨120, 2, ⟨3, by decide⟩⟩ = .ok sequence ∧
      sequence.events.map (fun event => (event.kind, event.hit.sound, event.tick.toNat)) = [
        (.start, .boom, 0), (.start, .tik, 0), (.stop, .boom, 1), (.stop, .tik, 2),
        (.start, .boom, 6), (.start, .tik, 6), (.stop, .boom, 7), (.stop, .tik, 8)] := by
  obtain ⟨sequence, rendered, schedule, _⟩ := (render_eq_schedule
    ⟨[⟨[⟨.boom, .normal⟩, ⟨.tik, .accented⟩]⟩, ⟨[]⟩]⟩ 120 2 ⟨3, by decide⟩).2 (by decide)
  refine ⟨sequence, rendered, ?_⟩
  rw [schedule]
  decide

end Score

end Percussion
