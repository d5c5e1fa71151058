import Mathlib.Data.List.Infix
import Mathlib.Data.List.MinMax
import Percussion.Proofs.Schedule

/-!
# Notes that are open

A hit is open from its start to its stop. In a performance hits stop in the order in which they
have started, and all hits of a beat have stopped before the next beat begins. So in every prefix
of the events the hits that have stopped are the first of those that have started, and the others
are hits of one beat (`InTurn`). One beat keeps this up (`Beat.inTurn_of_prefix_block`), and with it
the whole performance does (`Score.inTurn_of_prefix_schedule`).
-/

namespace Percussion

/-- The hits of the events of a kind, in order. -/
def hitsOf (kind : EventKind) (events : List Event) : List Hit :=
  (events.filter fun event => event.kind = kind).map (·.hit)

/-- The hits that have stopped are the first of those that have started, and at most `bound` others
are open. -/
structure InTurn (bound : ℕ) (events : List Event) : Prop where
  stopped : hitsOf .stop events <+: hitsOf .start events
  still : (hitsOf .start events).length ≤ (hitsOf .stop events).length + bound

theorem hitsOf_append (kind : EventKind) (events later : List Event) :
    hitsOf kind (events ++ later) = hitsOf kind events ++ hitsOf kind later := by
  rw [hitsOf, List.filter_append, List.map_append, hitsOf, hitsOf]

theorem hitsOf_of_kind {kind : EventKind} {events : List Event}
    (same : ∀ event ∈ events, event.kind = kind) : hitsOf kind events = events.map (·.hit) := by
  rw [hitsOf, List.filter_eq_self.mpr]
  simpa using same

theorem hitsOf_eq_nil {kind : EventKind} {events : List Event}
    (other : ∀ event ∈ events, event.kind ≠ kind) : hitsOf kind events = [] := by
  rw [hitsOf, List.filter_eq_nil_iff.mpr, List.map_nil]
  simpa using other

/-- A prefix of two lists in a row ends in the first or goes on in the second. -/
theorem prefix_append_cases {α : Type} {before first second : List α}
    (h : before <+: first ++ second) :
    before <+: first ∨ ∃ part, part <+: second ∧ before = first ++ part := by
  rcases List.prefix_or_prefix_of_prefix h (List.prefix_append first second) with inside | beyond
  · exact .inl inside
  · obtain ⟨part, rfl⟩ := beyond
    exact .inr ⟨part, (List.prefix_append_right_inj first).mp h, rfl⟩

/-- After events that have stopped every hit, others can go on. -/
theorem InTurn.append {bound : ℕ} {events later : List Event}
    (closed : hitsOf .stop events = hitsOf .start events) (h : InTurn bound later) :
    InTurn bound (events ++ later) where
  stopped := by
    rw [hitsOf_append, hitsOf_append, closed, List.prefix_append_right_inj]
    exact h.stopped
  still := by
    have still := h.still
    simp only [hitsOf_append, closed, List.length_append]
    omega

/-- Turns that keep a bound keep a higher one. -/
theorem InTurn.mono {bound higher : ℕ} {events : List Event} (h : InTurn bound events)
    (le : bound ≤ higher) : InTurn higher events where
  stopped := h.stopped
  still := h.still.trans (Nat.add_le_add_left le _)

/-! ## One beat -/

section StartsAndStops

variable {starts stops : List Event} (start : ∀ event ∈ starts, event.kind = .start)
  (stop : ∀ event ∈ stops, event.kind = .stop)

include start stop

theorem hitsOf_start_append : hitsOf .start (starts ++ stops) = starts.map (·.hit) := by
  rw [hitsOf_append, hitsOf_of_kind start, hitsOf_eq_nil, List.append_nil]
  intro event hevent
  simp [stop event hevent]

theorem hitsOf_stop_append : hitsOf .stop (starts ++ stops) = stops.map (·.hit) := by
  rw [hitsOf_append, hitsOf_of_kind stop, hitsOf_eq_nil, List.nil_append]
  intro event hevent
  simp [start event hevent]

/-- Any number of starts, and then stops of the first of the hits that have started. -/
theorem inTurn_append (order : stops.map (·.hit) <+: starts.map (·.hit)) :
    InTurn starts.length (starts ++ stops) where
  stopped := by
    rwa [hitsOf_start_append start stop, hitsOf_stop_append start stop]
  still := by
    rw [hitsOf_start_append start stop, List.length_map]
    exact Nat.le_add_left _ _

end StartsAndStops

namespace Beat

/-- A block is the starts of the hits of its beat, and then their stops in the same order. -/
theorem exists_block_eq (ticks start : ℕ) (beat : Beat) :
    ∃ starts stops, beat.block ticks start = starts ++ stops ∧
      (∀ event ∈ starts, event.kind = .start) ∧ (∀ event ∈ stops, event.kind = .stop) ∧
      starts.map (·.hit) = beat.hits ∧ stops.map (·.hit) = beat.hits := by
  refine ⟨_, _, rfl, by simp, ?_, ?_, ?_⟩
  · intro event hevent
    obtain ⟨_, _, rfl⟩ := List.mem_map.mp hevent
    rfl
  · rw [List.map_map]
    exact List.map_id _
  · rw [List.map_map]
    exact List.zipIdx_map_fst _ _

variable {ticks start : ℕ} {beat : Beat}

/-- In a beat each hit starts once and stops once, in the same order. -/
theorem hitsOf_block (kind : EventKind) (ticks start : ℕ) (beat : Beat) :
    hitsOf kind (beat.block ticks start) = beat.hits := by
  obtain ⟨starts, stops, block, start, stop, started, stopped⟩ := beat.exists_block_eq ticks start
  rw [block]
  cases kind with
  | start => rw [hitsOf_start_append start stop, started]
  | stop => rw [hitsOf_stop_append start stop, stopped]

/-- Up to any event of a block, no more hits are open than its beat has. -/
theorem inTurn_of_prefix_block {before : List Event} (h : before <+: beat.block ticks start) :
    InTurn beat.hits.length before := by
  obtain ⟨starts, stops, block, start, stop, started, stopped⟩ := beat.exists_block_eq ticks start
  rw [block] at h
  rw [← started, List.length_map]
  -- up to there, hits only start; or all have started and some have stopped
  rcases prefix_append_cases h with inside | ⟨part, inside, rfl⟩
  · have some : ∀ event ∈ before, event.kind = .start := fun event hevent =>
      start event (inside.subset hevent)
    have turn := inTurn_append some (List.forall_mem_nil _) (List.nil_prefix ..)
    rw [List.append_nil] at turn
    exact turn.mono inside.length_le
  · have some : ∀ event ∈ part, event.kind = .stop := fun event hevent =>
      stop event (inside.subset hevent)
    apply inTurn_append start some
    rw [started, ← stopped]
    exact inside.map _

end Beat

/-! ## The whole performance -/

namespace Score

variable {score : Score} {ticks : ℕ}

/-- The number of hits of the largest beat. -/
def mostHits (score : Score) : ℕ := (score.beats.map (·.hits.length)).foldr max 0

/-- No beat has more hits than the largest. -/
theorem length_hits_beatAt_le (score : Score) (n : ℕ) :
    (score.beatAt n).hits.length ≤ score.mostHits := by
  rw [beatAt, List.getD_eq_getElem?_getD]
  cases hbeat : score.beats[n % score.size]? with
  | none => exact Nat.zero_le _
  | some beat =>
    exact List.le_max_of_le (List.mem_map_of_mem (List.mem_of_getElem? hbeat)) le_rfl

/-- The hits that start, and those that stop, are those of the beats, in the same order. -/
theorem hitsOf_schedule (kind : EventKind) (score : Score) (ticks count : ℕ) :
    hitsOf kind (score.schedule ticks count) =
      (List.range count).flatMap fun n => (score.beatAt n).hits := by
  induction count with
  | zero => rfl
  | succ n ih =>
    rw [schedule_succ, hitsOf_append, ih, blockAt, Beat.hitsOf_block, List.range_succ,
      List.flatMap_append, List.flatMap_singleton]

/-- Before each beat every hit that has started has stopped. -/
theorem hitsOf_stop_schedule (score : Score) (ticks count : ℕ) :
    hitsOf .stop (score.schedule ticks count) = hitsOf .start (score.schedule ticks count) := by
  rw [hitsOf_schedule, hitsOf_schedule]

/-- Each repeat has the hits of the score. -/
theorem flatMap_hits_beatAt (score : Score) (times : ℕ) :
    (List.range (times * score.size)).flatMap (fun n => (score.beatAt n).hits) =
      (List.replicate times (score.beats.flatMap (·.hits))).flatten := by
  rw [← List.flatMap_map, map_range_beatAt, List.flatMap_def, List.map_flatten, List.map_replicate,
    List.flatMap_def, List.flatten_flatten, List.map_replicate]

/-- A hit is played as often as it occurs in the score, each time that the score is played. -/
theorem count_hitsOf_schedule (kind : EventKind) (score : Score) (ticks times : ℕ) (hit : Hit) :
    (hitsOf kind (score.schedule ticks (times * score.size))).count hit =
      times * (score.beats.flatMap (·.hits)).count hit := by
  rw [hitsOf_schedule, flatMap_hits_beatAt, List.count_flatten, List.map_replicate,
    List.sum_replicate_nat]

/-- Up to any event of a performance, the hits that are open are hits of one beat. -/
theorem inTurn_of_prefix_schedule {count : ℕ} {before : List Event}
    (h : before <+: score.schedule ticks count) : InTurn score.mostHits before := by
  induction count with
  | zero =>
    rw [List.prefix_nil.mp h]
    exact ⟨List.prefix_rfl, Nat.zero_le _⟩
  | succ n ih =>
    rw [schedule_succ] at h
    rcases prefix_append_cases h with earlier | ⟨part, inside, rfl⟩
    · exact ih earlier
    · have turn := Beat.inTurn_of_prefix_block inside
      exact (turn.mono (score.length_hits_beatAt_le n)).append (score.hitsOf_stop_schedule ticks n)

/-- **No note hangs, and none is stopped before it starts.** Up to any event of a performance, each
hit has stopped at most as often as it has started, and no more notes are open than the largest beat
has hits. Before each beat, and at the end, each hit has stopped as often as it has started; in all
it does so as often as it stands in the score, times the repeats. -/
theorem render_closes_notes (score : Score) (playing : Playing) (h : playing.tempo ≠ 0) :
    ∃ sequence, score.render playing = .ok sequence ∧
      (∀ before, before <+: sequence.events →
        (∀ hit, (hitsOf .stop before).count hit ≤ (hitsOf .start before).count hit) ∧
        (hitsOf .start before).length - (hitsOf .stop before).length ≤ score.mostHits) ∧
      sequence.events = score.schedule playing.resolution.ticks.toNat
        (playing.repeats.toNat * score.size) ∧
      (∀ n ≤ playing.repeats.toNat * score.size,
        score.schedule playing.resolution.ticks.toNat n <+: sequence.events ∧
        ∀ hit, (hitsOf .stop (score.schedule playing.resolution.ticks.toNat n)).count hit =
          (hitsOf .start (score.schedule playing.resolution.ticks.toNat n)).count hit) ∧
      ∀ kind hit, (hitsOf kind sequence.events).count hit =
        playing.repeats.toNat * (score.beats.flatMap (·.hits)).count hit := by
  refine ⟨_, score.render_eq_ok h, ?_, rfl, ?_, ?_⟩
  · intro before hbefore
    have turn := inTurn_of_prefix_schedule hbefore
    refine ⟨fun hit => turn.stopped.sublist.count_le hit, ?_⟩
    rw [Nat.sub_le_iff_le_add']
    exact turn.still
  · intro n hn
    refine ⟨score.schedule_prefix_schedule _ hn, fun hit => ?_⟩
    rw [hitsOf_stop_schedule]
  · intro kind hit
    exact count_hitsOf_schedule kind score _ _ hit

/-- One sound twice at one volume and once at the other in a beat of three ticks, and a silent beat,
twice. -/
theorem render_closes_notes_same_sound :
    ∃ sequence, Score.render
        ⟨[⟨[⟨.boom, .normal⟩, ⟨.boom, .accented⟩, ⟨.boom, .normal⟩]⟩, ⟨[]⟩]⟩
        ⟨120, 2, ⟨3, by decide⟩⟩ = .ok sequence ∧
      sequence.events.map (fun event => (event.kind, event.hit.volume, event.tick.toNat)) = [
        (.start, .normal, 0), (.start, .accented, 0), (.start, .normal, 0),
        (.stop, .normal, 1), (.stop, .accented, 2), (.stop, .normal, 3),
        (.start, .normal, 6), (.start, .accented, 6), (.start, .normal, 6),
        (.stop, .normal, 7), (.stop, .accented, 8), (.stop, .normal, 9)] ∧
      (hitsOf .stop sequence.events).count ⟨.boom, .normal⟩ = 4 ∧
      ∀ before, before <+: sequence.events →
        (hitsOf .start before).length - (hitsOf .stop before).length ≤ 3 := by
  obtain ⟨sequence, rendered, open', events, _, total⟩ := render_closes_notes
    ⟨[⟨[⟨.boom, .normal⟩, ⟨.boom, .accented⟩, ⟨.boom, .normal⟩]⟩, ⟨[]⟩]⟩
    ⟨120, 2, ⟨3, by decide⟩⟩ (by decide)
  refine ⟨sequence, rendered, ?_, total .stop ⟨.boom, .normal⟩, fun before h => (open' before h).2⟩
  rw [events]
  decide

end Score

end Percussion
