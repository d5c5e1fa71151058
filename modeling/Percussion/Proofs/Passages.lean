import Mathlib.Data.List.Basic
import Percussion.Proofs.Schedule

/-!
# Passages

A passage is a row of beats that is played once, from the start of a piece. A performance is the
passage of the beats of its score, written out as often as the score is played
(`Score.schedule_eq_passage`). Two passages in a row are the events of the first and then those of
the second, moved to the end of the first (`passage_append`), also where positions stay at the last
tick.
-/

namespace Percussion

/-- The event `ticks` ticks later. -/
def Event.later (event : Event) (ticks : ℕ) : Event := { event with tick := event.tick.later ticks }

/-- A block that begins later has its events as much later. -/
theorem Beat.block_add (ticks more start : ℕ) (beat : Beat) :
    beat.block ticks (more + start) = (beat.block ticks start).map (·.later more) := by
  have move (tick : ℕ) : (Tick.ofNat tick).later more = Tick.ofNat (more + tick) := by
    rw [Tick.later_ofNat, Nat.add_comm]
  simp [block, Event.later, move, Function.comp_def, Nat.add_assoc]

/-- The events of beats of `ticks` ticks that are played one after the other from the start of a
piece. -/
def passage (ticks : ℕ) (beats : List Beat) : List Event :=
  beats.zipIdx.flatMap fun entry => entry.1.block ticks (entry.2 * ticks)

theorem passage_append (ticks : ℕ) (beats later : List Beat) :
    passage ticks (beats ++ later) =
      passage ticks beats ++ (passage ticks later).map (·.later (beats.length * ticks)) := by
  have moved : (later.zipIdx beats.length).flatMap (fun entry => entry.1.block ticks (entry.2 * ticks))
      = (passage ticks later).map (·.later (beats.length * ticks)) := by
    rw [List.zipIdx_eq_map_add, List.flatMap_map, passage, List.map_flatMap]
    apply List.flatMap_congr
    intro entry _
    rw [← Beat.block_add, ← Nat.add_mul]
  rw [passage, List.zipIdx_append, List.flatMap_append, Nat.zero_add, moved]
  rfl

/-- The block of the last beat comes last. -/
theorem passage_concat (ticks : ℕ) (beats : List Beat) (beat : Beat) :
    passage ticks (beats ++ [beat]) =
      passage ticks beats ++ beat.block ticks (beats.length * ticks) := by
  have block : passage ticks [beat] = beat.block ticks 0 := by
    rw [passage, List.zipIdx_singleton, List.flatMap_singleton, Nat.zero_mul]
  rw [passage_append, block, ← Beat.block_add, Nat.add_zero]

theorem passage_of_silent {beats : List Beat} (silent : ∀ beat ∈ beats, beat.hits = [])
    (ticks : ℕ) : passage ticks beats = [] := by
  rw [passage, List.flatMap_eq_nil_iff]
  intro entry hentry
  exact Beat.block_of_silent (silent _ (List.fst_mem_of_mem_zipIdx hentry)) _ _

namespace Score

/-- The beats of a performance, written out. -/
theorem schedule_eq_passage_map (score : Score) (ticks count : ℕ) :
    score.schedule ticks count = passage ticks ((List.range count).map score.beatAt) := by
  induction count with
  | zero => rfl
  | succ n ih =>
    rw [schedule_succ, ih, List.range_succ, List.map_append, List.map_singleton, passage_concat,
      List.length_map, List.length_range]
    rfl

/-- A performance plays the beats of the score as often as it is repeated. -/
theorem schedule_eq_passage (score : Score) (ticks times : ℕ) :
    score.schedule ticks (times * score.size) =
      passage ticks (List.replicate times score.beats).flatten := by
  rw [schedule_eq_passage_map, map_range_beatAt]

end Score

end Percussion
