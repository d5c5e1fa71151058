import Percussion.Proofs.Playback

/-!
# Gaps between events

The only reason why a sequence has no file is a gap between two of its events that is too wide,
and of several such gaps the first is the error (`Sequence.encode_eq`). In a performance gaps come
from silence: no gap is wider than the longest run of silent beats and the beat before it
(`Score.le_of_mem_deltas`). A score that is not too long has no gaps that are too wide, however
often it is played (`Score.wideGap?_schedule`).
-/

namespace Percussion

/-! ## The first gap that is too wide -/

namespace Midi

/-- The first distance between events that is too wide for a quantity of variable length. -/
def wideGap? (events : List Event) : Option ℕ :=
  (deltas events).find? fun delta => maxQuantity < delta

/-- The note for an event at a given distance. -/
private def noteOfPair (pair : ℕ × Event) : Except MidiError TrackEvent :=
  TrackEvent.ofEvent pair.1 pair.2

/-- The notes for events at given distances, or the first distance that is too wide. -/
theorem mapM_ofEvent (pairs : List (ℕ × Event)) :
    pairs.mapM noteOfPair =
      match (pairs.map Prod.fst).find? fun delta => maxQuantity < delta with
      | some delta => .error (.tickOverflow delta)
      | none => .ok (pairs.map fun pair => ⟨pair.1, .ofEvent pair.2⟩) := by
  induction pairs with
  | nil => rfl
  | cons pair pairs ih =>
    rw [List.map_cons, List.find?_cons]
    by_cases wide : maxQuantity < pair.1
    · have first : noteOfPair pair = .error (.tickOverflow pair.1) := by
        rw [noteOfPair, TrackEvent.ofEvent, if_pos wide]
      rw [mapM_cons_of_error first]
      simp only [wide, decide_true]
    · have first : noteOfPair pair = .ok ⟨pair.1, .ofEvent pair.2⟩ := by
        rw [noteOfPair, TrackEvent.ofEvent, if_neg wide]
      rw [mapM_cons_of_ok first, ih]
      simp only [wide, decide_false]
      cases (pairs.map Prod.fst).find? fun delta => maxQuantity < delta with
      | none => rfl
      | some _ => rfl

theorem length_deltas (events : List Event) : (deltas events).length = events.length := by
  simp [deltas]

/-- A sequence has its notes unless a gap is too wide; the first that is becomes the error. -/
theorem notes_eq (events : List Event) :
    notes events = match wideGap? events with
      | some delta => .error (.tickOverflow delta)
      | none => .ok (notesAfter Tick.zero events) := by
  have distances : ((deltas events).zip events).map Prod.fst = deltas events :=
    List.map_fst_zip (length_deltas events).le
  have track : ((deltas events).zip events).map (fun pair =>
      (⟨pair.1, .ofEvent pair.2⟩ : TrackEvent)) = notesAfter Tick.zero events := by
    rw [List.zip, List.map_zipWith]
    rfl
  have all := mapM_ofEvent ((deltas events).zip events)
  rw [distances, track] at all
  exact all

end Midi

/-- A sequence has a file unless there is a gap that is too wide. -/
theorem Sequence.encode_eq (sequence : Sequence) (names : Names) :
    sequence.encode names = match Midi.wideGap? sequence.events with
      | some delta => .error (.tickOverflow delta)
      | none => .ok (Midi.File.bytes ⟨1, 480, [Midi.metadataTrack sequence.tempo names,
          Midi.percussionTrack (Midi.notesAfter Tick.zero sequence.events) names]⟩) := by
  rw [encode, toMidi, Midi.notes_eq]
  cases Midi.wideGap? sequence.events with
  | none => rfl
  | some _ => rfl

/-! ## The last event before a beat -/

namespace Midi

/-- The tick of the last event, or `previous` if there is none. -/
def lastTick (previous : Tick) (events : List Event) : Tick :=
  events.foldl (fun _ event => event.tick) previous

theorem deltasAfter_cons (previous : Tick) (event : Event) (later : List Event) :
    deltasAfter previous (event :: later) =
      event.tick.since previous :: deltasAfter event.tick later := rfl

/-- The distances of later events are counted on from the last one before them. -/
theorem deltasAfter_append (previous : Tick) (events later : List Event) :
    deltasAfter previous (events ++ later) =
      deltasAfter previous events ++ deltasAfter (lastTick previous events) later := by
  induction events generalizing previous with
  | nil => rfl
  | cons event events ih =>
    rw [List.cons_append, deltasAfter_cons, deltasAfter_cons, ih]
    rfl

/-- Between ticks of a range no distance is wider than the range. -/
theorem deltasAfter_le {low high : ℕ} {previous : Tick} {events : List Event}
    (start : low ≤ previous.toNat)
    (range : ∀ event ∈ events, low ≤ event.tick.toNat ∧ event.tick.toNat ≤ high) :
    ∀ delta ∈ deltasAfter previous events, delta ≤ high - low := by
  induction events generalizing previous with
  | nil => nofun
  | cons event later ih =>
    rw [List.forall_mem_cons] at range
    obtain ⟨⟨above, below⟩, range⟩ := range
    rw [deltasAfter_cons, List.forall_mem_cons]
    refine ⟨?_, ih above range⟩
    rw [Tick.since]
    omega

/-- Where there are events, the last of them is where they end. -/
theorem lastTick_of_getLast? {events : List Event} {last : Event}
    (h : events.getLast? = some last) (previous : Tick) : lastTick previous events = last.tick := by
  obtain ⟨before, rfl⟩ := List.getLast?_eq_some_iff.mp h
  rw [lastTick, List.foldl_append]
  rfl

theorem lastTick_append (previous : Tick) (events later : List Event) :
    lastTick previous (events ++ later) = lastTick (lastTick previous events) later :=
  List.foldl_append ..

end Midi

namespace Beat

variable {ticks start : ℕ} {beat : Beat}

/-- A block begins with a start, and from there on no distance is wider than the beat. -/
theorem deltasAfter_block (sounds : beat.hits ≠ []) (previous : Tick) :
    ∀ delta ∈ Midi.deltasAfter previous (beat.block ticks start),
      delta ≤ max ((Tick.ofNat start).since previous) ticks := by
  have range := @tick_mem_block ticks start beat
  obtain ⟨hit, later, hlater⟩ := exists_block_eq_cons sounds ticks start
  rw [hlater, Midi.deltasAfter_cons, List.forall_mem_cons]
  refine ⟨le_max_left _ _, ?_⟩
  intro delta hdelta
  have inside : ∀ event ∈ later, (Tick.ofNat start).toNat ≤ event.tick.toNat ∧
      event.tick.toNat ≤ (Tick.ofNat (start + ticks)).toNat := by
    intro event hevent
    apply range
    rw [hlater]
    exact List.mem_cons_of_mem _ hevent
  have narrow := Midi.deltasAfter_le le_rfl inside delta hdelta
  simp only [Tick.toNat_ofNat] at narrow
  omega

/-- A block ends with a stop. -/
theorem lastTick_block (pos : 0 < ticks) (sounds : beat.hits ≠ []) (start : ℕ)
    (previous : Tick) :
    ∃ offset, 0 < offset ∧ offset ≤ ticks ∧
      Midi.lastTick previous (beat.block ticks start) = Tick.ofNat (start + offset) := by
  obtain ⟨hit, last⟩ := exists_getLast?_block sounds ticks start
  exact ⟨_, stopOffset_pos pos _ _, stopOffset_le _ _ _, Midi.lastTick_of_getLast? last previous⟩

end Beat

namespace Score

/-- When beat number `n` of a performance begins, all beats from number `resumed` on have been
silent, and the last event was at tick `reached`, in the beat before these. -/
structure SilentSince (score : Score) (ticks n resumed reached : ℕ) : Prop where
  le : resumed ≤ n
  silent : ∀ i, resumed ≤ i → i < n → (score.beatAt i).hits = []
  lastTick : Midi.lastTick Tick.zero (score.schedule ticks n) = Tick.ofNat reached
  after : resumed * ticks < reached + ticks
  before : reached ≤ resumed * ticks

variable {score : Score} {ticks : ℕ}

theorem blockAt_eq_nil {n : ℕ} (silent : (score.beatAt n).hits = []) :
    score.blockAt ticks n = [] :=
  Beat.block_of_silent silent _ _

/-- At each beat there has been silence since some beat before it, or since the start. -/
theorem exists_silentSince (score : Score) (pos : 0 < ticks) (n : ℕ) :
    ∃ resumed reached, score.SilentSince ticks n resumed reached := by
  induction n with
  | zero =>
    refine ⟨0, 0, le_rfl, nofun, rfl, ?_, ?_⟩
    · omega
    · exact Nat.zero_le _
  | succ n ih =>
    obtain ⟨resumed, reached, h⟩ := ih
    by_cases silent : (score.beatAt n).hits = []
    · -- a silent beat has no events, and the silence goes on
      refine ⟨resumed, reached, Nat.le_succ_of_le h.le, ?_, ?_, h.after, h.before⟩
      · intro i hresumed hi
        by_cases new : i = n
        · rw [new, silent]
        · exact h.silent i hresumed (by omega)
      · rw [schedule_succ, blockAt_eq_nil silent, List.append_nil, h.lastTick]
    -- a hit ends the silence, and its stop is the last event before the next one
    · obtain ⟨offset, hpos, hle, hlast⟩ := Beat.lastTick_block pos silent (n * ticks)
        (Midi.lastTick Tick.zero (score.schedule ticks n))
      refine ⟨n + 1, n * ticks + offset, le_rfl, ?_, ?_, ?_, ?_⟩
      · intro i hresumed hi
        omega
      · rw [schedule_succ, Midi.lastTick_append]
        exact hlast
      · rw [Nat.succ_mul]
        omega
      · rw [Nat.succ_mul]
        omega

/-- If fewer than `bound` silent beats follow each other before each beat of a performance, no gap
is wider than `bound` beats. -/
theorem le_of_mem_deltas (score : Score) (pos : 0 < ticks) {count bound : ℕ}
    (short : ∀ start length, start + length < count →
      (∀ i < length, (score.beatAt (start + i)).hits = []) → length < bound) :
    ∀ delta ∈ Midi.deltas (score.schedule ticks count), delta ≤ bound * ticks := by
  have deltas (n : ℕ) : Midi.deltas (score.schedule ticks n) =
      Midi.deltasAfter Tick.zero (score.schedule ticks n) := rfl
  induction count with
  | zero => nofun
  | succ count ih =>
    have earlier := ih fun start length hlength => short start length (by omega)
    obtain ⟨resumed, reached, h⟩ := score.exists_silentSince pos count
    by_cases silent : (score.beatAt count).hits = []
    · rwa [schedule_succ, blockAt_eq_nil silent, List.append_nil]
    rw [deltas, schedule_succ, Midi.deltasAfter_append, h.lastTick, List.forall_mem_append]
    refine ⟨earlier, ?_⟩
    intro delta hdelta
    have narrow := Beat.deltasAfter_block silent _ delta hdelta
    -- the run of silence before the beat takes fewer than `bound` beats
    have run : count - resumed < bound := by
      have hle := h.le
      apply short resumed
      · omega
      · intro i hi
        exact h.silent _ (by omega) (by omega)
    have wide : count * ticks - reached ≤ bound * ticks := by
      have hle : (count + 1) * ticks ≤ (bound + resumed) * ticks :=
        Nat.mul_le_mul_right ticks (by omega)
      have hafter := h.after
      rw [Nat.succ_mul, Nat.add_mul] at hle
      omega
    have beat : ticks ≤ bound * ticks := Nat.le_mul_of_pos_left ticks (by omega)
    have since : (Tick.ofNat (count * ticks)).since (Tick.ofNat reached) ≤
        count * ticks - reached := by
      simp only [Tick.since, Tick.toNat_ofNat]
      omega
    omega

/-! ## Gaps and the length of a score -/

/-- Among as many beats in a row as the score has, each beat of it comes up. -/
theorem exists_add_eq_add_mul_size {n : ℕ} (h : n < score.size) (start : ℕ) :
    ∃ i < score.size, ∃ k, start + i = n + k * score.size := by
  have division := Nat.div_add_mod start score.size
  have remainder := Nat.mod_lt start (Nat.zero_lt_of_lt h)
  rw [Nat.mul_comm] at division
  by_cases ahead : start % score.size ≤ n
  · refine ⟨n - start % score.size, by omega, start / score.size, ?_⟩
    omega
  · refine ⟨n + score.size - start % score.size, by omega, start / score.size + 1, ?_⟩
    rw [Nat.succ_mul]
    omega

/-- A run of silent beats of a score with hits is shorter than the score. -/
theorem lt_size_of_silent (sounds : score.hitCount ≠ 0) {start length : ℕ}
    (silent : ∀ i < length, (score.beatAt (start + i)).hits = []) : length < score.size := by
  by_contra long
  apply sounds
  apply hitCount_eq_zero_of_silent
  intro n hn
  obtain ⟨i, hi, k, here⟩ := exists_add_eq_add_mul_size hn start
  rw [← beatAt_add_mul_size score n k, ← here]
  exact silent i (by omega)

/-- No gap of a performance is too wide if the score is not too long. -/
theorem wideGap?_schedule (pos : 0 < ticks) (short : score.size * ticks ≤ Midi.maxQuantity)
    (count : ℕ) : Midi.wideGap? (score.schedule ticks count) = none := by
  rw [Midi.wideGap?, List.find?_eq_none]
  intro delta hdelta
  rw [decide_eq_true_eq, Nat.not_lt]
  by_cases silent : score.hitCount = 0
  · rw [schedule_of_hitCount silent] at hdelta
    cases hdelta
  · have narrow := @le_of_mem_deltas _ score pos count score.size
      (fun start length _ quiet => lt_size_of_silent silent quiet) delta hdelta
    omega

end Score

end Percussion
