import Mathlib.Data.List.DropRight
import Percussion.Proofs.Order

/-!
# What a performance tells about its score

The starts at the beginning of a beat are its hits in order, so the events of a performance say what
is heard on each beat, and nothing else (`Score.schedule_eq_iff`). What is heard does not tell a
score from one with more silence at its end; but if the score is played more than once, the distance
between the repeats tells its length (`Score.heardAt_eq_iff`).
-/

namespace Percussion

/-! ## Starts at a tick -/

/-- The hits that start at a tick, in order. -/
def startsAt (tick : ℕ) (events : List Event) : List Hit :=
  (events.filter fun event => event.kind = .start ∧ event.tick.toNat = tick).map (·.hit)

theorem startsAt_append (tick : ℕ) (events later : List Event) :
    startsAt tick (events ++ later) = startsAt tick events ++ startsAt tick later := by
  rw [startsAt, List.filter_append, List.map_append, startsAt, startsAt]

theorem startsAt_of_stops {events : List Event} (stops : ∀ event ∈ events, event.kind = .stop)
    (tick : ℕ) : startsAt tick events = [] := by
  rw [startsAt, List.map_eq_nil_iff, List.filter_eq_nil_iff]
  intro event hevent
  simp [stops event hevent]

/-- The starts of a block are the hits of its beat, at its beginning. -/
theorem Beat.startsAt_block (ticks : ℕ) {start : ℕ} (fits : start ≤ Tick.last) (beat : Beat)
    (tick : ℕ) :
    startsAt tick (beat.block ticks start) = if tick = start then beat.hits else [] := by
  have starts : startsAt tick (beat.hits.map fun hit => ⟨.start, hit, Tick.ofNat start⟩) =
      if tick = start then beat.hits else [] := by
    have begins : (Tick.ofNat start).toNat = start := Tick.toNat_ofNat_of_le fits
    unfold startsAt
    simp only [List.filter_map, List.map_map, Function.comp_def, begins, true_and, List.map_id']
    by_cases here : tick = start
    · simp only [here, decide_true, List.filter_true, if_true]
    · simp only [Ne.symm here, here, decide_false, List.filter_false, if_false]
  rw [block, startsAt_append, starts, startsAt_of_stops, List.append_nil]
  intro event hevent
  obtain ⟨_, _, rfl⟩ := List.mem_map.mp hevent
  rfl

namespace Score

variable {score score₁ score₂ : Score} {ticks times n : ℕ}

/-- What starts where a beat does are the hits of that beat. -/
theorem startsAt_schedule (score : Score) (pos : 0 < ticks) {count : ℕ}
    (fits : count * ticks ≤ Tick.last) (n : ℕ) :
    startsAt (n * ticks) (score.schedule ticks count) =
      if n < count then (score.beatAt n).hits else [] := by
  induction count with
  | zero => rfl
  | succ count ih =>
    rw [Nat.succ_mul] at fits
    rw [schedule_succ, startsAt_append, ih (by omega), blockAt,
      Beat.startsAt_block ticks (by omega)]
    simp only [Nat.mul_left_inj pos.ne']
    by_cases before : n < count
    · rw [if_pos before, if_neg (by omega), if_pos (by omega), List.append_nil]
    · by_cases here : n = count
      · subst here
        rw [if_neg before, if_pos rfl, if_pos (by omega), List.nil_append]
      · rw [if_neg before, if_neg here, if_neg (by omega), List.nil_append]

/-! ## What is heard on each beat -/

/-- What is heard on beat number `n` of a score that is played `times` times: after the end,
nothing. -/
def heardAt (score : Score) (times n : ℕ) : List Hit :=
  if n < times * score.size then (score.beatAt n).hits else []

/-- A schedule goes on after its end with silent beats. -/
theorem schedule_eq_flatMap_heardAt (score : Score) (ticks times more : ℕ) :
    score.schedule ticks (times * score.size) =
      (List.range (times * score.size + more)).flatMap fun n =>
        (⟨score.heardAt times n⟩ : Beat).block ticks (n * ticks) := by
  induction more with
  | zero =>
    rw [Nat.add_zero, schedule]
    apply List.flatMap_congr
    intro n hn
    rw [List.mem_range] at hn
    rw [blockAt, heardAt, if_pos hn]
  | succ more ih =>
    have silent : score.heardAt times (times * score.size + more) = [] := by
      rw [heardAt, if_neg (by omega)]
    rw [← Nat.add_assoc, List.range_succ, List.flatMap_append, ← ih, List.flatMap_singleton, silent]
    exact (List.append_nil _).symm

/-- Two performances have the same events if and only if the same is heard on every beat. -/
theorem schedule_eq_iff (pos : 0 < ticks) (fits₁ : times * score₁.size * ticks ≤ Tick.last)
    (fits₂ : times * score₂.size * ticks ≤ Tick.last) :
    score₁.schedule ticks (times * score₁.size) = score₂.schedule ticks (times * score₂.size) ↔
      ∀ n, score₁.heardAt times n = score₂.heardAt times n := by
  constructor
  · intro same n
    rw [heardAt, ← startsAt_schedule score₁ pos fits₁, same, startsAt_schedule score₂ pos fits₂,
      heardAt]
  · intro same
    rw [schedule_eq_flatMap_heardAt score₁ ticks times (times * score₂.size),
      schedule_eq_flatMap_heardAt score₂ ticks times (times * score₁.size), Nat.add_comm]
    simp only [same]

/-- A score without hits is one of which nothing is heard. -/
theorem hitCount_eq_zero_iff (pos : 0 < times) :
    score.hitCount = 0 ↔ ∀ n, score.heardAt times n = [] := by
  constructor
  · intro silent n
    rw [heardAt, hits_eq_nil_of_hitCount score silent, ite_self]
  · intro silent
    apply hitCount_eq_zero_of_silent
    intro n hn
    have within : n < times * score.size := hn.trans_le (Nat.le_mul_of_pos_left _ pos)
    have heard := silent n
    rwa [heardAt, if_pos within] at heard

/-! ## Silence at the end -/

/-- A score without the silent beats at its end. -/
def trimmed (score : Score) : Score := ⟨score.beats.rdropWhile (·.isSilent)⟩

theorem heardAt_one (score : Score) (n : ℕ) :
    score.heardAt 1 n = (score.beats.getD n ⟨[]⟩).hits := by
  rw [heardAt, Nat.one_mul]
  by_cases within : n < score.size
  · rw [if_pos within, beatAt, Nat.mod_eq_of_lt within]
  · rw [if_neg within, List.getD_eq_default _ _ (Nat.le_of_not_lt within)]

/-- Played once, a score and what is left of it without the silence at its end sound the same. -/
theorem heardAt_trimmed (score : Score) (n : ℕ) :
    score.trimmed.heardAt 1 n = score.heardAt 1 n := by
  obtain ⟨beats⟩ := score
  rw [heardAt_one, heardAt_one, trimmed]
  induction beats using List.reverseRecOn with
  | nil => rfl
  | append_singleton beats beat ih =>
    by_cases silent : beat.isSilent
    · rw [List.rdropWhile_concat_pos _ _ _ silent, ih]
      have hits : beat.hits = [] := List.isEmpty_iff.mp silent
      by_cases before : n < beats.length
      · rw [List.getD_append _ _ _ _ before]
      · have after : beats.length ≤ n := by omega
        rw [List.getD_append_right _ _ _ _ after, List.getD_eq_default _ _ after]
        cases n - beats.length with
        | zero => exact hits.symm
        | succ _ => rfl
    · rw [List.rdropWhile_concat_neg _ _ _ silent]

/-- The last beat that is left of a score is heard. -/
theorem heardAt_size_trimmed (h : score.trimmed.size = n + 1) : score.heardAt 1 n ≠ [] := by
  rw [size] at h
  have ne_nil : score.trimmed.beats ≠ [] := List.ne_nil_of_length_pos (by omega)
  have last : ¬ (score.trimmed.beats.getLast ne_nil).isSilent = true :=
    List.rdropWhile_last_not Beat.isSilent score.beats ne_nil
  have index : score.trimmed.beats.length - 1 = n := by omega
  simp only [List.getLast_eq_getElem, index] at last
  rw [← heardAt_trimmed, heardAt_one, List.getD_eq_getElem _ _ (by omega)]
  intro silent
  rw [Beat.isSilent, silent] at last
  exact last rfl

/-- Without the silence at its end, a score is no longer than another that sounds the same. -/
theorem size_trimmed_le (same : ∀ n, score₁.heardAt 1 n = score₂.heardAt 1 n) :
    score₁.trimmed.size ≤ score₂.trimmed.size := by
  by_contra longer
  obtain ⟨n, hn⟩ : ∃ n, score₁.trimmed.size = n + 1 := ⟨score₁.trimmed.size - 1, by omega⟩
  apply heardAt_size_trimmed hn
  rw [same, ← heardAt_trimmed, heardAt, Nat.one_mul, if_neg (by omega)]

/-- Played once, scores sound the same if and only if they differ in the silence at their ends. -/
theorem heardAt_one_eq_iff :
    (∀ n, score₁.heardAt 1 n = score₂.heardAt 1 n) ↔ score₁.trimmed = score₂.trimmed := by
  constructor
  · intro same
    have length : score₁.trimmed.size = score₂.trimmed.size :=
      Nat.le_antisymm (size_trimmed_le same) (size_trimmed_le fun n => (same n).symm)
    have beats : score₁.trimmed.beats = score₂.trimmed.beats := by
      apply List.ext_getElem length
      intro n hn₁ hn₂
      have heard := same n
      rw [← heardAt_trimmed score₁, ← heardAt_trimmed score₂, heardAt_one, heardAt_one,
        List.getD_eq_getElem _ _ hn₁, List.getD_eq_getElem _ _ hn₂] at heard
      exact congrArg Beat.mk heard
    exact congrArg Score.mk beats
  · intro trimmed n
    rw [← heardAt_trimmed score₁, trimmed, heardAt_trimmed]

/-! ## The length of a score that is repeated -/

/-- What is heard on a beat is heard again in every later repeat. -/
theorem heardAt_add_mul_size {k : ℕ} (within : n + k * score.size < times * score.size) :
    score.heardAt times (n + k * score.size) = score.heardAt times n := by
  rw [heardAt, if_pos within, heardAt, if_pos (by omega), beatAt_add_mul_size]

theorem lt_of_heardAt_ne_nil (h : score.heardAt times n ≠ []) : n < times * score.size := by
  by_contra after
  exact h (if_neg after)

/-- The first beat that is heard is in the first repeat. -/
theorem lt_size_of_first (heard : score.heardAt times n ≠ [])
    (silent : ∀ m < n, score.heardAt times m = []) : n < score.size := by
  by_contra late
  have within := lt_of_heardAt_ne_nil heard
  have nonempty : score.size ≠ 0 := by
    intro zero
    rw [zero] at within
    omega
  have back := @heardAt_add_mul_size score times (n - score.size) 1 (by omega)
  rw [Nat.one_mul, Nat.sub_add_cancel (by omega), silent (n - score.size) (by omega)] at back
  exact heard back

/-- The first beat that is heard is heard again one length of the score later. The repeat of a
longer score that sounds the same would come after that beat, so the beat would be heard in every
repeat of that score, and in the last one after the shorter score has ended. -/
theorem size_le_of_heardAt_eq (again : 2 ≤ times) (sounds : ∃ n, score₁.heardAt times n ≠ [])
    (same : ∀ n, score₁.heardAt times n = score₂.heardAt times n) :
    score₂.size ≤ score₁.size := by
  by_contra longer
  obtain ⟨first, heard, silent⟩ : ∃ first, score₁.heardAt times first ≠ [] ∧
      ∀ m < first, score₁.heardAt times m = [] :=
    ⟨Nat.find sounds, Nat.find_spec sounds, fun m hm => not_not.mp (Nat.find_min sounds hm)⟩
  -- the first beat that is heard comes back after the shorter score, where the longer one still
  -- has a beat of its own or is back at one before the first
  have early := lt_size_of_first heard silent
  have twice : 2 * score₁.size ≤ times * score₁.size := Nat.mul_le_mul_right _ again
  have repeated := @heardAt_add_mul_size score₁ times first 1 (by omega)
  rw [Nat.one_mul, same (first + score₁.size)] at repeated
  rw [← repeated] at heard
  have within := lt_of_heardAt_ne_nil heard
  by_cases first_round : first + score₁.size < score₂.size
  · obtain ⟨rounds, rfl⟩ : ∃ rounds, times = rounds + 1 := ⟨times - 1, by omega⟩
    have rounds_le : rounds * score₁.size ≤ rounds * score₂.size :=
      Nat.mul_le_mul_left _ (by omega)
    have last := @heardAt_add_mul_size score₂ (rounds + 1) (first + score₁.size) rounds
      (by rw [Nat.succ_mul]; omega)
    have ended : score₁.heardAt (rounds + 1) (first + score₁.size + rounds * score₂.size) = [] := by
      apply if_neg
      rw [Nat.succ_mul]
      omega
    rw [← same, ended] at last
    exact heard last.symm
  · -- it would have been heard before the first beat that is heard
    have back := @heardAt_add_mul_size score₂ times (first + score₁.size - score₂.size) 1 (by omega)
    rw [Nat.one_mul, Nat.sub_add_cancel (by omega), ← same (first + score₁.size - score₂.size),
      silent (first + score₁.size - score₂.size) (by omega)] at back
    exact heard back

/-- Scores of the same length that sound the same have the same beats. -/
theorem eq_of_heardAt_eq (pos : 0 < times) (size : score₁.size = score₂.size)
    (same : ∀ n, score₁.heardAt times n = score₂.heardAt times n) : score₁ = score₂ := by
  have beats : score₁.beats = score₂.beats := by
    apply List.ext_getElem size
    intro n hn₁ hn₂
    have within₁ : n < times * score₁.size := Nat.lt_of_lt_of_le hn₁ (Nat.le_mul_of_pos_left _ pos)
    have within₂ : n < times * score₂.size := Nat.lt_of_lt_of_le hn₂ (Nat.le_mul_of_pos_left _ pos)
    have heard := same n
    rw [heardAt, heardAt, if_pos within₁, if_pos within₂, beatAt_of_lt hn₁,
      beatAt_of_lt hn₂] at heard
    exact congrArg Beat.mk heard
  exact congrArg Score.mk beats

/-- What is heard of a score tells which score it is: not at all if nothing is heard, up to silence
at its end if it is played once, and completely if it is played again. -/
theorem heardAt_eq_iff :
    (∀ n, score₁.heardAt times n = score₂.heardAt times n) ↔
      times = 0 ∨ (score₁.hitCount = 0 ∧ score₂.hitCount = 0) ∨
        (times = 1 ∧ score₁.trimmed = score₂.trimmed) ∨ (2 ≤ times ∧ score₁ = score₂) := by
  rcases Nat.eq_zero_or_pos times with rfl | pos
  · simp [heardAt]
  constructor
  · intro same
    by_cases silent : score₁.hitCount = 0
    · have silent₂ : score₂.hitCount = 0 := by
        rw [hitCount_eq_zero_iff pos] at silent ⊢
        intro n
        rw [← same, silent]
      exact .inr (.inl ⟨silent, silent₂⟩)
    by_cases once : times = 1
    · subst once
      exact .inr (.inr (.inl ⟨rfl, heardAt_one_eq_iff.mp same⟩))
    have again : 2 ≤ times := by omega
    rw [hitCount_eq_zero_iff pos, not_forall] at silent
    have sounds : ∃ n, score₂.heardAt times n ≠ [] := by
      simpa only [← same] using silent
    -- what is heard again tells when a score begins again
    have size : score₁.size = score₂.size :=
      Nat.le_antisymm (size_le_of_heardAt_eq again sounds fun n => (same n).symm)
        (size_le_of_heardAt_eq again silent same)
    exact .inr (.inr (.inr ⟨again, eq_of_heardAt_eq pos size same⟩))
  · rintro (rfl | ⟨silent₁, silent₂⟩ | ⟨rfl, trimmed⟩ | ⟨_, rfl⟩) n
    · omega
    · rw [hitCount_eq_zero_iff pos] at silent₁ silent₂
      rw [silent₁, silent₂]
    · exact heardAt_one_eq_iff.mpr trimmed n
    · rfl

end Score

end Percussion
