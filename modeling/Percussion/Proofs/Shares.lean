import Percussion.Proofs.Order

/-!
# How the hits of a beat share it

If `count` hits had equal shares of a beat of `ticks` ticks, hit number `index` would stop after
`(index + 1) * ticks / count` of them (`Beat.share`). The player does not compute that: it rounds
the share of one hit down to whole ticks, makes it at least one, and takes multiples of it
(`Beat.stopOffset`). What gets lost by rounding before multiplying is itself a share, of the
remainder (`Beat.share_eq_add`), so that nothing is lost if and only if there is no remainder.
-/

namespace Percussion.Beat

/-! ## Shares -/

/-- After how many ticks of a beat hit number `index` of `count` stops if all have the same share of
it, rounded down at the end. -/
def share (ticks count index : ℕ) : ℕ := (index + 1) * ticks / count

section Shares

variable {ticks count index : ℕ}

theorem share_le (h : index < count) : share ticks count index ≤ ticks := by
  unfold share
  have part : (index + 1) * ticks ≤ ticks * count := by
    rw [Nat.mul_comm ticks]
    exact Nat.mul_le_mul_right ticks h
  exact Nat.div_le_of_le_mul (by rwa [Nat.mul_comm count])

/-- With at least a tick for each hit the steps are whole, and all of them fit into the beat. -/
theorem stopOffset_of_le (enough : count ≤ ticks) (h : index < count) :
    stopOffset ticks count index = (index + 1) * (ticks / count) := by
  have step : 1 ≤ ticks / count := Nat.div_pos enough (by omega)
  have fits : (index + 1) * (ticks / count) ≤ ticks :=
    calc (index + 1) * (ticks / count)
        ≤ count * (ticks / count) := Nat.mul_le_mul_right _ h
      _ ≤ ticks := Nat.mul_div_le ticks count
  unfold stopOffset
  rw [Nat.max_eq_left step, Nat.min_eq_left fits]

/-- With fewer ticks than hits a step is one tick, up to the end of the beat. -/
theorem stopOffset_of_lt (crowded : ticks < count) (index : ℕ) :
    stopOffset ticks count index = min (index + 1) ticks := by
  unfold stopOffset
  rw [Nat.div_eq_of_lt crowded, Nat.max_eq_right (Nat.zero_le 1), Nat.mul_one]

/-- A hit stops too early by its share of what the steps leave of the beat. -/
theorem share_eq_add (enough : count ≤ ticks) (h : index < count) :
    share ticks count index =
      stopOffset ticks count index + (index + 1) * (ticks % count) / count := by
  have pos : 0 < count := by omega
  have split : (index + 1) * ticks =
      count * ((index + 1) * (ticks / count)) + (index + 1) * (ticks % count) := by
    conv_lhs => rw [← Nat.div_add_mod ticks count]
    ring
  rw [stopOffset_of_le enough h, share, split, Nat.mul_add_div pos]

/-- In a crowded beat no hit stops before its share is over. -/
theorem share_le_stopOffset (crowded : ticks < count) (h : index < count) :
    share ticks count index ≤ stopOffset ticks count index := by
  have steps : share ticks count index ≤ index + 1 := by
    unfold share
    apply Nat.div_le_of_le_mul
    rw [Nat.mul_comm count]
    exact Nat.mul_le_mul_left _ crowded.le
  rw [stopOffset_of_lt crowded]
  exact Nat.le_min.mpr ⟨steps, share_le h⟩

/-- Until the beat is over, each hit stops later than the one before it. -/
theorem stopOffset_lt {i j : ℕ} (h : i < j) (inside : stopOffset ticks count i < ticks) :
    stopOffset ticks count i < stopOffset ticks count j := by
  unfold stopOffset at inside ⊢
  have step : 0 < max (ticks / count) 1 := by omega
  have steps : (i + 1) * max (ticks / count) 1 < (j + 1) * max (ticks / count) 1 :=
    Nat.mul_lt_mul_of_pos_right (by omega) step
  omega

/-- All hits have their shares if and only if these are whole. -/
theorem forall_stopOffset_eq_share_iff (pos : 0 < ticks) (sounds : 0 < count) :
    (∀ index < count, stopOffset ticks count index = share ticks count index) ↔ count ∣ ticks := by
  constructor
  · intro shares
    by_cases enough : count ≤ ticks
    · -- the last hit is too early by the whole remainder
      have last : count - 1 < count := by omega
      have lost := share_eq_add enough last
      rw [← shares _ last, Nat.sub_add_cancel sounds, Nat.mul_div_cancel_left _ sounds] at lost
      apply Nat.dvd_of_mod_eq_zero
      omega
    · -- the first hit has no whole tick, and stops after one
      have first := shares 0 sounds
      have late := stopOffset_pos pos count 0
      have early : share ticks count 0 = 0 := by
        unfold share
        rw [Nat.zero_add, Nat.one_mul, Nat.div_eq_of_lt (by omega)]
      omega
  · intro whole index h
    rw [share_eq_add (Nat.le_of_dvd pos whole) h, Nat.mod_eq_zero_of_dvd whole, Nat.mul_zero,
      Nat.zero_div, Nat.add_zero]

end Shares

/-! ## Offsets as machine words -/

/-- The offset of a stop as machine words have it: the step is divided out with 32 bits, and is
multiplied with 64, where a product that is too large would lose its upper bits. -/
def wordOffset (ticks count : UInt32) (index : UInt64) : UInt64 :=
  min ((index + 1) * (max (ticks / count) 1).toUInt64) ticks.toUInt64

/-- The multiples of a step stay within 64 bits if the hits can be counted with 32. -/
theorem steps_lt {ticks count index : ℕ} (bound : ticks < 0x100000000)
    (few : count < 0x100000000) (h : index < count) :
    (index + 1) * max (ticks / count) 1 < 0x10000000000000000 := by
  have step : max (ticks / count) 1 < 0x100000000 := by
    have quotient := Nat.div_le_self ticks count
    omega
  calc (index + 1) * max (ticks / count) 1
      ≤ 0xFFFFFFFF * 0xFFFFFFFF := Nat.mul_le_mul (by omega) (by omega)
    _ < 0x10000000000000000 := by omega

/-- Machine words lose nothing. -/
theorem toNat_wordOffset {ticks count : UInt32} {index : UInt64}
    (h : index.toNat < count.toNat) :
    (wordOffset ticks count index).toNat =
      stopOffset ticks.toNat count.toNat index.toNat := by
  have product := steps_lt ticks.toNat_lt count.toNat_lt h
  have next : (index + 1).toNat = index.toNat + 1 := by
    have := count.toNat_lt
    rw [UInt64.toNat_add]
    show (index.toNat + 1) % 0x10000000000000000 = index.toNat + 1
    omega
  have step : (max (ticks / count) 1).toUInt64.toNat = max (ticks.toNat / count.toNat) 1 := by
    rw [UInt32.toNat_toUInt64, UInt32.toNat_max, UInt32.toNat_div]
    rfl
  unfold wordOffset stopOffset
  rw [UInt64.toNat_min, UInt64.toNat_mul, next, step, Nat.mod_eq_of_lt product, UInt32.toNat_toUInt64]

/-! ## Stops -/

/-- The stops among the events of a beat. -/
def stopsAt (ticks : ℕ) (start : Tick) (beat : Beat) : List Event :=
  (beat.eventsAt ticks start).filter fun event => event.kind = .stop

/-- The hits of a beat, each stopped as long after the start as `offset` says of its number. -/
def stopsAfter (offset : ℕ → ℕ) (start : Tick) (beat : Beat) : List Event :=
  beat.hits.zipIdx.map fun (hit, index) => ⟨.stop, hit, start.later (offset index)⟩

theorem stopsAt_eq (ticks : ℕ) (start : Tick) (beat : Beat) :
    beat.stopsAt ticks start =
      beat.stopsAfter (stopOffset ticks beat.hits.length) start := by
  have starts : (beat.hits.map fun hit => (⟨.start, hit, start⟩ : Event)).filter
      (fun event => event.kind = .stop) = [] := by
    rw [List.filter_eq_nil_iff]
    simp
  have stops : (beat.stopsAfter (stopOffset ticks beat.hits.length) start).filter
      (fun event => event.kind = .stop) =
      beat.stopsAfter (stopOffset ticks beat.hits.length) start := by
    rw [List.filter_eq_self]
    intro event hevent
    obtain ⟨_, _, rfl⟩ := List.mem_map.mp hevent
    rfl
  unfold stopsAt eventsAt
  rw [List.filter_append, starts, List.nil_append]
  exact stops

/-- Offsets that do not lead past the last position can be told from the stops. -/
theorem stopsAfter_eq_iff {beat : Beat} {start : Tick} {first second : ℕ → ℕ}
    (fits : ∀ index < beat.hits.length, start.toNat + first index ≤ Tick.last ∧
      start.toNat + second index ≤ Tick.last) :
    beat.stopsAfter first start = beat.stopsAfter second start ↔
      ∀ index < beat.hits.length, first index = second index := by
  unfold stopsAfter
  rw [List.map_inj_left]
  constructor
  · intro same index h
    have stop := same (beat.hits[index], index) (by simp [List.mem_zipIdx_iff_getElem?, h])
    have ticks := congrArg (fun event : Event => event.tick.toNat) stop
    have fits := fits index h
    simp only [Tick.toNat_later] at ticks
    omega
  · intro same hit h
    have inside : hit.2 < beat.hits.length := by
      rw [List.mem_zipIdx_iff_getElem?] at h
      exact (List.getElem?_eq_some_iff.mp h).1
    show (⟨.stop, hit.1, start.later (first hit.2)⟩ : Event) =
      ⟨.stop, hit.1, start.later (second hit.2)⟩
    rw [same hit.2 inside]

/-- **How the stops of a beat stand to equal shares of it.** The stops of a beat are within it, in
order, and apart from each other until it is over. With a tick for each hit a stop is before the end
of its share by the share of the remainder, rounded down; with fewer ticks there is one stop at each
tick, and the others at the end. So all hits have their shares if and only if the number of hits
divides the number of ticks. None of this depends on the size of machine words. -/
theorem stopOffset_share (beat : Beat) (resolution : Resolution) (sounds : beat.hits ≠ [])
    (few : beat.hits.length < 0x100000000) :
    let ticks := resolution.ticks.toNat
    let count := beat.hits.length
    (∀ start, beat.stopsAt ticks start = beat.stopsAfter (stopOffset ticks count) start) ∧
    (∀ index < count, 1 ≤ stopOffset ticks count index ∧ stopOffset ticks count index ≤ ticks) ∧
    (∀ i j, i < j → j < count → stopOffset ticks count i ≤ stopOffset ticks count j ∧
      (stopOffset ticks count i < ticks →
        stopOffset ticks count i < stopOffset ticks count j)) ∧
    (count ≤ ticks → ∀ index < count, share ticks count index =
      stopOffset ticks count index + (index + 1) * (ticks % count) / count) ∧
    (ticks < count → ∀ index < count, stopOffset ticks count index = min (index + 1) ticks ∧
      share ticks count index ≤ stopOffset ticks count index) ∧
    ((∀ index < count, stopOffset ticks count index = share ticks count index) ↔
      count ∣ ticks) ∧
    (∀ start : Tick, start.toNat + ticks ≤ Tick.last →
      (beat.stopsAt ticks start = beat.stopsAfter (share ticks count) start ↔ count ∣ ticks)) ∧
    ∀ index < count, (index + 1) * max (ticks / count) 1 ≤ 0xFFFFFFFFFFFFFFFF ∧
      (wordOffset resolution.ticks count.toUInt32 index.toUInt64).toNat =
        stopOffset ticks count index := by
  intro ticks count
  have pos : 0 < ticks := resolution.toNat_pos
  have some : 0 < count := List.length_pos_iff.mpr sounds
  have shares := forall_stopOffset_eq_share_iff pos some
  refine ⟨fun start => beat.stopsAt_eq ticks start, ?_, ?_, ?_, ?_, shares, ?_, ?_⟩
  · intro index _
    exact ⟨stopOffset_pos pos count index, stopOffset_le ticks count index⟩
  · intro i j hij _
    exact ⟨stopOffset_mono ticks count hij.le, stopOffset_lt hij⟩
  · intro enough index h
    exact share_eq_add enough h
  · intro crowded index h
    exact ⟨stopOffset_of_lt crowded index, share_le_stopOffset crowded h⟩
  -- before the last position the ticks of the stops tell their offsets
  · intro start fits
    rw [stopsAt_eq, ← shares]
    apply stopsAfter_eq_iff
    intro index h
    have offset : stopOffset ticks beat.hits.length index ≤ ticks := stopOffset_le ticks count index
    have place : share ticks count index ≤ ticks := share_le h
    omega
  -- so few hits are counted by a word, and no product of words passes its bound
  · intro index h
    have product := steps_lt resolution.ticks.toNat_lt few h
    have words : count.toUInt32.toNat = count := Nat.mod_eq_of_lt few
    have number : index.toUInt64.toNat = index := Nat.mod_eq_of_lt (by omega)
    refine ⟨Nat.le_of_lt_succ product, ?_⟩
    rw [toNat_wordOffset (by rw [words, number]; exact h), words, number]

/-- Three hits in a beat of eight ticks: the last two are early by a tick and by two. -/
theorem stopOffset_share_three_hits :
    (⟨[⟨.boom, .normal⟩, ⟨.tik, .normal⟩, ⟨.kah, .accented⟩]⟩ : Beat).hits ≠ [] ∧
    (⟨[⟨.boom, .normal⟩, ⟨.tik, .normal⟩, ⟨.kah, .accented⟩]⟩ : Beat).hits.length < 0x100000000 ∧
    (List.range 3).map (stopOffset 8 3) = [2, 4, 6] ∧
    (List.range 3).map (share 8 3) = [2, 5, 8] ∧
    ¬ ∀ index < 3, stopOffset 8 3 index = share 8 3 index := by
  obtain ⟨_, _, _, _, _, shares, _⟩ := stopOffset_share
    ⟨[⟨.boom, .normal⟩, ⟨.tik, .normal⟩, ⟨.kah, .accented⟩]⟩ ⟨8, by decide⟩ (by decide) (by decide)
  refine ⟨by decide, by decide, by decide, by decide, ?_⟩
  intro all
  exact absurd (shares.mp all) (by decide)

end Percussion.Beat
