import Percussion.Proofs.Schedule

/-!
# The order of events

Events are listed in the order of their ticks. This holds for every score and every resolution,
also where ticks stay at the last position: within a block because the stops of a beat never move
back (`Beat.stopOffset_mono`), and from block to block because no event leaves its beat
(`Beat.tick_mem_block`). As long as the whole performance fits below the last position, a start is
even strictly before every stop that is listed after it.
-/

namespace Percussion

namespace Tick

theorem ofNat_mono {n m : ℕ} (h : n ≤ m) : (ofNat n).toNat ≤ (ofNat m).toNat := by
  simp only [toNat_ofNat]
  omega

theorem toNat_ofNat_of_le {n : ℕ} (h : n ≤ last) : (ofNat n).toNat = n := by
  rw [toNat_ofNat, Nat.min_eq_left h]

end Tick

/-! ## Stops within a beat -/

namespace Beat

/-- No hit outlasts its beat. -/
theorem stopOffset_le (ticks count index : ℕ) : stopOffset ticks count index ≤ ticks := by
  unfold stopOffset
  exact Nat.min_le_right _ _

/-- Each hit lasts for a tick at least. -/
theorem stopOffset_pos {ticks : ℕ} (h : 0 < ticks) (count index : ℕ) :
    0 < stopOffset ticks count index := by
  unfold stopOffset
  have step : 0 < max (ticks / count) 1 := by omega
  have steps : 0 < (index + 1) * max (ticks / count) 1 := Nat.mul_pos index.succ_pos step
  exact Nat.lt_min.mpr ⟨steps, h⟩

theorem stopOffset_mono (ticks count : ℕ) {i j : ℕ} (h : i ≤ j) :
    stopOffset ticks count i ≤ stopOffset ticks count j := by
  unfold stopOffset
  have steps : (i + 1) * max (ticks / count) 1 ≤ (j + 1) * max (ticks / count) 1 := by
    apply Nat.mul_le_mul_right
    omega
  omega

/-- The events of a block are the starts and the stops of the hits of its beat. -/
theorem mem_block {ticks start : ℕ} {beat : Beat} {event : Event} :
    event ∈ beat.block ticks start ↔
      (∃ hit ∈ beat.hits, event = ⟨.start, hit, Tick.ofNat start⟩) ∨
      (∃ hit index, beat.hits[index]? = some hit ∧ event =
        ⟨.stop, hit, Tick.ofNat (start + stopOffset ticks beat.hits.length index)⟩) := by
  simp only [block, List.mem_append, List.mem_map, Prod.exists, List.mem_zipIdx_iff_getElem?,
    stopOffset, eq_comm]

/-- No event of a block is before the beginning of its beat or after its end. -/
theorem tick_mem_block {ticks start : ℕ} {beat : Beat} {event : Event}
    (h : event ∈ beat.block ticks start) :
    (Tick.ofNat start).toNat ≤ event.tick.toNat ∧
      event.tick.toNat ≤ (Tick.ofNat (start + ticks)).toNat := by
  rw [mem_block] at h
  rcases h with ⟨hit, _, rfl⟩ | ⟨hit, index, _, rfl⟩
  · exact ⟨le_rfl, Tick.ofNat_mono (by omega)⟩
  · have inside := stopOffset_le ticks beat.hits.length index
    exact ⟨Tick.ofNat_mono (by omega), Tick.ofNat_mono (by omega)⟩

/-- All hits of a beat start where the beat does. -/
theorem tick_of_start_mem_block {ticks start : ℕ} {beat : Beat} {event : Event}
    (h : event ∈ beat.block ticks start) (starts : event.kind = .start) :
    event.tick = Tick.ofNat start := by
  rw [mem_block] at h
  rcases h with ⟨hit, _, rfl⟩ | ⟨hit, index, _, rfl⟩
  · rfl
  · cases starts

/-- They stop after that, and not after the end of the beat. -/
theorem tick_of_stop_mem_block {ticks start : ℕ} (pos : 0 < ticks) {beat : Beat} {event : Event}
    (h : event ∈ beat.block ticks start) (stops : event.kind = .stop) :
    ∃ offset, 0 < offset ∧ offset ≤ ticks ∧ event.tick = Tick.ofNat (start + offset) := by
  rw [mem_block] at h
  rcases h with ⟨hit, _, rfl⟩ | ⟨hit, index, _, rfl⟩
  · cases stops
  · exact ⟨_, stopOffset_pos pos _ _, stopOffset_le _ _ _, rfl⟩

/-- A block ends with the stop of the last hit. -/
theorem exists_getLast?_block {beat : Beat} (sounds : beat.hits ≠ []) (ticks start : ℕ) :
    ∃ hit, (beat.block ticks start).getLast? = some ⟨.stop, hit,
      Tick.ofNat (start + stopOffset ticks beat.hits.length (beat.hits.length - 1))⟩ := by
  obtain ⟨hits, hit, split⟩ := List.eq_nil_or_concat beat.hits |>.resolve_left sounds
  refine ⟨hit, ?_⟩
  have length : beat.hits.length - 1 = hits.length := by simp [split]
  rw [length, block, split, List.concat_eq_append, List.zipIdx_append, Nat.zero_add,
    List.zipIdx_singleton]
  simp only [List.map_append, List.map_singleton, ← List.append_assoc, List.getLast?_concat]
  rfl

theorem pairwise_zipIdx {α : Type} (entries : List α) :
    entries.zipIdx.Pairwise fun a b => a.2 < b.2 := by
  have ascending : (entries.zipIdx.map Prod.snd).Pairwise (· < ·) := by
    rw [List.zipIdx_map_snd]
    exact List.pairwise_lt_range'
  exact List.pairwise_map.mp ascending

/-- Within a block the ticks do not decrease. -/
theorem pairwise_block (ticks start : ℕ) (beat : Beat) :
    (beat.block ticks start).Pairwise fun a b => a.tick.toNat ≤ b.tick.toNat := by
  rw [block, List.pairwise_append, List.pairwise_map, List.pairwise_map]
  refine ⟨?_, ?_, ?_⟩
  · apply List.pairwise_of_forall
    intro _ _
    exact le_rfl
  · apply (pairwise_zipIdx beat.hits).imp
    intro a b later
    have steps := stopOffset_mono ticks beat.hits.length later.le
    apply Tick.ofNat_mono
    exact Nat.add_le_add_left steps start
  · -- every start is at the beginning, and no event of the block is before it
    intro first hfirst second hsecond
    rw [List.mem_map] at hfirst
    obtain ⟨_, _, rfl⟩ := hfirst
    exact (tick_mem_block (List.mem_append_right _ hsecond)).1

end Beat

/-! ## From block to block -/

theorem Resolution.toNat_pos (resolution : Resolution) : 0 < resolution.ticks.toNat := by
  have ne_zero := resolution.ne_zero
  rw [Ne, ← UInt32.toNat_inj] at ne_zero
  exact Nat.pos_of_ne_zero ne_zero

namespace Score

variable {score : Score} {ticks : ℕ}

/-- The ticks of a schedule do not decrease. -/
theorem pairwise_schedule (score : Score) (ticks count : ℕ) :
    (score.schedule ticks count).Pairwise fun a b => a.tick.toNat ≤ b.tick.toNat := by
  rw [schedule, List.pairwise_flatMap]
  constructor
  · intro n _
    exact Beat.pairwise_block ticks (n * ticks) (score.beatAt n)
  · -- the block of a beat ends no later than the block of any later beat begins
    apply List.pairwise_lt_range.imp
    intro n m hnm first hfirst second hsecond
    have ends : n * ticks + ticks ≤ m * ticks := by
      rw [← Nat.succ_mul]
      exact Nat.mul_le_mul_right ticks hnm
    calc first.tick.toNat
        ≤ (Tick.ofNat (n * ticks + ticks)).toNat := (Beat.tick_mem_block hfirst).2
      _ ≤ (Tick.ofNat (m * ticks)).toNat := Tick.ofNat_mono ends
      _ ≤ second.tick.toNat := (Beat.tick_mem_block hsecond).1

/-- Whatever is played is played at the tempo asked for, and with ticks that do not decrease. -/
theorem ordered_of_render {playing : Playing} {sequence : Sequence}
    (h : score.render playing = .ok sequence) :
    sequence.tempo = playing.tempo ∧
      sequence.events.Pairwise fun a b => a.tick.toNat ≤ b.tick.toNat := by
  rw [score.render_eq_ok (tempo_ne_zero_of_render h)] at h
  obtain rfl := Except.ok.inj h
  exact ⟨rfl, pairwise_schedule _ _ _⟩

/-- A start of a beat that ends at or before the last position is at the beginning of the beat. -/
theorem toNat_tick_of_start {n : ℕ} (fits : (n + 1) * ticks ≤ Tick.last) {event : Event}
    (h : event ∈ score.blockAt ticks n) (starts : event.kind = .start) :
    event.tick.toNat = n * ticks := by
  rw [Beat.tick_of_start_mem_block h starts]
  apply Tick.toNat_ofNat_of_le
  rw [Nat.succ_mul] at fits
  omega

/-- A stop of a beat that ends at or before the last position is after the beginning of the beat
and not after its end. -/
theorem toNat_tick_of_stop (pos : 0 < ticks) {n : ℕ} (fits : (n + 1) * ticks ≤ Tick.last)
    {event : Event} (h : event ∈ score.blockAt ticks n) (stops : event.kind = .stop) :
    n * ticks < event.tick.toNat ∧ event.tick.toNat ≤ (n + 1) * ticks := by
  obtain ⟨offset, hpos, hle, htick⟩ := Beat.tick_of_stop_mem_block pos h stops
  rw [Nat.succ_mul] at fits ⊢
  have below : n * ticks + offset ≤ Tick.last := by omega
  rw [htick, Tick.toNat_ofNat_of_le below]
  omega

/-- In a schedule that ends at or before the last position, a start is before every stop that is
listed after it. -/
theorem pairwise_start_stop (score : Score) (pos : 0 < ticks) {count : ℕ}
    (fits : count * ticks ≤ Tick.last) :
    (score.schedule ticks count).Pairwise fun a b =>
      a.kind = .start → b.kind = .stop → a.tick.toNat < b.tick.toNat := by
  have ends : ∀ n ∈ List.range count, (n + 1) * ticks ≤ Tick.last := by
    intro n hn
    rw [List.mem_range] at hn
    exact (Nat.mul_le_mul_right ticks hn).trans fits
  rw [schedule, List.pairwise_flatMap]
  constructor
  · intro n hn
    apply List.pairwise_of_forall_mem_list
    intro a ha b hb starts stops
    rw [toNat_tick_of_start (ends n hn) ha starts]
    exact (toNat_tick_of_stop pos (ends n hn) hb stops).1
  · apply List.pairwise_lt_range.imp_of_mem
    intro n m hn hm hnm a ha b hb starts stops
    rw [toNat_tick_of_start (ends n hn) ha starts]
    calc n * ticks
        ≤ m * ticks := Nat.mul_le_mul_right ticks hnm.le
      _ < b.tick.toNat := (toNat_tick_of_stop pos (ends m hm) hb stops).1

/-- **Events are in order.** The ticks of a performance never decrease. If it ends at or before
the last position, then also no start is at or after a stop that is listed later, and no stop is
after the beginning of the beat that follows its own: the events are the blocks of the beats, and
beat number `n` starts at `n` times the length of a beat and has stopped one beat later. -/
theorem render_ordered (score : Score) (playing : Playing) (h : playing.tempo ≠ 0) :
    ∃ sequence, score.render playing = .ok sequence ∧
      (sequence.events.Pairwise fun a b => a.tick.toNat ≤ b.tick.toNat) ∧
      (score.size * playing.repeats.toNat * playing.resolution.ticks.toNat < 0x10000000000000000 →
        (sequence.events.Pairwise fun a b =>
          a.kind = .start → b.kind = .stop → a.tick.toNat < b.tick.toNat) ∧
        sequence.events = (List.range (score.size * playing.repeats.toNat)).flatMap
          (score.blockAt playing.resolution.ticks.toNat) ∧
        ∀ n < score.size * playing.repeats.toNat,
          ∀ event ∈ score.blockAt playing.resolution.ticks.toNat n,
            (event.kind = .start → event.tick.toNat = n * playing.resolution.ticks.toNat) ∧
            (event.kind = .stop →
              event.tick.toNat ≤ (n + 1) * playing.resolution.ticks.toNat)) := by
  refine ⟨_, score.render_eq_ok h, pairwise_schedule _ _ _, ?_⟩
  intro bound
  rw [Nat.mul_comm playing.repeats.toNat]
  have pos := playing.resolution.toNat_pos
  have fits : score.size * playing.repeats.toNat * playing.resolution.ticks.toNat ≤ Tick.last := by
    unfold Tick.last
    omega
  refine ⟨pairwise_start_stop score pos fits, rfl, ?_⟩
  intro n hn event hevent
  have ends := (Nat.mul_le_mul_right playing.resolution.ticks.toNat hn).trans fits
  constructor
  · exact toNat_tick_of_start ends hevent
  · intro stops
    exact (toNat_tick_of_stop pos ends hevent stops).2

/-- Three hits in a beat of two ticks, followed by a silent beat, twice. -/
theorem render_ordered_crowded :
    ∃ sequence, Score.render
        ⟨[⟨[⟨.boom, .normal⟩, ⟨.tik, .normal⟩, ⟨.kah, .accented⟩]⟩, ⟨[]⟩]⟩
        ⟨120, 2, ⟨2, by decide⟩⟩ = .ok sequence ∧
      sequence.events.map (·.tick.toNat) = [0, 0, 0, 1, 2, 2, 4, 4, 4, 5, 6, 6] ∧
      (sequence.events.Pairwise fun a b => a.tick.toNat ≤ b.tick.toNat) ∧
      sequence.events.Pairwise fun a b =>
        a.kind = .start → b.kind = .stop → a.tick.toNat < b.tick.toNat := by
  obtain ⟨sequence, rendered, ordered, strict⟩ := render_ordered
    ⟨[⟨[⟨.boom, .normal⟩, ⟨.tik, .normal⟩, ⟨.kah, .accented⟩]⟩, ⟨[]⟩]⟩
    ⟨120, 2, ⟨2, by decide⟩⟩ (by decide)
  obtain ⟨strict, schedule, _⟩ := strict (by decide)
  refine ⟨sequence, rendered, ?_, ordered, strict⟩
  rw [schedule]
  decide

end Score

end Percussion
