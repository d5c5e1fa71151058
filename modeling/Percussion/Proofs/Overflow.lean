import Percussion.Proofs.SideBySide

/-!
# Gaps that are too wide for a file

A sequence has no file if and only if one of its events comes more than 268435455 ticks after the
one before, and the first such distance is the error (`Midi.wideGap?_eq_some_iff`). In notation this
is a matter of silence: fewer than 1118481 silent beats in a row never do any harm, and 1118482 of
them before a hit always do (`overflow_iff_wideGapAt`). In between it depends on how many hits the
beat before the silence has.
-/

namespace Percussion

namespace Midi

/-! ## The first gap that is too wide -/

/-- The tick of the event before number `index`, counted from 0; before the first is the start of
the piece. -/
def tickBefore (events : List Event) : (index : ℕ) → ℕ
  | 0 => 0
  | index + 1 => (events[index]?.map (·.tick.toNat)).getD 0

/-- Event number `index` is `delta` ticks after the event before it, and that is too wide. -/
structure WideGapAt (events : List Event) (index delta : ℕ) : Prop where
  gap : ∃ event, events[index]? = some event ∧ event.tick.toNat = tickBefore events index + delta
  wide : 268435455 < delta

theorem getElem?_deltas (events : List Event) (index : ℕ) :
    (deltas events)[index]? =
      events[index]?.map fun event => event.tick.toNat - tickBefore events index := by
  rw [deltas, List.getElem?_zipWith, List.getElem?_map]
  cases here : events[index]? with
  | none => cases (Tick.zero :: events.map (·.tick))[index]? <;> rfl
  | some event =>
    cases index with
    | zero => rfl
    | succ index =>
      obtain ⟨before, hbefore⟩ : ∃ before, events[index]? = some before := by
        have inside := (List.getElem?_eq_some_iff.mp here).1
        exact ⟨_, List.getElem?_eq_getElem (by omega)⟩
      rw [List.getElem?_cons_succ, List.getElem?_map, tickBefore, hbefore]
      rfl

/-- Distances are cut off at zero, which hides no gap that is too wide. -/
theorem wideGapAt_iff {events : List Event} {index delta : ℕ} :
    WideGapAt events index delta ↔ (deltas events)[index]? = some delta ∧ maxQuantity < delta := by
  rw [getElem?_deltas, Option.map_eq_some_iff]
  constructor
  · rintro ⟨⟨event, here, tick⟩, wide⟩
    exact ⟨⟨event, here, by omega⟩, wide⟩
  · rintro ⟨⟨event, here, delta_eq⟩, wide⟩
    have narrow : 268435455 < delta := wide
    exact ⟨⟨event, here, by omega⟩, wide⟩

/-- A gap that is too wide is found if there is one. -/
theorem exists_wideGap?_iff {events : List Event} :
    (∃ delta, wideGap? events = some delta) ↔ ∃ index delta, WideGapAt events index delta := by
  simp only [wideGapAt_iff]
  rw [← Option.isSome_iff_exists, wideGap?, List.find?_isSome]
  constructor
  · rintro ⟨delta, mem, wide⟩
    obtain ⟨index, here⟩ := List.getElem?_of_mem mem
    exact ⟨index, delta, here, of_decide_eq_true wide⟩
  · rintro ⟨index, delta, here, wide⟩
    exact ⟨delta, List.mem_of_getElem? here, decide_eq_true wide⟩

/-- The gap that is reported is the first of those that are too wide. -/
theorem wideGap?_eq_some_iff {events : List Event} {delta : ℕ} :
    wideGap? events = some delta ↔
      ∃ index, WideGapAt events index delta ∧
        ∀ earlier < index, ∀ distance, ¬ WideGapAt events earlier distance := by
  simp only [wideGapAt_iff]
  rw [wideGap?, List.find?_eq_some_iff_getElem]
  constructor
  · rintro ⟨wide, index, inside, here, first⟩
    refine ⟨index, ⟨List.getElem?_eq_some_iff.mpr ⟨inside, here⟩, of_decide_eq_true wide⟩, ?_⟩
    rintro earlier less distance ⟨there, wide'⟩
    obtain ⟨_, rfl⟩ := List.getElem?_eq_some_iff.mp there
    have narrow := first earlier less
    simp [wide'] at narrow
  · rintro ⟨index, ⟨here, wide⟩, first⟩
    obtain ⟨inside, here⟩ := List.getElem?_eq_some_iff.mp here
    refine ⟨decide_eq_true wide, index, inside, here, ?_⟩
    intro earlier less
    have narrow := first earlier less (deltas events)[earlier]
    rw [not_and] at narrow
    simpa using narrow (List.getElem?_eq_getElem (by omega))

end Midi

/-! ## Silence -/

namespace Score

variable {score : Score} {ticks : ℕ}

/-- From beat number `start` of a performance on, `length` beats are silent. -/
def SilentFor (score : Score) (start length : ℕ) : Prop :=
  ∀ i < length, (score.beatAt (start + i)).hits = []

/-- Silent beats add nothing to a performance. -/
theorem schedule_add_of_silentFor {start length : ℕ} (silent : score.SilentFor start length) :
    score.schedule ticks (start + length) = score.schedule ticks start := by
  induction length with
  | zero => rfl
  | succ length ih =>
    rw [← Nat.add_assoc, schedule_succ, blockAt_eq_nil (silent length (by omega)),
      List.append_nil]
    exact ih fun i hi => silent i (by omega)

/-- After a silence, there is a first beat with hits among those up to one that has any. -/
theorem exists_silentFor_of_sounds {start length n : ℕ} (silent : score.SilentFor start length)
    (after : start + length ≤ n) (sounds : (score.beatAt n).hits ≠ []) :
    ∃ more, length ≤ more ∧ start + more ≤ n ∧ score.SilentFor start more ∧
      (score.beatAt (start + more)).hits ≠ [] := by
  have some : ∃ more, (score.beatAt (start + more)).hits ≠ [] := by
    refine ⟨n - start, ?_⟩
    rwa [Nat.add_sub_cancel' (by omega)]
  refine ⟨Nat.find some, ?_, ?_, ?_, Nat.find_spec some⟩
  · rw [Nat.le_find_iff]
    intro i hi
    rw [not_not]
    exact silent i hi
  · have bound : Nat.find some ≤ n - start := by
      apply Nat.find_min'
      rwa [Nat.add_sub_cancel' (by omega)]
    omega
  · intro i hi
    exact not_not.mp (Nat.find_min some hi)

/-- The gap before a hit is at least as wide as the silence before it, as long as positions do not
come to an end. -/
theorem exists_wideGap?_of_silence (pos : 0 < ticks) {start length n count : ℕ}
    (fits : count * ticks ≤ Tick.last) (silent : score.SilentFor start length)
    (after : start + length ≤ n) (within : n < count) (sounds : (score.beatAt n).hits ≠ [])
    (wide : Midi.maxQuantity < length * ticks) :
    ∃ delta, Midi.wideGap? (score.schedule ticks count) = some delta := by
  obtain ⟨more, longer, before, quiet, sounds⟩ := exists_silentFor_of_sounds silent after sounds
  obtain ⟨resumed, reached, h⟩ := score.exists_silentSince pos start
  obtain ⟨hit, block, hblock⟩ :=
    Beat.exists_block_eq_cons sounds ticks ((start + more) * ticks)
  -- the last event before the silence is not after its beginning
  have earlier : reached ≤ start * ticks := h.before.trans (Nat.mul_le_mul_right _ h.le)
  have first : (start + more + 1) * ticks ≤ Tick.last :=
    (Nat.mul_le_mul_right _ (by omega)).trans fits
  have delta : length * ticks ≤
      (Tick.ofNat ((start + more) * ticks)).since (Tick.ofNat reached) := by
    have silence : length * ticks ≤ more * ticks := Nat.mul_le_mul_right _ longer
    rw [Nat.succ_mul] at first
    rw [Tick.since, Tick.toNat_ofNat_of_le (by omega), Tick.toNat_ofNat_of_le]
    · rw [Nat.add_mul]
      omega
    · rw [Nat.add_mul] at first
      omega
  obtain ⟨later, hlater⟩ :=
    score.schedule_prefix_schedule ticks (show start + more + 1 ≤ count by omega)
  have mem : (Tick.ofNat ((start + more) * ticks)).since (Tick.ofNat reached) ∈
      Midi.deltas (score.schedule ticks count) := by
    show _ ∈ Midi.deltasAfter Tick.zero _
    rw [← hlater, schedule_succ, schedule_add_of_silentFor quiet, Midi.deltasAfter_append,
      Midi.deltasAfter_append, h.lastTick, blockAt, hblock, Midi.deltasAfter_cons]
    simp
  rw [← Option.isSome_iff_exists, Midi.wideGap?, List.find?_isSome]
  exact ⟨_, mem, decide_eq_true (by omega)⟩

end Score

/-! ## Overflow -/

section Overflow

variable {text : String} {score : Score} {tempo repeats : UInt32}

/-- A sequence has no bytes just if one of its gaps is too wide. -/
theorem Sequence.exists_encode_error_iff (sequence : Sequence) (names : Names) :
    (∃ error, sequence.encode names = .error error) ↔
      ∃ index delta, Midi.WideGapAt sequence.events index delta := by
  rw [← Midi.exists_wideGap?_iff]
  simp only [encode_eq_error_iff]
  constructor
  · rintro ⟨_, delta, wide, _⟩
    exact ⟨delta, wide⟩
  · rintro ⟨delta, wide⟩
    exact ⟨_, delta, wide, rfl⟩

/-- A run of silence that is short enough, and the rest of the beat before it, fit in a file. -/
theorem exists_compileBytes_eq_ok (read : Score.ofText text = .ok score) (ne : tempo ≠ 0)
    (short : ∀ start length, start + length ≤ repeats.toNat * score.size →
      score.SilentFor start length → length < 1118481) (names : Names) :
    ∃ sequence bytes, compileBytes text tempo repeats names = .ok (sequence, bytes) := by
  have narrow : Midi.wideGap? (score.schedule 240 (repeats.toNat * score.size)) = none := by
    rw [Midi.wideGap?, List.find?_eq_none]
    intro delta hdelta
    have bound := score.le_of_mem_deltas (by decide)
      (fun start length inside quiet => short start length inside.le quiet) delta hdelta
    have limit : Midi.maxQuantity = 268435455 := rfl
    rw [decide_eq_true_eq]
    omega
  have encoded := Sequence.encode_eq ⟨tempo, .eighth, Tick.ofBeats (score.size * repeats.toNat) 240,
    score.schedule 240 (repeats.toNat * score.size)⟩ names
  rw [narrow] at encoded
  exact ⟨_, _, compileBytes_of_ok (compile_eq_ok read ne repeats) encoded⟩

/-- A silence of 1118482 beats before a hit is too long for a file. -/
theorem exists_compileBytes_eq_overflow (read : Score.ofText text = .ok score) (ne : tempo ≠ 0)
    (fits : score.size * repeats.toNat * 240 < 0x10000000000000000) {start length n : ℕ}
    (long : 1118482 ≤ length) (silent : score.SilentFor start length) (after : start + length ≤ n)
    (within : n < repeats.toNat * score.size) (sounds : (score.beatAt n).hits ≠ [])
    (names : Names) :
    ∃ delta, compileBytes text tempo repeats names = .error (.midi (.tickOverflow delta)) := by
  have limit : Midi.maxQuantity = 268435455 := rfl
  rw [Nat.mul_comm score.size] at fits
  obtain ⟨delta, wide⟩ := Score.exists_wideGap?_of_silence (by decide : 0 < 240)
    (Nat.le_of_lt_succ fits) silent after within sounds (by omega)
  refine ⟨delta, compileBytes_of_wide (compile_eq_ok read ne repeats) ?_⟩
  exact encode_eq_error_iff.mpr ⟨delta, wide, rfl⟩

/-- **Only silence keeps a text from having a file.** A sequence has no file if and only if there is
an event more than 268435455 ticks after the one before, and the first such distance is the error.
A text of a score has a file if fewer than 1118481 beats are silent in a row whenever it is played,
and has none if at least 1118482 of them are silent before one that is not. -/
theorem overflow_iff_wideGapAt (names : Names) :
    (∀ sequence : Sequence,
      ((∃ error, sequence.encode names = .error error) ↔
        ∃ index delta, Midi.WideGapAt sequence.events index delta) ∧
      ∀ error, sequence.encode names = .error error ↔
        ∃ index delta, error = .tickOverflow delta ∧
          Midi.WideGapAt sequence.events index delta ∧
          ∀ earlier < index, ∀ distance, ¬ Midi.WideGapAt sequence.events earlier distance) ∧
    ∀ (text : String) (score : Score) (tempo repeats : UInt32), Score.ofText text = .ok score →
      tempo ≠ 0 → score.size * repeats.toNat * 240 < 0x10000000000000000 →
      ((∀ start length, start + length ≤ repeats.toNat * score.size →
          score.SilentFor start length → length < 1118481) →
        ∃ sequence bytes, compileBytes text tempo repeats names = .ok (sequence, bytes)) ∧
      ∀ start length n, 1118482 ≤ length → score.SilentFor start length → start + length ≤ n →
        n < repeats.toNat * score.size → (score.beatAt n).hits ≠ [] →
        ∃ delta, compileBytes text tempo repeats names = .error (.midi (.tickOverflow delta)) := by
  refine ⟨fun sequence => ⟨sequence.exists_encode_error_iff names, fun error => ?_⟩, ?_⟩
  · rw [encode_eq_error_iff]
    simp only [Midi.wideGap?_eq_some_iff]
    constructor
    · rintro ⟨delta, ⟨index, first⟩, same⟩
      exact ⟨index, delta, same, first⟩
    · rintro ⟨index, delta, same, first⟩
      exact ⟨delta, ⟨index, first⟩, same⟩
  · intro text score tempo repeats read ne fits
    refine ⟨fun short => exists_compileBytes_eq_ok read ne short names, ?_⟩
    intro start length n long silent after within sounds
    exact exists_compileBytes_eq_overflow read ne fits long silent after within sounds names

/-- A hit after a row of silent beats. -/
private def hitAfter (rests : ℕ) : Score :=
  ⟨List.replicate rests ⟨[]⟩ ++ [⟨[⟨.boom, .normal⟩]⟩]⟩

private theorem size_hitAfter (rests : ℕ) : (hitAfter rests).size = rests + 1 := by
  simp [hitAfter, Score.size]

private theorem silentFor_hitAfter (rests : ℕ) : (hitAfter rests).SilentFor 0 rests := by
  intro i hi
  rw [Score.beatAt_of_lt (by rw [size_hitAfter]; omega)]
  simp [hitAfter, hi]

private theorem beatAt_hitAfter (rests : ℕ) :
    (hitAfter rests).beatAt rests = ⟨[⟨.boom, .normal⟩]⟩ := by
  rw [Score.beatAt_of_lt (by rw [size_hitAfter]; omega)]
  simp [hitAfter]

private theorem ofText_hitAfter (more : ℕ) :
    Score.ofText (beside (copies "." more) "boom") = .ok (hitAfter (more + 1)) := by
  have rest : Score.ofText "." = .ok ⟨[⟨[]⟩]⟩ := by decide +kernel
  have hit : Score.ofText "boom" = .ok ⟨[⟨[⟨.boom, .normal⟩]⟩]⟩ := by decide +kernel
  have voices : (tokenRows ".".toList).length = (tokenRows "boom".toList).length := by
    decide +kernel
  rw [Score.ofText_beside (Score.ofText_copies rest more) hit
    ((Score.length_tokenRows_copies "." more).trans voices), List.flatten_replicate_singleton]
  rfl

/-- Rests that are short do no harm; 1118482 rests and a hit after them do. -/
theorem overflow_iff_wideGapAt_long_rest :
    (∃ sequence bytes, compileBytes "boom . TIK" 120 3 {} = .ok (sequence, bytes)) ∧
    ∃ delta, compileBytes (beside (copies "." 1118481) "boom") 120 1 {} =
      .error (.midi (.tickOverflow delta)) := by
  obtain ⟨_, texts⟩ := overflow_iff_wideGapAt {}
  constructor
  · have read : Score.ofText "boom . TIK" =
        .ok ⟨[⟨[⟨.boom, .normal⟩]⟩, ⟨[]⟩, ⟨[⟨.tik, .accented⟩]⟩]⟩ := by decide +kernel
    refine (texts _ _ 120 3 read (by decide) (by decide)).1 ?_
    intro start length inside _
    have beats : (3 : UInt32).toNat * Score.size
        ⟨[⟨[⟨.boom, .normal⟩]⟩, ⟨[]⟩, ⟨[⟨.tik, .accented⟩]⟩]⟩ = 9 := rfl
    omega
  · -- the number of rests is kept from being counted out
    obtain ⟨more, rests⟩ : ∃ more, more = 1118481 := ⟨_, rfl⟩
    have once : (1 : UInt32).toNat = 1 := rfl
    have size := size_hitAfter (more + 1)
    rw [← rests]
    refine (texts _ _ 120 1 (ofText_hitAfter more) (by decide) ?_).2 0 (more + 1) (more + 1) ?_
      (silentFor_hitAfter (more + 1)) (Nat.zero_add _).le ?_ ?_
    · rw [size, once]
      omega
    · omega
    · rw [size, once]
      omega
    · rw [beatAt_hitAfter]
      exact List.cons_ne_nil _ _

end Overflow

end Percussion
