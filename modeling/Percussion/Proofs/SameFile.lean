import Mathlib.Data.List.Nodup
import Percussion.Proofs.FileCompilation
import Percussion.Proofs.Timeline

/-!
# When two texts have the same file

The bytes of a file tell the events of its sequence: nothing that is written is ambiguous
(`Midi.Track.bytesAfter_inj`, `Midi.chunk_inj`), different hits have different messages
(`Midi.Message.ofEvent_inj`), and the distances add up to the ticks (`Midi.notesAfter_inj`). So
compiling loses of a score what its events do not tell, and no more (`compileBytes_eq_iff`).
-/

namespace Percussion

/-! ## Events from notes -/

/-- Sounds are told by their keys. -/
theorem Sound.key_injective : Function.Injective Sound.key := by
  have distinct : (Sound.all.map Sound.key).Nodup := by decide
  intro s s' same
  exact List.inj_on_of_nodup_map distinct (Sound.mem_all s) (Sound.mem_all s') same

theorem Volume.velocity_injective : Function.Injective Volume.velocity := by
  intro v v' same
  cases v <;> cases v' <;> first | rfl | cases same

namespace Midi

/-- The message for an event tells whether a hit starts or stops, and which. -/
theorem Message.ofEvent_inj {event event' : Event} (h : ofEvent event = ofEvent event') :
    event.kind = event'.kind ∧ event.hit = event'.hit := by
  obtain ⟨kind, ⟨sound, volume⟩, tick⟩ := event
  obtain ⟨kind', ⟨sound', volume'⟩, tick'⟩ := event'
  have same (key : sound.key = sound'.key) (velocity : volume.velocity = volume'.velocity) :
      (⟨sound, volume⟩ : Hit) = ⟨sound', volume'⟩ := by
    rw [Sound.key_injective key, Volume.velocity_injective velocity]
  cases kind <;> cases kind' <;> simp only [ofEvent, noteOn.injEq, noteOff.injEq, reduceCtorEq,
    true_and] at h
  · exact ⟨rfl, same h.1 h.2⟩
  · exact ⟨rfl, same h.1 h.2⟩

/-- Notes tell events whose ticks do not decrease. -/
theorem notesAfter_inj {events events' : List Event}
    (ordered : events.Pairwise fun a b => a.tick.toNat ≤ b.tick.toNat)
    (ordered' : events'.Pairwise fun a b => a.tick.toNat ≤ b.tick.toNat)
    (h : notesAfter Tick.zero events = notesAfter Tick.zero events') : events = events' := by
  have messages : events.map Message.ofEvent = events'.map Message.ofEvent := by
    rw [← map_message_notesAfter Tick.zero, h, map_message_notesAfter]
  have ticks : events.map (·.tick.toNat) = events'.map (·.tick.toNat) := by
    rw [← positions_notesAfter Tick.zero (fun _ _ => Nat.zero_le _) ordered, h,
      positions_notesAfter Tick.zero (fun _ _ => Nat.zero_le _) ordered']
  have injective : Function.Injective fun event : Event =>
      (Message.ofEvent event, event.tick.toNat) := by
    intro event event' same
    rw [Prod.mk.injEq] at same
    obtain ⟨kind, hit⟩ := Message.ofEvent_inj same.1
    have tick := Tick.ext same.2
    cases event
    cases event'
    cases kind
    cases hit
    cases tick
    rfl
  apply List.map_injective_iff.mpr injective
  rw [← List.zip_map', ← List.zip_map', messages, ticks]

/-! ## Notes from bytes -/

namespace Track

/-- Events that fit where they are written, none of which ends the track. -/
def GoesOn (track : Track) : Prop :=
  ∀ event ∈ track, event.delta ≤ maxQuantity ∧
    event.message.Writable ∧ event.message ≠ .endOfTrack

variable {before before' : Track} {running : Option UInt8}

theorem GoesOn.readEvents?_bytesAfter (h : before.GoesOn) {count : ℕ}
    (enough : before.length < count) (running : Option UInt8) :
    readEvents? count running (bytesAfter running (before ++ [⟨0, .endOfTrack⟩])) =
      some (before ++ [⟨0, .endOfTrack⟩]) := by
  apply Track.readEvents?_bytesAfter
  · rw [List.forall_mem_append, List.forall_mem_singleton]
    exact ⟨fun event hevent => (h event hevent).1, Nat.zero_le _⟩
  · exact fun event hevent => (h event hevent).2.1
  · exact fun event hevent => (h event hevent).2.2
  · exact enough

/-- Events up to the end of a track are told by their bytes: both are read back from the same. -/
theorem bytesAfter_inj (h : before.GoesOn) (h' : before'.GoesOn)
    (same : bytesAfter running (before ++ [⟨0, .endOfTrack⟩]) =
      bytesAfter running (before' ++ [⟨0, .endOfTrack⟩])) : before = before' := by
  have enough : before.length < max before.length before'.length + 1 := by omega
  have enough' : before'.length < max before.length before'.length + 1 := by omega
  have read := h.readEvents?_bytesAfter enough running
  rw [same, h'.readEvents?_bytesAfter enough' running] at read
  exact (List.append_cancel_right (Option.some.inj read)).symm

end Track

theorem goesOn_notesAfter {events : List Event}
    (narrow : ∀ note ∈ notesAfter Tick.zero events, note.delta ≤ maxQuantity) :
    (notesAfter Tick.zero events).GoesOn := by
  intro note hnote
  obtain ⟨event, same⟩ := exists_event_of_mem_notesAfter hnote
  rw [same]
  exact ⟨narrow note hnote, writable_ofEvent event⟩

/-- A chunk tells its content. -/
theorem chunk_inj {name : String} {content content' : List UInt8}
    (h : chunk name content = chunk name content') : content = content' := by
  rw [chunk, chunk, List.append_assoc, List.append_assoc, List.append_cancel_left_eq] at h
  apply List.append_inj_right h
  rw [length_fixedLength, length_fixedLength]

/-- The notes of a percussion track are told by its bytes. -/
theorem percussionTrack_inj {events events' : List Event} {names : Names}
    (narrow : ∀ note ∈ notesAfter Tick.zero events, note.delta ≤ maxQuantity)
    (narrow' : ∀ note ∈ notesAfter Tick.zero events', note.delta ≤ maxQuantity)
    (h : (percussionTrack (notesAfter Tick.zero events) names).bytes =
      (percussionTrack (notesAfter Tick.zero events') names).bytes) :
    notesAfter Tick.zero events = notesAfter Tick.zero events' := by
  -- the names in front of the notes are the same
  simp only [Track.bytes_eq_bytesAfter, percussionTrack, List.cons_append, List.nil_append,
    Track.bytesAfter, List.append_cancel_left_eq] at h
  exact Track.bytesAfter_inj (goesOn_notesAfter narrow) (goesOn_notesAfter narrow') h

end Midi

/-- Sequences of the same tempo have the same file if and only if they have the same events. -/
theorem Sequence.encode_eq_iff {sequence sequence' : Sequence} {names : Names}
    {bytes bytes' : List UInt8}
    (encoded : sequence.encode names = .ok bytes) (encoded' : sequence'.encode names = .ok bytes')
    (ordered : sequence.events.Pairwise fun a b => a.tick.toNat ≤ b.tick.toNat)
    (ordered' : sequence'.events.Pairwise fun a b => a.tick.toNat ≤ b.tick.toNat)
    (tempo : sequence.tempo = sequence'.tempo) :
    bytes = bytes' ↔ sequence.events = sequence'.events := by
  constructor
  · rintro rfl
    obtain ⟨file', written', rfl⟩ := encode_eq_ok encoded'
    obtain ⟨file, written, same⟩ := encode_eq_ok encoded
    obtain ⟨rfl, narrow⟩ := toMidi_eq_ok written
    obtain ⟨rfl, narrow'⟩ := toMidi_eq_ok written'
    -- the headers are the same, and so are the tracks with the tempo
    simp only [Midi.File.bytes, tempo, List.length_cons, List.length_nil, List.map_cons,
      List.map_nil, List.flatten_cons, List.flatten_nil, List.append_nil,
      List.append_cancel_left_eq] at same
    apply Midi.notesAfter_inj ordered ordered'
    exact Midi.percussionTrack_inj narrow narrow' (Midi.chunk_inj same)
  · intro events
    rw [encode_eq, events, tempo, ← encode_eq, encoded'] at encoded
    exact (Except.ok.inj encoded).symm

/-! ## Scores from bytes -/

/-- **Compiling loses nothing but silence at the end.** Two texts that are compiled in the same way
have the same file if and only if nothing is played in either; or they are played once, and their
scores differ in the silence at the end alone; or they are played again, and their scores are the
same. -/
theorem compileBytes_eq_iff {text₁ text₂ : String} {tempo repeats : UInt32} {names : Names}
    {score₁ score₂ : Score} {sequence₁ sequence₂ : Sequence} {bytes₁ bytes₂ : List UInt8}
    (read₁ : Score.ofText text₁ = .ok score₁) (read₂ : Score.ofText text₂ = .ok score₂)
    (compiled₁ : compileBytes text₁ tempo repeats names = .ok (sequence₁, bytes₁))
    (compiled₂ : compileBytes text₂ tempo repeats names = .ok (sequence₂, bytes₂))
    (fits₁ : score₁.size * repeats.toNat * 240 < 0x10000000000000000)
    (fits₂ : score₂.size * repeats.toNat * 240 < 0x10000000000000000) :
    bytes₁ = bytes₂ ↔
      repeats = 0 ∨ (score₁.hitCount = 0 ∧ score₂.hitCount = 0) ∨
        (repeats = 1 ∧ score₁.trimmed = score₂.trimmed) ∨ (2 ≤ repeats ∧ score₁ = score₂) := by
  obtain ⟨compiled₁, encoded₁⟩ := compileBytes_eq_ok compiled₁
  obtain ⟨compiled₂, encoded₂⟩ := compileBytes_eq_ok compiled₂
  have ne := tempo_ne_zero_of_compile compiled₁
  rw [compile_eq_ok read₁ ne] at compiled₁
  rw [compile_eq_ok read₂ ne] at compiled₂
  obtain rfl := Except.ok.inj compiled₁
  obtain rfl := Except.ok.inj compiled₂
  rw [Nat.mul_comm score₁.size] at fits₁
  rw [Nat.mul_comm score₂.size] at fits₂
  -- from bytes to events, from events to what is heard, and from there to the scores
  calc bytes₁ = bytes₂
      ↔ score₁.schedule 240 (repeats.toNat * score₁.size) =
          score₂.schedule 240 (repeats.toNat * score₂.size) :=
        Sequence.encode_eq_iff encoded₁ encoded₂ (Score.pairwise_schedule ..)
          (Score.pairwise_schedule ..) rfl
    _ ↔ ∀ n, score₁.heardAt repeats.toNat n = score₂.heardAt repeats.toNat n :=
        Score.schedule_eq_iff (by decide) (Nat.le_of_lt_succ fits₁) (Nat.le_of_lt_succ fits₂)
    _ ↔ _ := by
        rw [Score.heardAt_eq_iff, UInt32.le_iff_toNat_le, ← UInt32.toNat_inj, ← UInt32.toNat_inj]
        rfl

/-- A rest at the end is lost if the score is played once, but not if it is played twice. -/
theorem compileBytes_eq_iff_rest_at_end :
    (∃ sequence₁ sequence₂ bytes, compileBytes "boom ." 120 1 {} = .ok (sequence₁, bytes) ∧
      compileBytes "boom" 120 1 {} = .ok (sequence₂, bytes)) ∧
    ∃ sequence₁ sequence₂ bytes₁ bytes₂, compileBytes "boom ." 120 2 {} = .ok (sequence₁, bytes₁) ∧
      compileBytes "boom" 120 2 {} = .ok (sequence₂, bytes₂) ∧ bytes₁ ≠ bytes₂ := by
  have read₁ : Score.ofText "boom ." = .ok ⟨[⟨[⟨.boom, .normal⟩]⟩, ⟨[]⟩]⟩ := by decide +kernel
  have read₂ : Score.ofText "boom" = .ok ⟨[⟨[⟨.boom, .normal⟩]⟩]⟩ := by decide +kernel
  constructor
  · have compiled₁ : compileBytes "boom ." 120 1 {} = .ok (_, _) :=
      compileBytes_of_ok (compile_eq_ok read₁ (by decide) 1) rfl
    have compiled₂ : compileBytes "boom" 120 1 {} = .ok (_, _) :=
      compileBytes_of_ok (compile_eq_ok read₂ (by decide) 1) rfl
    have same := (compileBytes_eq_iff read₁ read₂ compiled₁ compiled₂ (by decide) (by decide)).mpr
      (.inr (.inr (.inl ⟨rfl, by decide⟩)))
    exact ⟨_, _, _, compiled₁, same ▸ compiled₂⟩
  · have compiled₁ : compileBytes "boom ." 120 2 {} = .ok (_, _) :=
      compileBytes_of_ok (compile_eq_ok read₁ (by decide) 2) rfl
    have compiled₂ : compileBytes "boom" 120 2 {} = .ok (_, _) :=
      compileBytes_of_ok (compile_eq_ok read₂ (by decide) 2) rfl
    refine ⟨_, _, _, _, compiled₁, compiled₂, ?_⟩
    rw [Ne, compileBytes_eq_iff read₁ read₂ compiled₁ compiled₂ (by decide) (by decide)]
    decide

end Percussion
