import Percussion.Compile.File
import Percussion.Proofs.Gaps
import Percussion.Proofs.Stores

/-!
# What compiling files does

`CompilesTo` and `CompilesFile` are the law of compiling into a file: five things can go wrong, the
earlier ones win over the later ones, and whatever goes wrong the store stays as it is. If nothing
does, the only change is the file that is written. Both ways of compiling keep to the law, and it
leaves nothing open (`settles_compileToFile`, `settles_compileFile`).
-/

namespace Percussion

open Storage

/-- The law of compiling a text into the file at `output`: the result, and the store after it. -/
inductive CompilesTo (store : Store) (text : String) (tempo repeats : UInt32) (output : String)
    (names : Names) : Except Error Sequence → Store → Prop
  /-- The text is not a score. -/
  | misread {error : ScoreError} : Score.ofText text = .error error →
    CompilesTo store text tempo repeats output names (.error (.score error)) store
  /-- It is a score, but cannot be played at tempo 0. -/
  | still {score : Score} : Score.ofText text = .ok score → tempo = 0 →
    CompilesTo store text tempo repeats output names (.error (.render (.invalidTempo 0))) store
  /-- It can be played, but there are gaps between events that are too wide. The first is the
  error. -/
  | wide {sequence : Sequence} {delta : ℕ} : compile text tempo repeats = .ok sequence →
    Midi.wideGap? sequence.events = some delta →
    CompilesTo store text tempo repeats output names (.error (.midi (.tickOverflow delta))) store
  /-- There are bytes to be written, but the output does not open. -/
  | shut {sequence : Sequence} {bytes : List UInt8} {fault : Fault} :
    compile text tempo repeats = .ok sequence → sequence.encode names = .ok bytes →
    (∀ location, ¬ store.Opens output location) → store.write output bytes = .error fault →
    CompilesTo store text tempo repeats output names (.error (.midi (.writing fault.message))) store
  /-- The bytes are written where the output opens, and nothing else changes. -/
  | written {sequence : Sequence} {bytes : List UInt8} {location : Location} {after : Store} :
    compile text tempo repeats = .ok sequence → sequence.encode names = .ok bytes →
    store.Opens output location → store.Written location bytes after →
    after.read output = .ok bytes →
    CompilesTo store text tempo repeats output names (.ok sequence) after

/-- The law of compiling the file at `input` into the file at `output`: what the file holds before
is what is compiled. -/
inductive CompilesFile (store : Store) (input : String) (tempo repeats : UInt32) (output : String)
    (names : Names) : Except Error Sequence → Store → Prop
  | unreadable {fault : Fault} : store.Unreadable input fault →
    CompilesFile store input tempo repeats output names (.error (.reading fault.message)) store
  | read {text : String} {result : Except Error Sequence} {after : Store} :
    store.Holds input text → CompilesTo store text tempo repeats output names result after →
    CompilesFile store input tempo repeats output names result after

/-- A law settles what has been done if it holds of it, and of nothing that differs from it in the
result or in what there is anywhere afterwards. -/
def Settles (law : Except Error Sequence → Store → Prop) (done : Except Error Sequence × Store) :
    Prop :=
  law done.1 done.2 ∧ ∀ result after, law result after →
    result = done.1 ∧ ∀ location, after.get? location = done.2.get? location

variable {text output input : String} {tempo repeats : UInt32} {names : Names} {store : Store}

/-! ## Sequences and bytes -/

/-- A text that is no score is not compiled. -/
theorem compile_of_misread {error : ScoreError} (h : Score.ofText text = .error error) :
    compile text tempo repeats = .error (.score error) := by
  rw [compile, h]
  rfl

/-- A score is not played at tempo 0. -/
theorem compile_of_still {score : Score} (h : Score.ofText text = .ok score) :
    compile text 0 repeats = .error (.render (.invalidTempo 0)) := by
  rw [compile, h]
  rfl

/-- A score is played at every tempo but 0. -/
theorem compile_eq_ok {score : Score} (h : Score.ofText text = .ok score) (ne : tempo ≠ 0)
    (repeats : UInt32) :
    compile text tempo repeats = .ok {
      tempo
      resolution := .eighth
      length := Tick.ofBeats (score.size * repeats.toNat) 240
      events := score.schedule 240 (repeats.toNat * score.size) } := by
  have rendered := @Score.render_eq_ok score { tempo, repeats } ne
  rw [compile, h]
  simp only [bind, Except.bind, Except.mapError, rendered]
  rfl

/-- The first gap that is too wide is the only thing that keeps a sequence from its bytes. -/
theorem encode_eq_error_iff {sequence : Sequence} {error : MidiError} :
    sequence.encode names = .error error ↔
      ∃ delta, Midi.wideGap? sequence.events = some delta ∧ error = .tickOverflow delta := by
  rw [Sequence.encode_eq]
  cases Midi.wideGap? sequence.events with
  | none => simp
  | some delta => simp [eq_comm]

theorem compileBytes_of_error {error : Error} (h : compile text tempo repeats = .error error) :
    compileBytes text tempo repeats names = .error error := by
  rw [compileBytes, h]
  rfl

theorem compileBytes_of_wide {sequence : Sequence} {error : MidiError}
    (h : compile text tempo repeats = .ok sequence) (wide : sequence.encode names = .error error) :
    compileBytes text tempo repeats names = .error (.midi error) := by
  rw [compileBytes, h]
  simp only [bind, Except.bind, wide, Except.mapError]

theorem compileBytes_of_ok {sequence : Sequence} {bytes : List UInt8}
    (h : compile text tempo repeats = .ok sequence) (encoded : sequence.encode names = .ok bytes) :
    compileBytes text tempo repeats names = .ok (sequence, bytes) := by
  rw [compileBytes, h]
  simp only [bind, Except.bind, encoded, Except.mapError]
  rfl

/-- Whatever has bytes is a sequence, and the bytes are those of its file. -/
theorem compileBytes_eq_ok {sequence : Sequence} {bytes : List UInt8}
    (h : compileBytes text tempo repeats names = .ok (sequence, bytes)) :
    compile text tempo repeats = .ok sequence ∧ sequence.encode names = .ok bytes := by
  cases compiled : compile text tempo repeats with
  | error error =>
    rw [compileBytes_of_error compiled] at h
    cases h
  | ok sequence =>
    cases encoded : sequence.encode names with
    | error error =>
      rw [compileBytes_of_wide compiled encoded] at h
      cases h
    | ok bytes =>
      rw [compileBytes_of_ok compiled encoded] at h
      cases h
      exact ⟨rfl, encoded⟩

theorem tempo_ne_zero_of_compile {sequence : Sequence}
    (h : compile text tempo repeats = .ok sequence) : tempo ≠ 0 := by
  rintro rfl
  cases read : Score.ofText text with
  | error error =>
    rw [compile_of_misread read] at h
    cases h
  | ok score =>
    rw [compile_of_still read] at h
    cases h

/-! ## Compiling a text -/

theorem run_compileToFile_of_error {error : Error}
    (h : compileBytes text tempo repeats names = .error error) :
    (compileToFile text tempo repeats output names : StateM Store _).run store =
      (.error error, store) := by
  rw [compileToFile, h]
  rfl

/-- The bytes are written to the output, if it can be written. -/
theorem run_compileToFile_of_ok {sequence : Sequence} {bytes : List UInt8}
    (h : compileBytes text tempo repeats names = .ok (sequence, bytes)) :
    (compileToFile text tempo repeats output names : StateM Store _).run store =
      match store.write output bytes with
      | .error fault => (.error (.midi (.writing fault.message)), store)
      | .ok after => (.ok sequence, after) := by
  rw [compileToFile, h]
  simp only [StateT.run_bind, Store.run_write]
  cases store.write output bytes with
  | error fault => rfl
  | ok after => rfl

/-- Whatever the law allows is done, up to how the store afterwards is written down. -/
theorem CompilesTo.run_eq {result : Except Error Sequence} {after : Store}
    (h : CompilesTo store text tempo repeats output names result after) :
    ∃ final,
      (compileToFile text tempo repeats output names : StateM Store _).run store =
        (result, final) ∧
      CompilesTo store text tempo repeats output names result final ∧
      ∀ location, after.get? location = final.get? location := by
  cases h with
  | misread read =>
    refine ⟨store, ?_, .misread read, fun _ => rfl⟩
    exact run_compileToFile_of_error (compileBytes_of_error (compile_of_misread read))
  | still read zero =>
    subst zero
    refine ⟨store, ?_, .still read rfl, fun _ => rfl⟩
    exact run_compileToFile_of_error (compileBytes_of_error (compile_of_still read))
  | wide compiled wide =>
    refine ⟨store, ?_, .wide compiled wide, fun _ => rfl⟩
    apply run_compileToFile_of_error
    apply compileBytes_of_wide compiled
    exact encode_eq_error_iff.mpr ⟨_, wide, rfl⟩
  | shut compiled encoded opens shut =>
    refine ⟨store, ?_, .shut compiled encoded opens shut, fun _ => rfl⟩
    rw [run_compileToFile_of_ok (compileBytes_of_ok compiled encoded), shut]
  | @written sequence bytes location _ compiled encoded opens written _ =>
    refine ⟨store.put location (.file bytes), ?_,
      .written compiled encoded opens (opens.written bytes) (opens.read_put bytes),
      written.get?_eq (opens.written bytes)⟩
    rw [run_compileToFile_of_ok (compileBytes_of_ok compiled encoded), opens.write_eq]

/-- Either the bytes for the text are written, or the store stays as it is and there are no bytes or
no place for them. -/
theorem CompilesTo.written_or_unchanged {result : Except Error Sequence} {after : Store}
    (h : CompilesTo store text tempo repeats output names result after) :
    (∃ sequence bytes location, result = .ok sequence ∧
      compile text tempo repeats = .ok sequence ∧ sequence.encode names = .ok bytes ∧
      store.Opens output location ∧ store.Written location bytes after) ∨
    ∃ error, result = .error error ∧ after = store ∧
      ∀ sequence bytes location, compile text tempo repeats = .ok sequence →
        sequence.encode names = .ok bytes → ¬ store.Opens output location := by
  cases h with
  | misread read =>
    refine .inr ⟨_, rfl, rfl, fun _ _ _ compiled => ?_⟩
    rw [compile_of_misread read] at compiled
    cases compiled
  | still read zero =>
    subst zero
    refine .inr ⟨_, rfl, rfl, fun _ _ _ compiled => ?_⟩
    rw [compile_of_still read] at compiled
    cases compiled
  | wide compiled wide =>
    refine .inr ⟨_, rfl, rfl, fun _ _ _ compiled' encoded => ?_⟩
    obtain rfl := Except.ok.inj (compiled.symm.trans compiled')
    rw [encode_eq_error_iff.mpr ⟨_, wide, rfl⟩] at encoded
    cases encoded
  | shut _ _ opens _ => exact .inr ⟨_, rfl, rfl, fun _ _ location _ _ => opens location⟩
  | written compiled encoded opens written _ =>
    exact .inl ⟨_, _, _, rfl, compiled, encoded, opens, written⟩

/-- The law has something to say in every case. -/
theorem exists_compilesTo (store : Store) (text : String) (tempo repeats : UInt32)
    (output : String) (names : Names) :
    ∃ result after, CompilesTo store text tempo repeats output names result after := by
  cases read : Score.ofText text with
  | error error => exact ⟨_, _, .misread read⟩
  | ok score =>
    by_cases zero : tempo = 0
    · exact ⟨_, _, .still read zero⟩
    have compiled := compile_eq_ok read zero repeats
    cases encoded : Sequence.encode _ names with
    | error error =>
      obtain ⟨delta, wide, _⟩ := encode_eq_error_iff.mp encoded
      exact ⟨_, _, .wide compiled wide⟩
    | ok bytes =>
      by_cases opens : ∃ location, store.Opens output location
      · obtain ⟨location, opens⟩ := opens
        exact ⟨_, _, .written compiled encoded opens (opens.written bytes) (opens.read_put bytes)⟩
      · rw [not_exists] at opens
        obtain ⟨fault, shut⟩ := Store.exists_write_eq_error opens
        exact ⟨_, _, .shut compiled encoded opens (shut bytes)⟩

/-- A compilation into a file settles whether the text compiles to it. -/
theorem settles_compileToFile (store : Store) (text : String) (tempo repeats : UInt32)
    (output : String) (names : Names) :
    Settles (CompilesTo store text tempo repeats output names)
      ((compileToFile text tempo repeats output names : StateM Store _).run store) := by
  obtain ⟨result, after, law⟩ := exists_compilesTo store text tempo repeats output names
  obtain ⟨final, run, done, _⟩ := law.run_eq
  rw [run]
  refine ⟨done, ?_⟩
  intro other elsewhere law'
  obtain ⟨final', run', _, same⟩ := law'.run_eq
  rw [run, Prod.mk.injEq] at run'
  obtain ⟨rfl, rfl⟩ := run'
  exact ⟨rfl, same⟩

/-! ## Compiling a file -/

theorem run_compileFile_of_holds (holds : store.Holds input text) :
    (compileFile input tempo repeats output names : StateM Store _).run store =
      (compileToFile text tempo repeats output names : StateM Store _).run store := by
  rw [compileFile]
  simp only [StateT.run_bind, holds.run_readText]
  rfl

theorem run_compileFile_of_unreadable {fault : Fault} (h : store.Unreadable input fault) :
    (compileFile input tempo repeats output names : StateM Store _).run store =
      (.error (.reading fault.message), store) := by
  rw [compileFile]
  simp only [StateT.run_bind, h.run_readText]
  rfl

/-- So does one that begins with reading the text. -/
theorem settles_compileFile (store : Store) (input : String) (tempo repeats : UInt32)
    (output : String) (names : Names) :
    Settles (CompilesFile store input tempo repeats output names)
      ((compileFile input tempo repeats output names : StateM Store _).run store) := by
  rcases store.holds_or_unreadable input with ⟨text, holds⟩ | ⟨fault, unreadable⟩
  · rw [run_compileFile_of_holds holds]
    obtain ⟨done, only⟩ := settles_compileToFile store text tempo repeats output names
    refine ⟨.read holds done, ?_⟩
    intro result after law
    cases law with
    | unreadable unreadable => exact absurd holds (unreadable.not_holds _)
    | read holds' law =>
      obtain rfl := holds.unique holds'
      exact only result after law
  · rw [run_compileFile_of_unreadable unreadable]
    refine ⟨.unreadable unreadable, ?_⟩
    intro result after law
    cases law with
    | unreadable unreadable' =>
      obtain rfl := unreadable.unique unreadable'
      exact ⟨rfl, fun _ => rfl⟩
    | read holds _ => exact absurd holds (unreadable.not_holds _)

/-- **Compiling into files keeps to its law.** Compiling the file at `input` into the file at
`output`, which may be the same, does what `CompilesFile` says and nothing else, in every store;
and so does compiling a text, with `CompilesTo`. -/
theorem compile_files_law (store : Store) (tempo repeats : UInt32) (output : String)
    (names : Names) :
    (∀ input, Settles (CompilesFile store input tempo repeats output names)
      ((compileFile input tempo repeats output names : StateM Store _).run store)) ∧
    ∀ text, Settles (CompilesTo store text tempo repeats output names)
      ((compileToFile text tempo repeats output names : StateM Store _).run store) := by
  constructor
  · intro input
    exact settles_compileFile store input tempo repeats output names
  · intro text
    exact settles_compileToFile store text tempo repeats output names

end Percussion
