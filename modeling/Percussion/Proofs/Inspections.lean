import Percussion.Proofs.Circumstances
import Percussion.Proofs.Listings

/-!
# Inspections tell all that they show

A call that inspects a file shows a score and its sequence (`Call.Shows`), and prints their
inspection (`Call.Shows.run`). Inspections can be told apart (`inspection_eq_iff`), so what is
printed determines what is shown (`Call.run_inspect_eq_iff`).
-/

namespace Percussion

open Storage

/-- A call shows a score and a sequence: the score is what the input says, and the sequence is how it
is played, at the tempo of the configuration that counts. -/
inductive Call.Shows (call : Call) (store : Store) : Score → Sequence → Prop
  | inspect {config? : Option String} {quiet : Bool} {input text : String} {repeats : UInt32}
    {resolution : Resolution} {config : Config} {score : Score} {sequence : Sequence} :
    Arguments.read call.arguments = .ok ⟨config?, quiet, .inspect input repeats resolution⟩ →
    Config.Effective store call.around.home? config? config → store.Holds input text →
    Score.ofText text = .ok score →
    score.render { tempo := config.tempo, repeats, resolution } = .ok sequence →
    Call.Shows call store score sequence

namespace Call

variable {call : Call} {store : Store} {score : Score} {sequence : Sequence}

/-- What is shown is printed, and nothing else happens. -/
theorem Shows.run (h : call.Shows store score sequence) :
    call.run store = (⟨0, inspection score sequence, ""⟩, store) := by
  obtain ⟨read, effective, holds, parsed, rendered⟩ := h
  have listing := inspect_eq_ok_iff.mpr ⟨score, sequence, parsed, rendered, rfl⟩
  rw [call.run_of_config read (Config.Effective.run_config effective),
    Command.run_inspect_of_holds holds, listing]
  rfl

/-- A call that is to inspect a file, and succeeds, shows what is in it. -/
theorem exists_shows {config? : Option String} {quiet : Bool} {input : String} {repeats : UInt32}
    {resolution : Resolution}
    (read : Arguments.read call.arguments = .ok ⟨config?, quiet, .inspect input repeats resolution⟩)
    (succeeds : (call.run store).1.status = 0) :
    ∃ score sequence, call.Shows store score sequence ∧ sequence.resolution = resolution := by
  rcases Invocation.run_config ⟨config?, quiet, .inspect input repeats resolution⟩
    call.around.home? store with ⟨config, effective, found⟩ | ⟨error, _, failed⟩
  · rw [call.run_of_config read found] at succeeds
    rcases store.holds_or_unreadable input with ⟨text, holds⟩ | ⟨fault, unreadable⟩
    · rw [Command.run_inspect_of_holds holds] at succeeds
      cases inspected : Percussion.inspect text { tempo := config.tempo, repeats, resolution } with
      | error error =>
        rw [inspected] at succeeds
        cases succeeds
      | ok listing =>
        obtain ⟨score, sequence, parsed, rendered, _⟩ := inspect_eq_ok_iff.mp inspected
        refine ⟨score, sequence, .inspect read effective holds parsed rendered, ?_⟩
        rw [score.render_eq_ok (Score.tempo_ne_zero_of_render rendered)] at rendered
        rw [← Except.ok.inj rendered]
    · rw [Command.run_inspect_of_unreadable unreadable] at succeeds
      cases succeeds
  · rw [call.run_of_config_error read failed] at succeeds
    cases succeeds

/-- **What an inspection prints determines what it shows.** Two calls that inspect files, and succeed,
each show a score and its sequence. They print the same if and only if they have been asked for the
same resolution, and have shown the same score and the same events. -/
theorem run_inspect_eq_iff {call other : Call} {store store' : Store}
    {config? config?' : Option String} {quiet quiet' : Bool} {input input' : String}
    {repeats repeats' : UInt32} {resolution resolution' : Resolution}
    (read : Arguments.read call.arguments = .ok ⟨config?, quiet, .inspect input repeats resolution⟩)
    (read' : Arguments.read other.arguments =
      .ok ⟨config?', quiet', .inspect input' repeats' resolution'⟩)
    (succeeds : (call.run store).1.status = 0) (succeeds' : (other.run store').1.status = 0) :
    ∃ score score' sequence sequence', call.Shows store score sequence ∧
      other.Shows store' score' sequence' ∧
      ((call.run store).1.stdout = (other.run store').1.stdout ↔
        resolution = resolution' ∧ score = score' ∧ sequence.events = sequence'.events) := by
  obtain ⟨score, sequence, shows, rfl⟩ := exists_shows read succeeds
  obtain ⟨score', sequence', shows', rfl⟩ := exists_shows read' succeeds'
  refine ⟨score, score', sequence, sequence', shows, shows', ?_⟩
  rw [shows.run, shows'.run]
  exact inspection_eq_iff

/-- A folder with two texts that say the same. -/
private def twoSheets : Store where
  entries := [
    (["work"], .folder), (["work", "sheet"], .file "boom . TIK".toUTF8.data.toList),
    (["work", "copy"], .file " boom  .\tTik\r\n. . .\n\n".toUTF8.data.toList)]
  current := ["work"]

/-- Inspects the first text. -/
private def showSheet : Call := ⟨⟨none, 0⟩, ["inspect", "sheet", "--ticks-per-beat", "4"]⟩

/-- Inspects the second text. -/
private def showTheOther : Call :=
  ⟨⟨none, 0⟩, ["-q", "inspect", "--repeat=1", "--ticks-per-beat=+4", "copy"]⟩

theorem run_inspect_eq_iff_two_sheets :
    (showSheet.run twoSheets).1.status = 0 ∧ (showTheOther.run twoSheets).1.status = 0 ∧
    (showSheet.run twoSheets).1.stdout = (showTheOther.run twoSheets).1.stdout ∧
    ∃ score score' sequence sequence', showSheet.Shows twoSheets score sequence ∧
      showTheOther.Shows twoSheets score' sequence' ∧ score = score' ∧
      sequence.events = sequence'.events := by
  have succeeds : (showSheet.run twoSheets).1.status = 0 := by decide +kernel
  have succeeds' : (showTheOther.run twoSheets).1.status = 0 := by decide +kernel
  have same : (showSheet.run twoSheets).1.stdout = (showTheOther.run twoSheets).1.stdout := by
    decide +kernel
  have read : Arguments.read showSheet.arguments =
      .ok ⟨none, false, .inspect "sheet" 1 ⟨4, by decide⟩⟩ := by decide +kernel
  have read' : Arguments.read showTheOther.arguments =
      .ok ⟨none, true, .inspect "copy" 1 ⟨4, by decide⟩⟩ := by decide +kernel
  obtain ⟨score, score', sequence, sequence', shows, shows', determined⟩ :=
    run_inspect_eq_iff read read' succeeds succeeds'
  obtain ⟨_, scores, events⟩ := determined.mp same
  exact ⟨succeeds, succeeds', same, score, score', sequence, sequence', shows, shows', scores,
    events⟩

end Call

end Percussion
