import Percussion.Proofs.Remarks

/-!
# Being quiet

Quiet is a switch among the arguments, which is read along with them and must not be given twice
before the verb. Arguments that do without it are read in the same way after it
(`Arguments.read_quiet`), because nothing that is read looks at it: each step that leaves it off
takes in the same if it is on already. A command does the same whether it is on or not, and remarks
on it only if it is off (`Command.run_quiet`): what it prints quietly is free of remarks, and what it
prints otherwise is that with its remarks around it (`Hushed`).
-/

namespace Percussion

open Storage

namespace Arguments

/-- What has been given, and that only errors are to be reported. -/
def Given.hush (given : Given) : Given := { given with quiet := true }

section Steps

variable {given next : Given} {flags : List Flag} {waiting : Option Setting}
  {held : Option (Setting × String)}

namespace Given

theorem set_hush {value : String} {setting : Setting} (h : given.set value setting = .ok next) :
    next.quiet = given.quiet ∧ given.hush.set value setting = .ok next.hush := by
  cases setting
  all_goals
    obtain ⟨entry, found, same⟩ := bind_eq_ok_iff.mp h
    cases same
    exact ⟨rfl, bind_eq_ok_iff.mpr ⟨entry, found, rfl⟩⟩

theorem settle_hush (h : given.settle held = .ok next) :
    next.quiet = given.quiet ∧ given.hush.settle held = .ok next.hush := by
  cases held with
  | none =>
    cases h
    exact ⟨rfl, rfl⟩
  | some entry => exact set_hush h

/-- A setting that has its value is taken in, and none is left to wait for one. -/
theorem setNow_hush {value : String} {setting : Setting}
    (h : (do return (← given.set value setting, none)) = Except.ok (next, waiting)) :
    next.quiet = given.quiet ∧
      (do return (← given.hush.set value setting, none)) = Except.ok (next.hush, waiting) := by
  obtain ⟨given', set, same⟩ := bind_eq_ok_iff.mp h
  cases same
  obtain ⟨quiet, hushed⟩ := set_hush set
  exact ⟨quiet, bind_eq_ok_iff.mpr ⟨_, hushed, rfl⟩⟩

/-- Only one of the switches turns quiet on. -/
theorem turnOn_hush {switch : Switch} (h : given.turnOn switch = .ok next)
    (loud : next.quiet = false) :
    given.quiet = false ∧ given.hush.turnOn switch = .ok next.hush := by
  cases switch with
  | quiet =>
    rw [turnOn] at h
    split at h
    · cases h
    · cases h
      cases loud
  | print =>
    rw [turnOn] at h
    split at h
    · cases h
    · next unset =>
      cases h
      exact ⟨loud, if_neg unset⟩
  | version => cases h
  | help => cases h

end Given

theorem readWord_hush {body : List Char} (h : readWord flags given body = .ok (next, waiting))
    (loud : next.quiet = false) :
    given.quiet = false ∧ readWord flags given.hush body = .ok (next.hush, waiting) := by
  unfold readWord at h ⊢
  simp only at h ⊢
  split at h
  · obtain ⟨given', turned, same⟩ := bind_eq_ok_iff.mp h
    cases same
    obtain ⟨quiet, hushed⟩ := Given.turnOn_hush turned loud
    exact ⟨quiet, bind_eq_ok_iff.mpr ⟨_, hushed, rfl⟩⟩
  · cases h
    exact ⟨loud, rfl⟩
  · obtain ⟨quiet, hushed⟩ := Given.setNow_hush h
    exact ⟨quiet.symm.trans loud, hushed⟩
  · cases h

theorem readLetters_hush {letters : List Char}
    (h : readLetters flags given letters = .ok (next, waiting)) (loud : next.quiet = false) :
    given.quiet = false ∧ readLetters flags given.hush letters = .ok (next.hush, waiting) := by
  induction letters generalizing given with
  | nil =>
    cases h
    exact ⟨loud, rfl⟩
  | cons letter rest ih =>
    rw [readLetters] at h ⊢
    split at h
    · obtain ⟨given', turned, later⟩ := bind_eq_ok_iff.mp h
      obtain ⟨loud', hushed'⟩ := ih later
      obtain ⟨quiet, hushed⟩ := Given.turnOn_hush turned loud'
      exact ⟨quiet, bind_eq_ok_iff.mpr ⟨_, hushed, hushed'⟩⟩
    · next setting found =>
      split at h
      · cases h
        exact ⟨loud, rfl⟩
      · obtain ⟨quiet, hushed⟩ := Given.setNow_hush h
        exact ⟨quiet.symm.trans loud, hushed⟩
      · obtain ⟨quiet, hushed⟩ := Given.setNow_hush h
        exact ⟨quiet.symm.trans loud, hushed⟩
    · cases h

/-- An option is read after what has been held back is taken in, and then reading goes on. -/
theorem goOn_hush {β : Type} {result : β} {option : Given → Except Stop (Given × Option Setting)}
    (goOn : Given → Option Setting → Except Stop (Given × β))
    (hoption : ∀ {given next : Given} {waiting : Option Setting},
      option given = .ok (next, waiting) → next.quiet = false →
      given.quiet = false ∧ option given.hush = .ok (next.hush, waiting))
    (later : ∀ {given : Given} {waiting : Option Setting}, goOn given waiting = .ok (next, result) →
      given.quiet = false ∧ goOn given.hush waiting = .ok (next.hush, result))
    (h : (do
      let read ← option (← given.settle held)
      goOn read.1 read.2) = .ok (next, result)) :
    given.quiet = false ∧ (do
      let read ← option (← given.hush.settle held)
      goOn read.1 read.2) = .ok (next.hush, result) := by
  obtain ⟨settled, hsettled, h⟩ := bind_eq_ok_iff.mp h
  obtain ⟨⟨given', waiting⟩, read, h⟩ := bind_eq_ok_iff.mp h
  obtain ⟨loud, later'⟩ := later h
  obtain ⟨loud', read'⟩ := hoption read loud
  obtain ⟨quiet, settled'⟩ := Given.settle_hush hsettled
  exact ⟨quiet.symm.trans loud',
    bind_eq_ok_iff.mpr ⟨_, settled', bind_eq_ok_iff.mpr ⟨_, read', later'⟩⟩⟩

/-- What stands before a verb is read in the same way when quiet is on. -/
theorem readGeneral_hush {arguments rest : List String} {held' : Option (Setting × String)}
    (h : readGeneral given waiting held arguments = .ok (next, held', rest))
    (loud : next.quiet = false) :
    given.quiet = false ∧
      readGeneral given.hush waiting held arguments = .ok (next.hush, held', rest) := by
  induction arguments generalizing given waiting held with
  | nil =>
    cases waiting with
    | none =>
      cases h
      exact ⟨loud, rfl⟩
    | some setting => cases h
  | cons argument arguments ih =>
    unfold readGeneral at h ⊢
    simp only at h ⊢
    split at h
    · cases h
    · exact goOn_hush (readGeneral · · none arguments) readWord_hush ih h
    · exact goOn_hush (readGeneral · · none arguments) readLetters_hush ih h
    · cases h
    · exact ih h
    · cases h
      exact ⟨loud, rfl⟩

end Steps

/-- The switch in front is taken in first. -/
theorem readGeneral_quiet (arguments : List String) :
    readGeneral {} none none ("-q" :: arguments) =
      readGeneral (Given.hush {}) none none arguments := rfl

/-- Arguments that do not ask for quiet can be given with the switch in front. -/
theorem read_quiet {arguments : List String} {invocation : Invocation}
    (h : read arguments = .ok invocation) (loud : invocation.quiet = false) :
    read ("-q" :: arguments) = .ok { invocation with quiet := true } := by
  unfold read at h ⊢
  rw [readGeneral_quiet]
  obtain ⟨⟨before, held, remaining⟩, general, h⟩ := bind_eq_ok_iff.mp h
  cases remaining with
  | nil => cases h
  | cons word rest =>
    simp only at h
    split at h
    · next verb found =>
      obtain ⟨after, special, h⟩ := bind_eq_ok_iff.mp h
      split at h
      · next command asked =>
        obtain ⟨settled, hsettled, h⟩ := bind_eq_ok_iff.mp h
        cases h
        rw [Bool.or_eq_false_iff] at loud
        obtain ⟨same, settled'⟩ := Given.settle_hush hsettled
        obtain ⟨_, general'⟩ := readGeneral_hush general (same.symm.trans loud.1)
        refine bind_eq_ok_iff.mpr ⟨_, general', ?_⟩
        simp only [found]
        refine bind_eq_ok_iff.mpr ⟨after, special, ?_⟩
        simp only [asked]
        exact bind_eq_ok_iff.mpr ⟨_, settled', rfl⟩
      · cases h
    · cases h

end Arguments

/-! ## Outcomes -/

/-- What a command remarks before and after the rest that it prints, if it ends with a status. The
compilation of a file is announced, and of any compilation that goes well it is said what has been
written. Nothing is remarked by commands that do not compile, nor where a rhythm cannot be compiled
or a command is stopped for want of a configuration. -/
inductive Command.Remarks : Command → UInt32 → String → String → Prop
  | rendered {input output : String} {tempo repeats : UInt32} (sequence : Sequence) :
    Command.Remarks (.render input tempo repeats output) 0 (announcement input)
      (conclusion sequence output)
  | notRendered {input output : String} {tempo repeats : UInt32} :
    Command.Remarks (.render input tempo repeats output) 1 (announcement input) ""
  | drawn {output : String} {tempo? repeats? : Option UInt32} {seed? : Option UInt64} {print : Bool}
    (sequence : Sequence) :
    Command.Remarks (.random output tempo? repeats? seed? print) 0 "" (conclusion sequence output)
  | silent {command : Command} {status : UInt32} : ¬ command.IsCompilation →
    Command.Remarks command status "" ""
  | stopped {command : Command} : Command.Remarks command 1 "" ""

/-- What is left of the outcome of a command without remarks. Nothing that is printed then is one,
and with the remarks of the command around it, on lines of their own, it is what is printed
otherwise. -/
structure Hushed (command : Command) (loud quiet : Outcome) : Prop where
  status : quiet.status = loud.status
  stderr : quiet.stderr = loud.stderr
  stdout : ∃ before after, command.Remarks loud.status before after ∧
    loud.stdout = before ++ quiet.stdout ++ after
  bare : Unremarked quiet.stdout.toList
  closed : command.IsCompilation → IsClosed quiet.stdout.toList

namespace Hushed

variable {command : Command}

/-- Where nothing is printed, there is nothing to take away. -/
theorem stopped {error : Error} : Hushed command (Report.outcome ⟨"", some error⟩)
    (Report.outcome ⟨"", some error⟩) :=
  ⟨rfl, rfl, ⟨"", "", .stopped, rfl⟩, unremarked_empty, fun _ => isClosed_empty⟩

/-- A command that does not compile prints the same in any case. -/
theorem ofAnswer (other : ¬ command.IsCompilation) {report : Report}
    (bare : Unremarked report.printed.toList) : Hushed command report.outcome report.outcome := by
  refine ⟨rfl, rfl, ⟨"", "", .silent other, ?_⟩, ?_, (absurd · other)⟩
  · rw [String.empty_append, String.append_empty]
  · obtain ⟨printed, error?⟩ := report
    cases error? <;> exact bare

/-- A compilation has a remark before what it prints, and if it succeeds, one after it. -/
theorem ofCompiled {first introduction output : String} (closed : IsClosed introduction.toList)
    (bare : Unremarked introduction.toList) (failed : command.Remarks 1 first "")
    (succeeded : ∀ sequence, command.Remarks 0 first (conclusion sequence output))
    (result : Except Error Sequence) :
    Hushed command (Report.ofCompiled false (first ++ introduction) output result).outcome
      (Report.ofCompiled true introduction output result).outcome := by
  cases result with
  | ok sequence =>
    have kept : (Report.ofCompiled true introduction output (.ok sequence)).outcome.stdout =
        introduction := String.append_empty
    refine ⟨rfl, rfl, ⟨first, conclusion sequence output, succeeded sequence, ?_⟩, ?_, fun _ => ?_⟩
    · rw [kept]
      rfl
    · rwa [kept]
    · rwa [kept]
  | error error =>
    exact ⟨rfl, rfl, ⟨first, "", failed, String.append_empty.symm⟩, bare, fun _ => closed⟩

/-- A compilation that succeeds is remarked on, unless it is quiet. -/
theorem not_unremarked {loud quiet : Outcome} (h : Hushed command loud quiet)
    (compilation : command.IsCompilation) (succeeds : loud.status = 0) :
    ¬ Unremarked loud.stdout.toList := by
  obtain ⟨before, after, remarks, written⟩ := h.stdout
  rw [succeeds] at remarks
  rw [written]
  cases remarks with
  | rendered sequence =>
    rw [String.append_assoc]
    exact not_unremarked_announcement _ _
  | drawn sequence =>
    rw [String.empty_append, String.toList_append,
      (h.closed compilation).unremarked_append_iff]
    exact fun bare => not_unremarked_conclusion sequence _ bare.2
  | silent other => exact absurd compilation other

end Hushed

namespace Command

/-- Quiet changes what a command remarks, and nothing else. -/
theorem run_quiet (command : Command) (seed : UInt64) (config : Config) (store : Store) :
    Hushed command ((command.run seed config false : StateM Store Report).run store).1.outcome
        ((command.run seed config true : StateM Store Report).run store).1.outcome ∧
      ((command.run seed config true : StateM Store Report).run store).2 =
        ((command.run seed config false : StateM Store Report).run store).2 := by
  cases command with
  | render input tempo repeats output =>
    obtain ⟨result, after, ran⟩ : ∃ result after, (compileFile input tempo repeats output
      config.names : StateM Store _).run store = (result, after) := ⟨_, _, rfl⟩
    rw [run_render seed ran, run_render seed ran]
    have hushed : Hushed (.render input tempo repeats output) _ _ :=
      .ofCompiled isClosed_empty unremarked_empty .notRendered .rendered result
    rw [String.append_empty] at hushed
    exact ⟨hushed, rfl⟩
  | random output tempo? repeats? seed? print =>
    obtain ⟨text, rhythm⟩ : ∃ text, Rhythm.ofSeed (seed?.getD seed) = text := ⟨_, rfl⟩
    obtain ⟨result, after, ran⟩ : ∃ result after, (compileToFile text (tempo?.getD config.tempo)
      (repeats?.getD config.repeats) output config.names : StateM Store _).run store =
        (result, after) := ⟨_, _, rfl⟩
    rw [run_random rhythm ran, run_random rhythm ran]
    obtain ⟨closed, bare⟩ : IsClosed (if print then text else "").toList ∧
        Unremarked (if print then text else "").toList := by
      split
      · rw [← rhythm]
        exact unremarked_ofSeed _
      · exact ⟨isClosed_empty, unremarked_empty⟩
    have hushed : Hushed (.random output tempo? repeats? seed? print) _ _ :=
      .ofCompiled closed bare .stopped .drawn result
    rw [String.empty_append] at hushed
    exact ⟨hushed, rfl⟩
  | inspect input repeats resolution =>
    rcases store.holds_or_unreadable input with ⟨text, holds⟩ | ⟨fault, unreadable⟩
    · rw [run_inspect_of_holds holds, run_inspect_of_holds holds]
      cases shown : Percussion.inspect text { tempo := config.tempo, repeats, resolution } with
      | error error => exact ⟨.stopped, rfl⟩
      | ok listing =>
        obtain ⟨score, sequence, _, _, rfl⟩ := inspect_eq_ok_iff.mp shown
        exact ⟨.ofAnswer id (unremarked_inspection score sequence), rfl⟩
    · rw [run_inspect_of_unreadable unreadable, run_inspect_of_unreadable unreadable]
      exact ⟨.stopped, rfl⟩
  | sounds => exact ⟨.ofAnswer id unremarked_soundTable, rfl⟩
  | showConfig => exact ⟨.ofAnswer id (unremarked_configText config), rfl⟩

end Command

end Percussion
