import Percussion.Proofs.Agreement
import Percussion.Proofs.Quietness

/-!
# The circumstances of a call

Besides its arguments a call depends on the files and on the home folder of the user. If there is no
configuration at home, for whatever reason (`Config.Absent`), a call is as it is without a home; and
if a configuration is asked for, nobody looks for one at home. Most commands do not use all of a
configuration (`Command.IndifferentTo`), and quiet in front of the arguments takes away nothing but
remarks (`Hushed`).
-/

namespace Percussion

open Storage

/-- There is no configuration at home: there is no home, or there is no text to be read from the
file there, or the text is no configuration. -/
inductive Config.Absent (store : Store) : Option String → Prop
  | homeless : Config.Absent store none
  | unreadable {home : String} {fault : Storage.Fault} :
    store.Unreadable s!"{home}/{homePath}" fault → Config.Absent store (some home)
  | invalid {home text : String} {fault : Config.Fault} : store.Holds s!"{home}/{homePath}" text →
    Config.ofText text = .error fault → Config.Absent store (some home)

/-- A command does not tell two configurations apart. One that compiles looks at the names only, if
everything else is given; an inspection looks whether the tempo is 0; and the table of sounds does
not depend on anything. -/
inductive Command.IndifferentTo (config config' : Config) : Command → Prop
  | render {input output : String} {tempo repeats : UInt32} : config'.names = config.names →
    Command.IndifferentTo config config' (.render input tempo repeats output)
  | random {output : String} {tempo repeats : UInt32} {seed : UInt64} {print : Bool} :
    config'.names = config.names →
    Command.IndifferentTo config config'
      (.random output (some tempo) (some repeats) (some seed) print)
  | inspect {input : String} {repeats : UInt32} {resolution : Resolution} :
    (config'.tempo = 0 ↔ config.tempo = 0) →
    Command.IndifferentTo config config' (.inspect input repeats resolution)
  | sounds : Command.IndifferentTo config config' .sounds

variable {store other : Store} {home? : Option String} {config config' : Config}

/-- Without a configuration at home, the defaults count. -/
theorem Config.Absent.effective (h : Config.Absent store home?) :
    Config.Effective store home? none {} := by
  apply Config.Effective.dflt
  intro home text config same holds
  subst same
  cases h with
  | unreadable unreadable => exact absurd holds (unreadable.not_holds text)
  | invalid holds' understood =>
    rw [holds'.unique holds] at understood
    rw [understood]
    nofun

theorem Command.IndifferentTo.sameFor {command : Command}
    (h : command.IndifferentTo config config') (seed seed' : UInt64) :
    command.SameFor seed seed' config config' := by
  cases h with
  | render names => exact names
  | random names => exact ⟨rfl, rfl, rfl, names⟩
  | inspect zero => exact zero
  | sounds => trivial

/-- The configuration that counts is found. -/
theorem Config.Effective.run_config {invocation : Invocation}
    (h : Config.Effective store home? invocation.config? config) :
    (invocation.config home? : StateM Store _).run store = (.ok config, store) := by
  rcases invocation.run_config home? store with ⟨found, effective, run⟩ | ⟨_, none, _⟩
  · rw [run, h.unique effective]
  · exact absurd h (none config)

/-- Where stores agree, the same configuration is read, or the same is wrong with it. -/
theorem Storage.Store.AgreeAlong.run_ofFile {path : String} (agree : store.AgreeAlong other path) :
    ∃ result, (Config.ofFile path : StateM Store _).run store = (result, store) ∧
      (Config.ofFile path : StateM Store _).run other = (result, other) := by
  rcases agree.holds_or_unreadable with ⟨text, holds, holds'⟩ | ⟨fault, unreadable, unreadable'⟩
  · exact ⟨_, Config.run_ofFile_of_holds holds, Config.run_ofFile_of_holds holds'⟩
  · exact ⟨_, Config.run_ofFile_of_unreadable unreadable,
      Config.run_ofFile_of_unreadable unreadable'⟩

namespace Call

variable {invocation : Invocation} {config?' : Option String}

/-- Two calls that ask for the same and find the same are alike. -/
theorem run_alike (call call' : Call) (read : Arguments.read call.arguments = .ok invocation)
    (read' : Arguments.read call'.arguments = .ok { invocation with config? := config?' })
    (found : (invocation.config call.around.home? : StateM Store _).run store =
      (.ok config, store))
    (found' : (Invocation.config call'.around.home? { invocation with config? := config?' } :
      StateM Store _).run other = (.ok config', other))
    (agree : invocation.command.Agree store other)
    (same : invocation.command.SameFor call.around.seed call'.around.seed config config') :
    Alike store other (call.run store) (call'.run other) := by
  obtain ⟨report, after, after', ran, ran', common⟩ :=
    (Command.run_alike agree same invocation.quiet).exists_eq
  rw [run_of_config read found, run_of_config read' found']
  simp only [ran, ran']
  exact ⟨rfl, common⟩

/-- Two calls for which the same configuration file is asked for, and is the same, are alike. -/
theorem run_alike_of_named (call call' : Call) {path : String}
    (read : Arguments.read call.arguments = .ok invocation)
    (read' : Arguments.read call'.arguments = .ok invocation)
    (named : invocation.config? = some path) (same : store.AgreeAlong other path)
    (agree : invocation.command.Agree store other)
    (seed : call'.around.seed = call.around.seed) :
    Alike store other (call.run store) (call'.run other) := by
  obtain ⟨result, found, found'⟩ := same.run_ofFile
  have config (home? : Option String) :
      (invocation.config home? : StateM Store (Except Error Config)) = Config.ofFile path := by
    unfold Invocation.config
    rw [named]
  rw [← config call.around.home?] at found
  rw [← config call'.around.home?] at found'
  cases result with
  | error error =>
    rw [run_of_config_error read found, run_of_config_error read' found']
    exact alike_of_unchanged _ store other
  | ok config =>
    apply run_alike call call' read read' found found' agree
    rw [seed]
    exact Command.sameFor_refl _ config invocation.command

/-- Quiet in front of the arguments takes the remarks away, and changes no file. -/
theorem run_quiet (around : Surroundings) {arguments : List String} (store : Store)
    (read : Arguments.read arguments = .ok invocation) (loud : invocation.quiet = false) :
    Hushed invocation.command (run ⟨around, arguments⟩ store).1
        (run ⟨around, "-q" :: arguments⟩ store).1 ∧
      after ⟨around, "-q" :: arguments⟩ store = after ⟨around, arguments⟩ store := by
  have read' := Arguments.read_quiet read loud
  unfold after
  rcases invocation.run_config around.home? store with ⟨config, _, found⟩ | ⟨error, _, failed⟩
  · rw [@run_of_config ⟨around, arguments⟩ _ _ _ read found,
      @run_of_config ⟨around, "-q" :: arguments⟩ _ _ _ read' found, loud]
    exact Command.run_quiet invocation.command around.seed config store
  · rw [@run_of_config_error ⟨around, arguments⟩ _ _ _ read failed,
      @run_of_config_error ⟨around, "-q" :: arguments⟩ _ _ _ read' failed]
    exact ⟨.stopped, rfl⟩

/-- **What a call depends on.** Let two calls have the same arguments and the same seed, and find
the same along the paths of their command. If they ask for no configuration and there is none at
home, for whatever reasons, they are alike; and if they ask for one and find the same file, they are
alike whatever there is at home. Two calls for one command, each with the configuration that counts
for it, are alike if the command does not tell the two configurations apart. And quiet in front of
arguments without it leaves the status, the errors and the files as they are. What is printed is then
free of remarks, and what is printed otherwise is the same with the remarks of the command around
it. -/
theorem run_circumstances {arguments : List String} {invocation : Invocation}
    (read : Arguments.read arguments = .ok invocation) :
    (∀ (around around' : Surroundings) (store other : Store), around'.seed = around.seed →
      invocation.command.Agree store other →
      (invocation.config? = none → Config.Absent store around.home? →
        Config.Absent other around'.home? →
        Alike store other (run ⟨around, arguments⟩ store) (run ⟨around', arguments⟩ other)) ∧
      ∀ path, invocation.config? = some path → store.AgreeAlong other path →
        Alike store other (run ⟨around, arguments⟩ store) (run ⟨around', arguments⟩ other)) ∧
    (∀ (around around' : Surroundings) (store other : Store) config config' arguments' config?',
      Arguments.read arguments' = .ok { invocation with config? := config?' } →
      Config.Effective store around.home? invocation.config? config →
      Config.Effective other around'.home? config?' config' →
      invocation.command.Agree store other → invocation.command.IndifferentTo config config' →
      Alike store other (run ⟨around, arguments⟩ store) (run ⟨around', arguments'⟩ other)) ∧
    (invocation.quiet = false →
      Arguments.read ("-q" :: arguments) = .ok { invocation with quiet := true } ∧
      ∀ (around : Surroundings) (store : Store),
        Hushed invocation.command (run ⟨around, arguments⟩ store).1
          (run ⟨around, "-q" :: arguments⟩ store).1 ∧
        after ⟨around, "-q" :: arguments⟩ store = after ⟨around, arguments⟩ store) := by
  refine ⟨?_, ?_, ?_⟩
  · intro around around' store other seed agree
    constructor
    · intro home absent absent'
      have effective := absent.effective
      have effective' := absent'.effective
      rw [← home] at effective effective'
      apply run_alike ⟨around, arguments⟩ ⟨around', arguments⟩ read read effective.run_config
        effective'.run_config agree
      rw [seed]
      exact Command.sameFor_refl _ _ _
    · intro path named same
      exact run_alike_of_named ⟨around, arguments⟩ ⟨around', arguments⟩ read read named same agree
        seed
  · intro around around' store other config config' arguments' config?' read' effective effective'
      agree indifferent
    exact run_alike ⟨around, arguments⟩ ⟨around', arguments'⟩ read read' effective.run_config
      (Config.Effective.run_config effective') agree (indifferent.sameFor _ _)
  · intro loud
    exact ⟨Arguments.read_quiet read loud, fun around store => run_quiet around store read loud⟩

/-- A folder with a song in it, and a home with a configuration. -/
private def studio (config : String) : Store where
  entries := [
    (["work"], .folder), (["work", "song"], .file "boom . TIK".toUTF8.data.toList),
    (["home"], .folder), (["home", ".vpal"], .folder),
    (["home", ".vpal", "config.yaml"], .file config.toUTF8.data.toList)]
  current := ["work"]

/-- The folder without a home. -/
private def street : Store where
  entries := [(["work"], .folder), (["work", "song"], .file "boom . TIK".toUTF8.data.toList)]
  current := ["work"]

/-- A song is compiled as if there were no home, since the configuration there has no number for its
tempo; in the same way with a tempo and with a number of repeats in the configuration; and in the
same way, but with less said, if quiet is asked for. -/
theorem run_circumstances_at_home :
    Arguments.read ["render", "song", "120", "1", "out"] =
      .ok ⟨none, false, .render "song" 120 1 "out"⟩ ∧
    Alike (studio "tempo: fast") street
      (run ⟨⟨some "/home", 0⟩, ["render", "song", "120", "1", "out"]⟩ (studio "tempo: fast"))
      (run ⟨⟨none, 0⟩, ["render", "song", "120", "1", "out"]⟩ street) ∧
    Alike (studio "tempo: 90") (studio "repeat: 2")
      (run ⟨⟨some "/home", 0⟩, ["render", "song", "120", "1", "out"]⟩ (studio "tempo: 90"))
      (run ⟨⟨some "/home", 1⟩, ["render", "song", "120", "1", "out"]⟩ (studio "repeat: 2")) ∧
    Hushed (.render "song" 120 1 "out")
      (run ⟨⟨none, 0⟩, ["render", "song", "120", "1", "out"]⟩ street).1
      (run ⟨⟨none, 0⟩, ["-q", "render", "song", "120", "1", "out"]⟩ street).1 ∧
    ¬ Unremarked (run ⟨⟨none, 0⟩, ["render", "song", "120", "1", "out"]⟩ street).1.stdout.toList := by
  have read : Arguments.read ["render", "song", "120", "1", "out"] =
      .ok ⟨none, false, .render "song" 120 1 "out"⟩ := by decide +kernel
  have holds (config : String) : (studio config).Holds "/home/.vpal/config.yaml" config := rfl
  have fast : Config.ofText "tempo: fast" =
      .error (.unfit "tempo" "invalid type: string \"fast\", expected u32" ⟨0, 7, 7⟩) := by
    decide +kernel
  have slow : Config.ofText "tempo: 90" = .ok ⟨90, 1, {}⟩ := by decide +kernel
  have twice : Config.ofText "repeat: 2" = .ok ⟨120, 2, {}⟩ := by decide +kernel
  obtain ⟨home, found, hushed⟩ := run_circumstances read
  have quiet := ((hushed rfl).2 ⟨none, 0⟩ street).1
  have succeeds : (run ⟨⟨none, 0⟩, ["render", "song", "120", "1", "out"]⟩ street).1.status = 0 := by
    decide +kernel
  refine ⟨read, ?_, ?_, quiet, quiet.not_unremarked trivial succeeds⟩
  · exact (home ⟨some "/home", 0⟩ ⟨none, 0⟩ _ _ rfl (by decide +kernel)).1 rfl
      (.invalid (holds _) fast) .homeless
  · exact found ⟨some "/home", 0⟩ ⟨some "/home", 1⟩ _ _ _ _ _ _ read (.home rfl (holds _) slow)
      (.home rfl (holds _) twice) (by decide +kernel) (.render rfl)

end Call

end Percussion
