import Percussion.Command.Run
import Percussion.Proofs.FileCompilation

/-!
# What calls of the program do to files

A call that compiles writes one file (`Call.Writes`): the bytes for its text under the configuration
that counts for it (`Config.Effective`), where its output opens. A call that writes succeeds and
changes nothing else, and every other call changes nothing (`Call.writes_or_unchanged`). So after
any calls each file is as it was, or is what the last call left that wrote it.
-/

namespace Percussion

open Storage

/-! ## The configuration that counts -/

/-- The configuration in a file that is asked for; or else the one at home; or else, if there is
none at home that can be read and understood, the defaults. -/
inductive Config.Effective (store : Store) (home? : Option String) : Option String → Config → Prop
  | named {path text : String} {config : Config} : store.Holds path text →
    Config.ofText text = .ok config → Config.Effective store home? (some path) config
  | home {home text : String} {config : Config} : home? = some home →
    store.Holds s!"{home}/{homePath}" text → Config.ofText text = .ok config →
    Config.Effective store home? none config
  | dflt : (∀ home text config, home? = some home → store.Holds s!"{home}/{homePath}" text →
      Config.ofText text ≠ .ok config) →
    Config.Effective store home? none {}

namespace Config

variable {store : Store} {home? config? : Option String} {path text : String}

theorem run_ofFile_of_holds (h : store.Holds path text) :
    (ofFile path : StateM Store _).run store =
      ((ofText text).mapError fun fault => .config fault.message, store) := by
  rw [ofFile]
  simp only [StateT.run_bind, h.run_readText]
  rfl

theorem run_ofFile_of_unreadable {fault : Storage.Fault} (h : store.Unreadable path fault) :
    (ofFile path : StateM Store _).run store = (.error (.reading fault.message), store) := by
  rw [ofFile]
  simp only [StateT.run_bind, h.run_readText]
  rfl

/-- A configuration file gives the configuration that its text is, or an error. -/
theorem run_ofFile (store : Store) (path : String) :
    (∃ text config, store.Holds path text ∧ ofText text = .ok config ∧
      (ofFile path : StateM Store _).run store = (.ok config, store)) ∨
    ∃ error, (∀ text config, store.Holds path text → ofText text ≠ .ok config) ∧
      (ofFile path : StateM Store _).run store = (.error error, store) := by
  rcases store.holds_or_unreadable path with ⟨text, holds⟩ | ⟨fault, unreadable⟩
  · have run := run_ofFile_of_holds holds
    cases understood : ofText text with
    | ok config =>
      rw [understood] at run
      exact .inl ⟨text, config, holds, understood, run⟩
    | error fault =>
      rw [understood] at run
      refine .inr ⟨_, ?_, run⟩
      intro other config holds'
      obtain rfl := holds.unique holds'
      rw [understood]
      nofun
  · refine .inr ⟨_, ?_, run_ofFile_of_unreadable unreadable⟩
    intro text config holds
    exact absurd holds (unreadable.not_holds text)

/-- Only one configuration counts. -/
theorem Effective.unique {config other : Config} (h : Effective store home? config? config)
    (h' : Effective store home? config? other) : config = other := by
  cases h with
  | named holds understood =>
    cases h' with
    | named holds' understood' =>
      obtain rfl := holds.unique holds'
      exact Except.ok.inj (understood.symm.trans understood')
  | home at' holds understood =>
    cases h' with
    | home at'' holds' understood' =>
      obtain rfl := Option.some.inj (at'.symm.trans at'')
      obtain rfl := holds.unique holds'
      exact Except.ok.inj (understood.symm.trans understood')
    | dflt none => exact absurd understood (none _ _ _ at' holds)
  | dflt none =>
    cases h' with
    | home at' holds understood => exact absurd understood (none _ _ _ at' holds)
    | dflt _ => rfl

end Config

/-- An invocation finds the configuration that counts, or there is none. -/
theorem Invocation.run_config (invocation : Invocation) (home? : Option String) (store : Store) :
    (∃ config, Config.Effective store home? invocation.config? config ∧
      (invocation.config home? : StateM Store _).run store = (.ok config, store)) ∨
    ∃ error, (∀ config, ¬ Config.Effective store home? invocation.config? config) ∧
      (invocation.config home? : StateM Store _).run store = (.error error, store) := by
  unfold Invocation.config
  cases invocation.config? with
  | some path =>
    rcases Config.run_ofFile store path with ⟨text, config, holds, understood, run⟩ |
      ⟨error, none, run⟩
    · exact .inl ⟨config, .named holds understood, run⟩
    · refine .inr ⟨error, ?_, run⟩
      rintro _ (⟨holds, understood⟩ | _ | _)
      exact none _ _ holds understood
  | none =>
    cases home? with
    | none => exact .inl ⟨{}, .dflt nofun, rfl⟩
    | some home =>
      have run := Config.run_ofFile store s!"{home}/{Config.homePath}"
      rcases run with ⟨text, config, holds, understood, run⟩ | ⟨error, none, run⟩
      · refine .inl ⟨config, .home rfl holds understood, ?_⟩
        simp only [StateT.run_bind, Config.ofHome?, run]
        rfl
      -- whatever is wrong with the file at home, nobody is told of it
      · refine .inl ⟨{}, .dflt ?_, ?_⟩
        · intro home text config same
          obtain rfl := Option.some.inj same
          exact none text config
        · simp only [StateT.run_bind, Config.ofHome?, run]
          rfl

/-! ## Commands -/

/-- Whether a command compiles something into a file. -/
def Command.IsCompilation : Command → Prop
  | .render .. | .random .. => True
  | .inspect .. | .sounds | .showConfig => False

namespace Command

variable {input output text : String} {tempo repeats : UInt32} {resolution : Resolution}
  {config : Config} {quiet : Bool} {result : Except Error Sequence} {store after : Store}

/-- A rendering reports on the compilation of its input, which it announces. -/
theorem run_render (seed : UInt64)
    (ran : (compileFile input tempo repeats output config.names : StateM Store _).run store =
      (result, after)) :
    ((render input tempo repeats output).run seed config quiet : StateM Store Report).run store =
      (.ofCompiled quiet (remark quiet (announcement input)) output result, after) := by
  rw [run]
  simp only [StateT.run_bind, ran]
  rfl

/-- A random rhythm is compiled with its own tempo and number of repeats, or else with those of the
configuration. -/
theorem run_random {tempo? repeats? : Option UInt32} {seed? : Option UInt64} {seed : UInt64}
    {print : Bool} (drawn : Rhythm.ofSeed (seed?.getD seed) = text)
    (ran : (compileToFile text (tempo?.getD config.tempo) (repeats?.getD config.repeats) output
      config.names : StateM Store _).run store = (result, after)) :
    ((random output tempo? repeats? seed? print).run seed config quiet :
      StateM Store Report).run store =
      (.ofCompiled quiet (if print then text else "") output result, after) := by
  rw [run]
  simp only [drawn, StateT.run_bind, ran]
  rfl

theorem run_inspect_of_unreadable {fault : Fault} (unreadable : store.Unreadable input fault)
    (seed : UInt64) :
    ((inspect input repeats resolution).run seed config quiet : StateM Store Report).run store =
      (⟨"", some (.reading fault.message)⟩, store) := by
  rw [run]
  simp only [StateT.run_bind, unreadable.run_readText]
  rfl

theorem run_inspect_of_holds (holds : store.Holds input text) (seed : UInt64) :
    ((inspect input repeats resolution).run seed config quiet : StateM Store Report).run store =
      match Percussion.inspect text { tempo := config.tempo, repeats, resolution } with
      | .error error => (⟨"", some error⟩, store)
      | .ok listing => (⟨listing, none⟩, store) := by
  have read : ((inspect input repeats resolution).run seed config quiet :
      StateM Store Report).run store =
      (match Percussion.inspect text { tempo := config.tempo, repeats, resolution } with
      | .error error => (pure ⟨"", some error⟩ : StateM Store Report)
      | .ok listing => pure ⟨listing, none⟩).run store := by
    rw [run]
    simp only [StateT.run_bind, holds.run_readText]
    rfl
  rw [read]
  cases Percussion.inspect text { tempo := config.tempo, repeats, resolution } with
  | error error => rfl
  | ok listing => rfl

/-- A command that does not compile leaves every store as it is. -/
theorem run_of_not_isCompilation {command : Command} (h : ¬ command.IsCompilation)
    (seed : UInt64) (config : Config) (quiet : Bool) (store : Store) :
    ((command.run seed config quiet : StateM Store Report).run store).2 = store := by
  cases command with
  | render => exact absurd trivial h
  | random => exact absurd trivial h
  | inspect input repeats resolution =>
    rcases store.holds_or_unreadable input with ⟨text, holds⟩ | ⟨fault, unreadable⟩
    · rw [run_inspect_of_holds holds]
      cases Percussion.inspect text { tempo := config.tempo, repeats, resolution } with
      | error error => rfl
      | ok listing => rfl
    · rw [run_inspect_of_unreadable unreadable]
  | sounds => rfl
  | showConfig => rfl

end Command

/-! ## Calls -/

/-- A call of the program: what it finds around it, and its arguments. -/
structure Call where
  around : Surroundings
  arguments : List String

namespace Call

/-- What a call gives, and the store after it. -/
def run (call : Call) (store : Store) : Outcome × Store :=
  (runArguments call.around call.arguments : StateM Store Outcome).run store

/-- The store after a call. -/
def after (call : Call) (store : Store) : Store := (call.run store).2

/-- A call asks for a text to be compiled into the file at `output`: the text of the input or a
rhythm, under the configuration that counts. -/
inductive Compiles (call : Call) (store : Store) :
    (text : String) → (tempo repeats : UInt32) → (output : String) → Names → Prop
  | render {config? : Option String} {quiet : Bool} {input output text : String}
    {tempo repeats : UInt32} {config : Config} :
    Arguments.read call.arguments = .ok ⟨config?, quiet, .render input tempo repeats output⟩ →
    Config.Effective store call.around.home? config? config → store.Holds input text →
    Compiles call store text tempo repeats output config.names
  | random {config? : Option String} {quiet print : Bool} {output : String}
    {tempo? repeats? : Option UInt32} {seed? : Option UInt64} {config : Config} :
    Arguments.read call.arguments =
      .ok ⟨config?, quiet, .random output tempo? repeats? seed? print⟩ →
    Config.Effective store call.around.home? config? config →
    Compiles call store (Rhythm.ofSeed (seed?.getD call.around.seed))
      (tempo?.getD config.tempo) (repeats?.getD config.repeats) output config.names

/-- A call leaves bytes at a location: they are those of the sequence for the text that it asks to
be compiled, and the output opens there. -/
def Writes (call : Call) (store : Store) (location : Location) (bytes : List UInt8) : Prop :=
  ∃ text tempo repeats output names sequence,
    call.Compiles store text tempo repeats output names ∧
    compile text tempo repeats = .ok sequence ∧ sequence.encode names = .ok bytes ∧
    store.Opens output location

variable {call : Call} {store : Store}

/-- What asks for a compilation is an invocation that is one, and has a configuration. -/
theorem Compiles.exists_invocation {text output : String} {tempo repeats : UInt32} {names : Names}
    (h : call.Compiles store text tempo repeats output names) :
    ∃ invocation config, Arguments.read call.arguments = .ok invocation ∧
      invocation.command.IsCompilation ∧
      Config.Effective store call.around.home? invocation.config? config := by
  cases h with
  | render read effective _ => exact ⟨_, _, read, trivial, effective⟩
  | random read effective => exact ⟨_, _, read, trivial, effective⟩

/-- A call asks for one compilation at most. -/
theorem Compiles.unique {text text' output output' : String}
    {tempo tempo' repeats repeats' : UInt32} {names names' : Names}
    (h : call.Compiles store text tempo repeats output names)
    (h' : call.Compiles store text' tempo' repeats' output' names') :
    text = text' ∧ tempo = tempo' ∧ repeats = repeats' ∧ output = output' ∧ names = names' := by
  cases h with
  | render read effective holds =>
    cases h' with
    | render read' effective' holds' =>
      cases read.symm.trans read'
      obtain rfl := effective.unique effective'
      exact ⟨holds.unique holds', rfl, rfl, rfl, rfl⟩
    | random read' _ => cases read.symm.trans read'
  | random read effective =>
    cases h' with
    | render read' _ _ => cases read.symm.trans read'
    | random read' effective' =>
      cases read.symm.trans read'
      obtain rfl := effective.unique effective'
      exact ⟨rfl, rfl, rfl, rfl, rfl⟩

theorem Writes.unique {location location' : Location} {bytes bytes' : List UInt8}
    (h : call.Writes store location bytes) (h' : call.Writes store location' bytes') :
    location = location' ∧ bytes = bytes' := by
  obtain ⟨_, _, _, _, _, _, compiles, compiled, encoded, opens⟩ := h
  obtain ⟨_, _, _, _, _, _, compiles', compiled', encoded', opens'⟩ := h'
  obtain ⟨rfl, rfl, rfl, rfl, rfl⟩ := compiles.unique compiles'
  obtain rfl := Except.ok.inj (compiled.symm.trans compiled')
  exact ⟨opens.unique opens', Except.ok.inj (encoded.symm.trans encoded')⟩

/-- What a call does: it writes and succeeds, or it changes nothing, and is a failure if it was to
compile. -/
inductive Effect (call : Call) (store : Store) : Outcome × Store → Prop
  | writes {location : Location} {bytes : List UInt8} {outcome : Outcome} {after : Store} :
    call.Writes store location bytes → outcome.status = 0 → store.Written location bytes after →
    Effect call store (outcome, after)
  | unchanged {outcome : Outcome} : (∀ location bytes, ¬ call.Writes store location bytes) →
    (∀ invocation, Arguments.read call.arguments = .ok invocation →
      invocation.command.IsCompilation → outcome.status ≠ 0) →
    Effect call store (outcome, store)

/-- Arguments that ask for nothing that can be carried out change no file. -/
theorem run_of_stop {stop : Arguments.Stop} (read : Arguments.read call.arguments = .error stop) :
    call.run store = (stop.outcome, store) := by
  rw [run, runArguments, read]
  rfl

/-- If the configuration that is asked for cannot be had, the call is over. -/
theorem run_of_config_error {invocation : Invocation} {error : Error}
    (read : Arguments.read call.arguments = .ok invocation)
    (config : (invocation.config call.around.home? : StateM Store _).run store =
      (.error error, store)) :
    call.run store = ((⟨"", some error⟩ : Report).outcome, store) := by
  rw [run, runArguments, read]
  simp only [StateT.run_bind, Invocation.run, config]
  rfl

/-- With a configuration, the command is carried out. -/
theorem run_of_config {invocation : Invocation} {config : Config}
    (read : Arguments.read call.arguments = .ok invocation)
    (found : (invocation.config call.around.home? : StateM Store _).run store =
      (.ok config, store)) :
    call.run store =
      ((((invocation.command.run call.around.seed config invocation.quiet :
        StateM Store Report).run store).1).outcome,
       ((invocation.command.run call.around.seed config invocation.quiet :
        StateM Store Report).run store).2) := by
  rw [run, runArguments, read]
  simp only [StateT.run_bind, Invocation.run, found]
  rfl

/-- A call that asks for no compilation writes nothing. -/
theorem not_writes
    (h : ∀ text tempo repeats output names, ¬ call.Compiles store text tempo repeats output names)
    (location : Location) (bytes : List UInt8) : ¬ call.Writes store location bytes := by
  rintro ⟨_, _, _, _, _, _, compiles, _⟩
  exact h _ _ _ _ _ compiles

/-- A call that compiles a text has the effect that the law of compiling says. -/
theorem Effect.of_compilesTo {text output : String} {tempo repeats : UInt32} {names : Names}
    {result : Except Error Sequence} {after : Store}
    (compiles : call.Compiles store text tempo repeats output names)
    (law : CompilesTo store text tempo repeats output names result after)
    (quiet : Bool) (introduction : String) :
    call.Effect store ((Report.ofCompiled quiet introduction output result).outcome, after) := by
  rcases law.written_or_unchanged with
    ⟨sequence, bytes, location, rfl, compiled, encoded, opens, written⟩ | ⟨error, rfl, rfl, none⟩
  · exact .writes ⟨_, _, _, _, _, _, compiles, compiled, encoded, opens⟩ rfl written
  · refine .unchanged ?_ ?_
    · rintro location bytes ⟨_, _, _, _, _, _, compiles', compiled, encoded, opens⟩
      obtain ⟨rfl, rfl, rfl, rfl, rfl⟩ := compiles.unique compiles'
      exact none _ _ _ compiled encoded opens
    · intro _ _ _
      show (1 : UInt32) ≠ 0
      decide

/-- A call without a text to compile fails and has no other effect. -/
theorem Effect.of_unreadable {input output : String} {tempo repeats : UInt32}
    {config? : Option String} {quiet : Bool} {fault : Fault}
    (read : Arguments.read call.arguments = .ok ⟨config?, quiet, .render input tempo repeats output⟩)
    (unreadable : store.Unreadable input fault) (introduction : String) :
    call.Effect store
      ((Report.ofCompiled quiet introduction output (.error (.reading fault.message))).outcome,
        store) := by
  refine .unchanged (not_writes ?_) ?_
  · rintro _ _ _ _ _ (⟨read', _, holds⟩ | ⟨read', _⟩)
    · cases read.symm.trans read'
      exact unreadable.not_holds _ holds
    · cases read.symm.trans read'
  · intro _ _ _
    show (1 : UInt32) ≠ 0
    decide

/-- With the configuration that counts, a command has its effect. -/
theorem effect_command {invocation : Invocation} {config : Config}
    (read : Arguments.read call.arguments = .ok invocation)
    (effective : Config.Effective store call.around.home? invocation.config? config)
    (compilation : invocation.command.IsCompilation) :
    call.Effect store
      ((((invocation.command.run call.around.seed config invocation.quiet :
        StateM Store Report).run store).1).outcome,
       ((invocation.command.run call.around.seed config invocation.quiet :
        StateM Store Report).run store).2) := by
  obtain ⟨config?, quiet, command⟩ := invocation
  cases command with
  | render input tempo repeats output =>
    obtain ⟨result, after, ran, law⟩ : ∃ result after,
        (compileFile input tempo repeats output config.names : StateM Store _).run store =
          (result, after) ∧
        CompilesFile store input tempo repeats output config.names result after :=
      ⟨_, _, rfl, (settles_compileFile store input tempo repeats output config.names).1⟩
    rw [Command.run_render call.around.seed ran]
    cases law with
    | unreadable unreadable => exact .of_unreadable read unreadable _
    | read holds law => exact .of_compilesTo (.render read effective holds) law quiet _
  | random output tempo? repeats? seed? print =>
    obtain ⟨text, drawn⟩ : ∃ text, Rhythm.ofSeed (seed?.getD call.around.seed) = text := ⟨_, rfl⟩
    have compiles := Compiles.random read effective
    rw [drawn] at compiles
    obtain ⟨result, after, ran, law⟩ : ∃ result after,
        (compileToFile text (tempo?.getD config.tempo) (repeats?.getD config.repeats) output
          config.names : StateM Store _).run store = (result, after) ∧
        CompilesTo store text (tempo?.getD config.tempo) (repeats?.getD config.repeats) output
          config.names result after :=
      ⟨_, _, rfl, (settles_compileToFile store text _ _ output config.names).1⟩
    rw [Command.run_random drawn ran]
    exact .of_compilesTo compiles law quiet _
  | inspect => exact compilation.elim
  | sounds => exact compilation.elim
  | showConfig => exact compilation.elim

/-- Every call has its effect. -/
theorem effect_run (call : Call) (store : Store) : call.Effect store (call.run store) := by
  cases read : Arguments.read call.arguments with
  | error stop =>
    rw [run_of_stop read]
    -- no invocation, and so none that compiles
    refine .unchanged (not_writes ?_) ?_
    · intro _ _ _ _ _ compiles
      obtain ⟨_, _, read', _⟩ := compiles.exists_invocation
      cases read.symm.trans read'
    · intro _ read'
      cases read.symm.trans read'
  | ok invocation =>
    rcases invocation.run_config call.around.home? store with
      ⟨config, effective, found⟩ | ⟨error, none, failed⟩
    · rw [run_of_config read found]
      by_cases compilation : invocation.command.IsCompilation
      · exact effect_command read effective compilation
      · rw [Command.run_of_not_isCompilation compilation]
        -- to compile something the command would have to be another one
        refine .unchanged (not_writes ?_) ?_
        · intro _ _ _ _ _ compiles
          obtain ⟨_, _, read', compilation', _⟩ := compiles.exists_invocation
          cases read.symm.trans read'
          exact compilation compilation'
        · intro _ read' compilation'
          cases read.symm.trans read'
          exact absurd compilation' compilation
    · rw [run_of_config_error read failed]
      refine .unchanged (not_writes ?_) ?_
      · intro _ _ _ _ _ compiles
        obtain ⟨_, _, read', _, effective⟩ := compiles.exists_invocation
        cases read.symm.trans read'
        exact none _ effective
      · intro _ _ _
        show (1 : UInt32) ≠ 0
        decide

/-- A call writes and succeeds, or it changes nothing and is a failure if it was to compile. -/
theorem writes_or_unchanged (call : Call) (store : Store) :
    (∃ location bytes, call.Writes store location bytes ∧ (call.run store).1.status = 0 ∧
      store.Written location bytes (call.after store)) ∨
    (∀ location bytes, ¬ call.Writes store location bytes) ∧
      call.after store = store ∧
      ∀ invocation, Arguments.read call.arguments = .ok invocation →
        invocation.command.IsCompilation → (call.run store).1.status ≠ 0 := by
  have effect := effect_run call store
  unfold after
  cases ran : call.run store with
  | mk outcome final =>
    rw [ran] at effect
    cases effect with
    | writes writes succeeds written => exact .inl ⟨_, _, writes, succeeds, written⟩
    | unchanged none fails => exact .inr ⟨none, rfl, fails⟩

/-- What there is at a location after a call: what the call has written there, or what there was
before. -/
theorem get?_after (call : Call) (store : Store) (location : Location) :
    (∃ bytes, call.Writes store location bytes ∧
      (call.after store).get? location = some (.file bytes)) ∨
    (∀ bytes, ¬ call.Writes store location bytes) ∧
      (call.after store).get? location = store.get? location := by
  rcases call.writes_or_unchanged store with ⟨place, bytes, writes, _, written⟩ | ⟨none, same, _⟩
  · by_cases here : location = place
    · subst here
      exact .inl ⟨bytes, writes, written.here⟩
    · refine .inr ⟨?_, written.elsewhere location here⟩
      intro bytes' writes'
      exact here (writes'.unique writes).1
  · exact .inr ⟨none location, by rw [same]⟩

end Call

/-! ## Sequences of calls -/

/-- The store after calls that are made one after the other. -/
def afterCalls (store : Store) (calls : List Call) : Store :=
  calls.foldl (fun store call => call.after store) store

/-- None of the calls writes at a location. -/
def Spared (location : Location) : Store → List Call → Prop
  | _, [] => True
  | store, call :: later =>
    (∀ bytes, ¬ call.Writes store location bytes) ∧ Spared location (call.after store) later

/-- A file is as it was if no call has written it, and else holds what the last one left that
has. -/
theorem get?_afterCalls (store : Store) (calls : List Call) (location : Location) :
    (Spared location store calls ∧
      (afterCalls store calls).get? location = store.get? location) ∨
    ∃ before call later bytes, calls = before ++ call :: later ∧
      call.Writes (afterCalls store before) location bytes ∧
      Spared location (call.after (afterCalls store before)) later ∧
      (afterCalls store calls).get? location = some (.file bytes) := by
  induction calls generalizing store with
  | nil => exact .inl ⟨trivial, rfl⟩
  | cons call calls ih =>
    have step : afterCalls store (call :: calls) = afterCalls (call.after store) calls := rfl
    rw [step]
    rcases ih (call.after store) with ⟨spared, same⟩ |
      ⟨before, last, later, bytes, rfl, writes, spared, held⟩
    · rw [same]
      rcases call.get?_after store location with ⟨bytes, writes, held⟩ | ⟨none, same⟩
      · exact .inr ⟨[], call, calls, bytes, rfl, writes, spared, held⟩
      · exact .inl ⟨⟨none, spared⟩, same⟩
    · exact .inr ⟨call :: before, last, later, bytes, rfl, writes, spared, held⟩

/-- **Calls only write what they compile.** A call that fails changes nothing, and one that does
not compile changes nothing either way. One that compiles and succeeds writes: it leaves the bytes
for its text where its output opens, and nothing else changes. So after any calls what there is at a
location is what was there at the start, if no call has written there, and else what the last one
left that has. -/
theorem files_after_calls (start : Store) (calls : List Call) :
    (∀ (call : Call) store, (call.run store).1.status ≠ 0 → call.after store = store) ∧
    (∀ (call : Call) store invocation, Arguments.read call.arguments = .ok invocation →
      ¬ invocation.command.IsCompilation → call.after store = store) ∧
    (∀ (call : Call) store invocation, Arguments.read call.arguments = .ok invocation →
      invocation.command.IsCompilation → (call.run store).1.status = 0 →
      ∃ location bytes, call.Writes store location bytes) ∧
    (∀ (call : Call) store location bytes, call.Writes store location bytes →
      (call.run store).1.status = 0 ∧ store.Written location bytes (call.after store)) ∧
    ∀ location,
      (Spared location start calls ∧
        (afterCalls start calls).get? location = start.get? location) ∨
      ∃ before call later bytes, calls = before ++ call :: later ∧
        call.Writes (afterCalls start before) location bytes ∧
        Spared location (call.after (afterCalls start before)) later ∧
        (afterCalls start calls).get? location = some (.file bytes) := by
  refine ⟨?_, ?_, ?_, ?_, get?_afterCalls start calls⟩
  · intro call store fails
    rcases call.writes_or_unchanged store with ⟨_, _, _, succeeds, _⟩ | ⟨_, same, _⟩
    · exact absurd succeeds fails
    · exact same
  · intro call store invocation read idle
    rcases call.writes_or_unchanged store with
      ⟨_, _, ⟨_, _, _, _, _, _, compiles, _⟩, _⟩ | ⟨_, same, _⟩
    · obtain ⟨_, _, read', compilation, _⟩ := compiles.exists_invocation
      cases read.symm.trans read'
      exact absurd compilation idle
    · exact same
  · intro call store invocation read compilation succeeds
    rcases call.writes_or_unchanged store with ⟨location, bytes, writes, _⟩ | ⟨_, _, fails⟩
    · exact ⟨location, bytes, writes⟩
    · exact absurd succeeds (fails invocation read compilation)
  · intro call store location bytes writes
    rcases call.writes_or_unchanged store with ⟨_, _, writes', succeeds, written⟩ | ⟨none, _⟩
    · obtain ⟨rfl, rfl⟩ := writes.unique writes'
      exact ⟨succeeds, written⟩
    · exact absurd writes (none location bytes)

/-- A folder with a file of notation in it. -/
private def songFolder : Store where
  entries := [(["work"], .folder), (["work", "song"], .file "boom . TIK".toUTF8.data.toList)]
  current := ["work"]

/-- Compiles a file in its own place. -/
private def inPlace : Call := ⟨⟨none, 0⟩, ["-q", "render", "song", "120", "1", "song"]⟩

/-- Lists the sounds. -/
private def listing : Call := ⟨⟨none, 0⟩, ["sounds"]⟩

/-- A file is compiled in its own place, after which it is no notation any more, so that doing it
again fails. -/
theorem files_after_calls_in_place :
    (inPlace.run songFolder).1.status = 0 ∧
    (inPlace.run (inPlace.after songFolder)).1.status ≠ 0 ∧
    Arguments.read listing.arguments = .ok ⟨none, false, .sounds⟩ ∧
    ∃ location bytes, inPlace.Writes songFolder location bytes ∧
      songFolder.Written location bytes (afterCalls songFolder [inPlace, inPlace, listing]) := by
  obtain ⟨failure, idle, success, writing, _⟩ :=
    files_after_calls songFolder [inPlace, inPlace, listing]
  have succeeds : (inPlace.run songFolder).1.status = 0 := by decide +kernel
  have fails : (inPlace.run (inPlace.after songFolder)).1.status ≠ 0 := by decide +kernel
  have read : Arguments.read inPlace.arguments =
      .ok ⟨none, true, .render "song" 120 1 "song"⟩ := by decide +kernel
  have read' : Arguments.read listing.arguments = .ok ⟨none, false, .sounds⟩ := by decide +kernel
  obtain ⟨location, bytes, writes⟩ := success inPlace songFolder _ read trivial succeeds
  refine ⟨succeeds, fails, read', location, bytes, writes, ?_⟩
  have last : afterCalls songFolder [inPlace, inPlace, listing] =
      listing.after (inPlace.after (inPlace.after songFolder)) := rfl
  rw [last, idle listing _ _ read' id, failure inPlace _ fails]
  exact (writing inPlace songFolder location bytes writes).2

end Percussion
