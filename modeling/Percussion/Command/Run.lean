import Percussion.Command.Arguments
import Percussion.Compile.File
import Percussion.Config.File
import Percussion.Config.Writing
import Percussion.Inspection
import Percussion.Number.Text
import Percussion.Rhythm.Basic

/-!
# Carrying out commands

An invocation is carried out in two steps: the configuration is read, and then the command does
its work with it. Only the commands that compile write a file, and they write one.
-/

namespace Percussion

open Storage

/-- What an invocation finds around it besides files. -/
structure Surroundings where
  /-- The home folder of the user. -/
  home? : Option String
  /-- A seed for rhythms for which none is given. -/
  seed : UInt64
  deriving Repr, DecidableEq

/-- What a command has printed, and the error at which it has stopped, if there is one. -/
structure Report where
  printed : String
  error? : Option Error := none
  deriving Repr, DecidableEq

/-- What the caller of the program sees. -/
structure Outcome where
  status : UInt32
  stdout : String
  stderr : String
  deriving Repr, DecidableEq

/-- The table of all sounds: their names, filled up to six characters, and their keys. -/
def soundTable : String :=
  String.join (Sound.all.map fun sound =>
    let padding := String.ofList (List.replicate (6 - sound.name.length) ' ')
    s!"{sound.name}{padding} {sound.key.toNat}\n")

/-- The line that announces a compilation. -/
def announcement (input : String) : String := s!"compiling {input}...\n"

/-- The line about a file that has been written. -/
def conclusion (sequence : Sequence) (output : String) : String :=
  let count := sequence.events.length
  let seconds := Number.tenths sequence.seconds
  s!"wrote {count} events ({seconds}s at {sequence.tempo.toNat} BPM) to {output}\n"

/-- A remark, unless quiet is asked for. -/
def remark (quiet : Bool) (text : String) : String := if quiet then "" else text

/-- The inspection of a text. -/
def inspect (text : String) (playing : Playing) : Except Error String := do
  let score ← (Score.ofText text).mapError .score
  let sequence ← (score.render playing).mapError .render
  return inspection score sequence

variable {m : Type → Type} [Monad m] [FileAccess m]

/-- The report of a compilation that is introduced by `introduction`. -/
def Report.ofCompiled (quiet : Bool) (introduction output : String) :
    Except Error Sequence → Report
  | .ok sequence => ⟨introduction ++ remark quiet (conclusion sequence output), none⟩
  | .error error => ⟨introduction, some error⟩

namespace Command

/-- Carries out a command with a configuration. -/
def run (seed : UInt64) (config : Config) (quiet : Bool) : Command → m Report
  | render input tempo repeats output => do
    let compiled ← compileFile input tempo repeats output config.names
    return .ofCompiled quiet (remark quiet (announcement input)) output compiled
  | random output tempo? repeats? seed? print => do
    let text := Rhythm.ofSeed (seed?.getD seed)
    let tempo := tempo?.getD config.tempo
    let repeats := repeats?.getD config.repeats
    let compiled ← compileToFile text tempo repeats output config.names
    return .ofCompiled quiet (if print then text else "") output compiled
  | inspect input repeats resolution => do
    match ← readText input with
    | .error fault => return ⟨"", some (.reading fault.message)⟩
    | .ok text =>
      match Percussion.inspect text { tempo := config.tempo, repeats, resolution } with
      | .error error => return ⟨"", some error⟩
      | .ok listing => return ⟨listing, none⟩
  | sounds => return ⟨soundTable, none⟩
  | showConfig => return ⟨config.text, none⟩

end Command

namespace Invocation

/-- The configuration that counts: the one that is asked for, or else the one at home, or else
the defaults. -/
def config (home? : Option String) (invocation : Invocation) : m (Except Error Config) := do
  match invocation.config? with
  | some path => Config.ofFile path
  | none =>
    match home? with
    | some home => return .ok ((← Config.ofHome? home).getD {})
    | none => return .ok {}

/-- Carries out an invocation. -/
def run (around : Surroundings) (invocation : Invocation) : m Report := do
  match ← invocation.config around.home? with
  | .error error => return ⟨"", some error⟩
  | .ok config => invocation.command.run around.seed config invocation.quiet

end Invocation

/-- The outcome for a report. -/
def Report.outcome (report : Report) : Outcome :=
  match report.error? with
  | none => ⟨0, report.printed, ""⟩
  | some error => ⟨1, report.printed, s!"error: {error.message}\n"⟩

/-- The name and the version of the program. -/
def versionText : String := "vpal 0.1.0\n"

/-- What can be asked for. -/
def usageText : String :=
  String.intercalate "\n" [
    "Turn lines of vocal percussion notation into MIDI drum tracks",
    "",
    "Usage: vpal [OPTIONS] <COMMAND>",
    "",
    "Commands:",
    "  render <INPUT> <TEMPO> <REPEAT> <OUTPUT>",
    "  random [--tempo N] [--repeat N] [--seed N] [--print] <OUTPUT>",
    "  inspect [--repeat N] [--ticks-per-beat N] <INPUT>",
    "  sounds",
    "  show-config",
    "",
    "Options:",
    "  -c, --config <CONFIG>  Configuration file (defaults to ~/.vpal/config.yaml)",
    "  -q, --quiet            Only report errors",
    "  -h, --help             Print help",
    "  -V, --version          Print version",
    ""]

/-- The outcome for arguments that give no invocation. -/
def Arguments.Stop.outcome : Arguments.Stop → Outcome
  | .usage => ⟨2, "", usageText⟩
  | .version => ⟨0, versionText, ""⟩
  | .help => ⟨0, usageText, ""⟩

/-- Carries out what the arguments of the program ask for. -/
def runArguments (around : Surroundings) (arguments : List String) : m Outcome := do
  match Arguments.read arguments with
  | .error stop => return stop.outcome
  | .ok invocation => return (← invocation.run around).outcome

end Percussion
