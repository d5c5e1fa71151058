import Percussion.Command.Basic
import Percussion.Number.Numeral

/-!
# Arguments

Reads an invocation from the arguments of the program, from left to right. An option is a word
after two dashes or a letter after one, and letters can share a dash. A setting is an option with
a value, which is attached to it or the argument after it. Two dashes alone end the options.
-/

namespace Percussion.Arguments

/-- Why the arguments give no invocation. -/
inductive Stop where
  /-- They are not understood. -/
  | usage
  /-- They ask which version this is. -/
  | version
  /-- They ask what can be done. -/
  | help
  deriving Repr, DecidableEq

/-- Options without a value. -/
inductive Switch where
  | quiet
  | print
  | version
  | help
  deriving Repr, DecidableEq

/-- Options with a value. -/
inductive Setting where
  | config
  | tempo
  | repeats
  | seed
  | resolution
  deriving Repr, DecidableEq

/-- An option. -/
inductive Flag where
  | switch (switch : Switch)
  | setting (setting : Setting)
  deriving Repr, DecidableEq

namespace Flag

/-- The word for an option. -/
def word : Flag → String
  | .switch .quiet => "quiet"
  | .switch .print => "print"
  | .switch .version => "version"
  | .switch .help => "help"
  | .setting .config => "config"
  | .setting .tempo => "tempo"
  | .setting .repeats => "repeat"
  | .setting .seed => "seed"
  | .setting .resolution => "ticks-per-beat"

/-- The letter for an option. Only options that are not about one command have one. -/
def letter? : Flag → Option Char
  | .switch .quiet => some 'q'
  | .switch .version => some 'V'
  | .switch .help => some 'h'
  | .setting .config => some 'c'
  | _ => none

/-- The options that can stand before a verb. -/
def general : List Flag :=
  [.setting .config, .switch .quiet, .switch .help, .switch .version]

/-- The options that can stand after a verb. -/
def ofVerb (verb : Verb) : List Flag :=
  let own := match verb with
    | .random => [.setting .tempo, .setting .repeats, .setting .seed, .switch .print]
    | .inspect => [.setting .repeats, .setting .resolution]
    | _ => []
  own ++ [.setting .config, .switch .quiet, .switch .help]

end Flag

/-- What the arguments have said so far. -/
structure Given where
  config? : Option String := none
  tempo? : Option UInt32 := none
  repeats? : Option UInt32 := none
  seed? : Option UInt64 := none
  resolution? : Option Resolution := none
  quiet : Bool := false
  print : Bool := false
  /-- The words that belong to no option. -/
  operands : List String := []
  deriving Repr, DecidableEq

/-- A path that an argument gives. -/
def path? (text : String) : Option String :=
  if text.isEmpty then none else some text

/-- A number of 32 bits that an argument gives. A sign is harmless as long as the number is not
negative, so that `-0` is a number as well. -/
def word32? (text : String) : Option UInt32 := do
  let n ← Number.signedNumeral? text.toList
  if 0 ≤ n ∧ n < 0x100000000 then some n.toNat.toUInt32 else none

/-- A number of 64 bits that an argument gives, without a minus sign. -/
def word64? (text : String) : Option UInt64 :=
  (Number.boundedNumeral? 0x10000000000000000 text.toList).map Nat.toUInt64

/-- A resolution that an argument gives. -/
def resolution? (text : String) : Option Resolution :=
  (word32? text).bind Resolution.ofTicks?

/-- Whether a word can be what it has to be. -/
def fits (text : String) : Operand → Bool
  | .path => (path? text).isSome
  | .number => (word32? text).isSome

/-- `value` for what is not given yet. Nothing may be given twice. -/
def once {α : Type} (old value : Option α) : Except Stop (Option α) :=
  match old, value with
  | none, some value => .ok (some value)
  | _, _ => .error .usage

namespace Given

/-- Takes in a setting and its value. -/
def set (given : Given) (value : String) : Setting → Except Stop Given
  | .config => do return { given with config? := ← once given.config? (path? value) }
  | .tempo => do return { given with tempo? := ← once given.tempo? (word32? value) }
  | .repeats => do return { given with repeats? := ← once given.repeats? (word32? value) }
  | .seed => do return { given with seed? := ← once given.seed? (word64? value) }
  | .resolution => do
    return { given with resolution? := ← once given.resolution? (Arguments.resolution? value) }

/-- Takes in a setting that has been held back, if there is one. -/
def settle (given : Given) : Option (Setting × String) → Except Stop Given
  | none => .ok given
  | some (setting, value) => given.set value setting

/-- Takes in a switch. -/
def turnOn (given : Given) : Switch → Except Stop Given
  | .quiet => if given.quiet then .error .usage else .ok { given with quiet := true }
  | .print => if given.print then .error .usage else .ok { given with print := true }
  | .version => .error .version
  | .help => .error .help

end Given

/-- Reads an option that is written as a word, perhaps with a value after an equals sign. The
setting in the result still waits for its value. -/
def readWord (flags : List Flag) (given : Given) (body : List Char) :
    Except Stop (Given × Option Setting) :=
  let word := body.takeWhile (· != '=')
  let value? := match body.dropWhile (· != '=') with
    | [] => none
    | _ :: value => some (String.ofList value)
  match flags.find? fun flag => flag.word.toList == word, value? with
  | some (.switch switch), none => do return (← given.turnOn switch, none)
  | some (.setting setting), none => .ok (given, some setting)
  | some (.setting setting), some value => do return (← given.set value setting, none)
  | _, _ => .error .usage

/-- Reads options that are written as letters. What follows the letter of a setting is its value,
perhaps after an equals sign. The setting in the result still waits for its value. -/
def readLetters (flags : List Flag) (given : Given) :
    List Char → Except Stop (Given × Option Setting)
  | [] => .ok (given, none)
  | letter :: rest =>
    match flags.find? fun flag => flag.letter? == some letter with
    | some (.switch switch) => do readLetters flags (← given.turnOn switch) rest
    | some (.setting setting) =>
      match rest with
      | [] => .ok (given, some setting)
      | '=' :: value => do return (← given.set (String.ofList value) setting, none)
      | value => do return (← given.set (String.ofList value) setting, none)
    | none => .error .usage

/-- Takes in a word that belongs to no option. It has to be what the verb wants at its place. -/
def addOperand (verb : Verb) (given : Given) (text : String) : Except Stop Given :=
  if verb.operands[given.operands.length]?.any (fits text) then
    .ok { given with operands := given.operands ++ [text] }
  else
    .error .usage

/-- Reads the options before a verb. The result has the verb and what follows it, if there is
a verb. `waiting` is the setting whose value comes next, and `held` a setting that has its value;
it is taken in before the next option, or else after all that follows the verb. -/
def readGeneral (given : Given) : (waiting : Option Setting) →
    (held : Option (Setting × String)) → List String →
    Except Stop (Given × Option (Setting × String) × List String)
  | none, held, [] => .ok (given, held, [])
  | some _, _, [] => .error .usage
  | waiting, held, argument :: rest =>
    match argument.toList, waiting with
    | ['-', '-'], _ => .error .usage
    | '-' :: '-' :: body, none => do
      let (given, waiting) ← readWord Flag.general (← given.settle held) body
      readGeneral given waiting none rest
    | '-' :: letter :: letters, none => do
      let (given, waiting) ← readLetters Flag.general (← given.settle held) (letter :: letters)
      readGeneral given waiting none rest
    | '-' :: _ :: _, some _ => .error .usage
    | _, some setting => readGeneral given none (some (setting, argument)) rest
    | _, none => .ok (given, held, argument :: rest)

/-- Reads what follows a verb. `waiting` is the setting whose value comes next. -/
def readSpecial (verb : Verb) (given : Given) : (waiting : Option Setting) → List String →
    Except Stop Given
  | none, [] => .ok given
  | some _, [] => .error .usage
  | waiting, argument :: rest =>
    match argument.toList, waiting with
    | ['-', '-'], none => rest.foldlM (addOperand verb) given
    | '-' :: '-' :: body, none => do
      let (given, waiting) ← readWord (Flag.ofVerb verb) given body
      readSpecial verb given waiting rest
    | '-' :: letter :: letters, none => do
      let (given, waiting) ← readLetters (Flag.ofVerb verb) given (letter :: letters)
      readSpecial verb given waiting rest
    | '-' :: _ :: _, some _ => .error .usage
    | _, some setting => do readSpecial verb (← given.set argument setting) none rest
    | _, none => do readSpecial verb (← addOperand verb given argument) none rest

/-- The command that a verb and what follows it ask for. -/
def Given.command? (given : Given) : Verb → Option Command
  | .render =>
    match given.operands with
    | [input, tempo, repeats, output] => do
      return .render (← path? input) (← word32? tempo) (← word32? repeats) (← path? output)
    | _ => none
  | .random =>
    match given.operands with
    | [output] => do
      return .random (← path? output) given.tempo? given.repeats? given.seed? given.print
    | _ => none
  | .inspect =>
    match given.operands with
    | [input] => do
      return .inspect (← path? input) (given.repeats?.getD 1)
        (given.resolution?.getD Resolution.eighth)
    | _ => none
  | .sounds => if given.operands.isEmpty then some .sounds else none
  | .showConfig => if given.operands.isEmpty then some .showConfig else none

/-- The word that asks for help in place of a verb. -/
def helpWord : String := "help"

/-- Whether help can be asked for with these words after the word for help. -/
def isHelpTopic : List String → Bool
  | [] => true
  | [topic] => topic == helpWord || (Verb.ofWord? topic).isSome
  | _ => false

/-- Reads an invocation. A general option can be given before and after the verb; what stands
after it counts. -/
def read (arguments : List String) : Except Stop Invocation := do
  match ← readGeneral {} none none arguments with
  | (_, _, []) => .error .usage
  | (before, held, word :: rest) =>
    match Verb.ofWord? word with
    | some verb =>
      let after ← readSpecial verb {} none rest
      match after.command? verb with
      | some command =>
        let before ← before.settle held
        return {
          config? := after.config?.or before.config?
          quiet := before.quiet || after.quiet
          command }
      | none => .error .usage
    | none => .error (if word = helpWord && isHelpTopic rest then .help else .usage)

end Percussion.Arguments
