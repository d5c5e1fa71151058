import Percussion.Config.Basic
import Percussion.Sequence.Basic

/-!
# Commands

What a user can ask for, and in which words. A command line is a verb with options before and
after it; the options that stand before the verb are the general ones, which can stand after it
as well.
-/

namespace Percussion

/-- What a word that belongs to no option is. -/
inductive Operand where
  | path
  | number
  deriving Repr, DecidableEq

/-- The words that name a command. -/
inductive Verb where
  | render
  | random
  | inspect
  | sounds
  | showConfig
  deriving Repr, DecidableEq

namespace Verb

/-- All verbs. -/
def all : List Verb := [render, random, inspect, sounds, showConfig]

/-- How a verb is written. -/
def word : Verb → String
  | render => "render"
  | random => "random"
  | inspect => "inspect"
  | sounds => "sounds"
  | showConfig => "show-config"

/-- The verb that is written so. -/
def ofWord? (text : String) : Option Verb :=
  all.find? fun verb => verb.word == text

/-- The words that have to follow a verb, options apart. -/
def operands : Verb → List Operand
  | render => [.path, .number, .number, .path]
  | random => [.path]
  | inspect => [.path]
  | sounds => []
  | showConfig => []

end Verb

/-- What can be asked for. -/
inductive Command where
  /-- Compiles the notation in a file. -/
  | render (input : String) (tempo repeats : UInt32) (output : String)
  /-- Compiles a random rhythm, and prints its notation if that is wanted. What is not given is
  taken from the configuration, and the seed from the surroundings. -/
  | random (output : String) (tempo? repeats? : Option UInt32) (seed? : Option UInt64)
      (print : Bool)
  /-- Prints the beats and the events of the notation in a file. -/
  | inspect (input : String) (repeats : UInt32) (resolution : Resolution)
  /-- Prints all sounds. -/
  | sounds
  /-- Prints the configuration. -/
  | showConfig
  deriving Repr, DecidableEq

/-- A command, and how it is to be carried out. -/
structure Invocation where
  /-- The file with the configuration, if it is not the one at home. -/
  config? : Option String
  /-- Whether only errors are to be reported. -/
  quiet : Bool
  command : Command
  deriving Repr, DecidableEq

end Percussion
