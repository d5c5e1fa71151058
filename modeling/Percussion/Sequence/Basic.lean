import Percussion.Sequence.Event

/-!
# Sequences

A score played at a tempo, some number of times, gives a sequence: its events in the order in
which they are played, and its length. The tempo does not move an event; it only says how long a
tick lasts.
-/

namespace Percussion

/-- How many ticks a beat takes; never 0. -/
structure Resolution where
  ticks : UInt32
  ne_zero : ticks ≠ 0
  deriving Repr, DecidableEq

namespace Resolution

/-- A beat is an eighth note. -/
def eighth : Resolution := ⟨Tick.perEighth.toUInt32, by decide⟩

/-- The resolution of `ticks` ticks per beat, if that is not 0. -/
def ofTicks? (ticks : UInt32) : Option Resolution :=
  if h : ticks = 0 then none else some ⟨ticks, h⟩

end Resolution

/-- How a score is played. -/
structure Playing where
  /-- Quarter notes per minute. -/
  tempo : UInt32
  /-- How often the score is played. -/
  repeats : UInt32
  resolution : Resolution := Resolution.eighth
  deriving Repr, DecidableEq

/-- Why a score cannot be played. -/
inductive RenderError where
  /-- The tempo is below one quarter note per minute. -/
  | invalidTempo (tempo : UInt32)
  deriving Repr, DecidableEq

/-- What the user is told. -/
def RenderError.message : RenderError → String
  | .invalidTempo tempo => s!"tempo {tempo.toNat} is too slow: it must be at least 1 BPM"

/-- A score as it is played. -/
structure Sequence where
  tempo : UInt32
  resolution : Resolution
  /-- The end of the last beat, silent beats included. -/
  length : Tick
  events : List Event
  deriving Repr, DecidableEq

/-- The length of a sequence at its tempo. -/
def Sequence.seconds (sequence : Sequence) : Float :=
  sequence.length.seconds sequence.tempo

/-- The state of the player between two beats: where the next beat starts, and what has been
played. -/
structure Playhead where
  position : Tick
  played : Array Event

namespace Playhead

/-- The player before the first beat. -/
def initial : Playhead := ⟨Tick.zero, #[]⟩

/-- Plays one beat of `ticks` ticks. -/
def playBeat (ticks : Nat) (head : Playhead) (beat : Beat) : Playhead where
  position := head.position.later ticks
  played := head.played ++ beat.eventsAt ticks head.position

/-- Plays a score once. -/
def playScore (ticks : Nat) (score : Score) (head : Playhead) : Playhead :=
  score.beats.foldl (playBeat ticks) head

/-- Plays a score `times` times. -/
def playTimes (ticks : Nat) (score : Score) : (times : Nat) → Playhead → Playhead
  | 0, head => head
  | times + 1, head => playTimes ticks score times (head.playScore ticks score)

end Playhead

namespace Score

/-- The events of a score that is played `times` times with beats of `ticks` ticks. A score
without hits is not walked through: it has none. -/
def events (score : Score) (ticks times : Nat) : List Event :=
  if score.hitCount = 0 then
    []
  else
    (Playhead.initial.playTimes ticks score times).played.toList

/-- Plays a score. -/
def render (score : Score) (playing : Playing) : Except RenderError Sequence :=
  if playing.tempo = 0 then
    .error (.invalidTempo playing.tempo)
  else
    let ticks := playing.resolution.ticks.toNat
    .ok {
      tempo := playing.tempo
      resolution := playing.resolution
      length := Tick.ofBeats (score.size * playing.repeats.toNat) ticks
      events := score.events ticks playing.repeats.toNat }

end Score

end Percussion
