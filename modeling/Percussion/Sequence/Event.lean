import Percussion.Score.Basic
import Percussion.Sequence.Tick

/-!
# Events

What happens on one beat: all its hits start together at the beginning, and they stop one after
the other, spread over the beat.
-/

namespace Percussion

/-- Whether a hit starts or stops. -/
inductive EventKind where
  | start
  | stop
  deriving Repr, DecidableEq

/-- The name of a kind of event. -/
def EventKind.name : EventKind → String
  | .start => "start"
  | .stop => "stop"

/-- A hit that starts or stops at a position of the piece. -/
structure Event where
  kind : EventKind
  hit : Hit
  tick : Tick
  deriving Repr, DecidableEq

namespace Beat

/-- How long after the start of a beat of `ticks` ticks the hit number `index` of `count` hits
stops. The hits share the beat in equal whole steps of at least one tick, and none outlasts it. The
hits are counted with a natural number: beats of 2 ^ 32 hits and more, for which a counter of 32 bits
would start over, are left out. -/
def stopOffset (ticks count index : Nat) : Nat :=
  min ((index + 1) * max (ticks / count) 1) ticks

/-- The events of a beat of `ticks` ticks that begins at `start`, in the order in which they
are played. Here too a beat has fewer than 2 ^ 32 hits. -/
def eventsAt (ticks : Nat) (start : Tick) (beat : Beat) : List Event :=
  let count := beat.hits.length
  beat.hits.map (fun hit => ⟨.start, hit, start⟩) ++
    beat.hits.zipIdx.map fun (hit, index) => ⟨.stop, hit, start.later (stopOffset ticks count index)⟩

end Beat

end Percussion
