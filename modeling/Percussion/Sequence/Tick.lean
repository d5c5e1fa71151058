/-!
# Ticks

Positions in a piece are counted in ticks, so that repeating a score never adds up rounding
errors. A position is a 64-bit number, and arithmetic that would pass the largest position stays
there. Seconds appear only where a length is reported.
-/

namespace Percussion

/-- A position in a piece, in ticks from its start. -/
structure Tick where
  toNat : Nat
  lt_bound : toNat < 0x10000000000000000
  deriving Repr, DecidableEq

namespace Tick

/-- The number of ticks in a quarter note. -/
def perQuarter : Nat := 480

/-- The number of ticks in an eighth note, the usual length of a beat. -/
def perEighth : Nat := perQuarter / 2

/-- The last position. -/
def last : Nat := 0xFFFFFFFFFFFFFFFF

/-- The position `n` ticks from the start, or the last one if there is no such position. -/
def ofNat (n : Nat) : Tick :=
  ⟨min n last, by simp only [last]; omega⟩

/-- The start of a piece. -/
def zero : Tick := ofNat 0

/-- Where beat number `index`, counted from 0, starts if each takes `ticks` ticks. -/
def ofBeats (index ticks : Nat) : Tick :=
  ofNat (index * ticks)

/-- The position `n` ticks later. -/
def later (t : Tick) (n : Nat) : Tick :=
  ofNat (t.toNat + n)

/-- The distance from an earlier position; zero if it is not earlier. -/
def since (t earlier : Tick) : Nat :=
  t.toNat - earlier.toNat

instance : Ord Tick := ⟨fun t s => compare t.toNat s.toNat⟩

instance : Max Tick := ⟨fun t s => if t.toNat ≤ s.toNat then s else t⟩

instance : Min Tick := ⟨fun t s => if t.toNat ≤ s.toNat then t else s⟩

@[ext] theorem ext {t s : Tick} (h : t.toNat = s.toNat) : t = s := by
  cases t; cases s; cases h; rfl

/-- A number beyond the last position stands for that. -/
@[simp] theorem toNat_ofNat (n : Nat) : (ofNat n).toNat = min n last := rfl

/-- No position is later than the last. -/
@[simp] theorem toNat_later (t : Tick) (n : Nat) :
    (t.later n).toNat = min (t.toNat + n) last := rfl

/-- The time in seconds from the start at `tempo` quarter notes per minute. Tempo 0, at which
the position is never reached, gives 0. -/
def seconds (t : Tick) (tempo : UInt32) : Float :=
  if tempo = 0 then
    0.0
  else
    t.toNat.toUInt64.toFloat * 60.0 / (perQuarter.toUInt64.toFloat * tempo.toFloat)

end Tick

end Percussion
