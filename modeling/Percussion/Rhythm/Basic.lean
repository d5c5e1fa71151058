import Percussion.Rhythm.Keystream
import Percussion.Rhythm.Lines

/-!
# Random rhythms

A rhythm is a few different lines of one set, in an order that is random too. Which set, how many
lines and which lines are drawn from a source of words, in this order.
-/

namespace Percussion.Rhythm

/-- Puts the new index `fresh` in front of `drawn` if that is in the list, and adds `drawn` at
the end if it is not. Either way the list grows by an index that it did not have, as long as it
did not have `fresh`. -/
def place (fresh drawn : Nat) : List Nat → List Nat
  | [] => [drawn]
  | i :: rest => if i = drawn then fresh :: i :: rest else i :: place fresh drawn rest

/-- Draws `count` different indexes below `size`, in random order. The draw for each index `last`
from `size - count` up is a number from 0 to `last`. -/
def drawIndexes {σ : Type} [WordSource σ] (size count : Nat) (s : σ) : List Nat × σ :=
  let step (state : List Nat × σ) (last : Nat) : List Nat × σ :=
    let (drawn, s) := drawBelow .single (last + 1) state.2
    (place last drawn state.1, s)
  ((List.range size).drop (size - count)).foldl step ([], s)

/-- Draws the lines of a rhythm. -/
def drawLines {σ : Type} [WordSource σ] (s : σ) : List String × σ :=
  let (coin, s) := WordSource.draw .double s
  let set := if coin < 0x8000000000000000 then eightBeat else sixteenBeat
  let (extra, s) := drawBelow .double (maxLines - minLines + 1) s
  let (indexes, s) := drawIndexes set.length (minLines + extra) s
  (indexes.map fun i => set.getD i "", s)

/-- The text with the given lines, each ended by a line feed. -/
def textOfLines (lines : List String) : String :=
  String.join (lines.map (· ++ "\n"))

/-- Draws a rhythm. -/
def draw {σ : Type} [WordSource σ] (s : σ) : String × σ :=
  let (lines, s) := drawLines s
  (textOfLines lines, s)

/-- The rhythm that belongs to a seed. -/
def ofSeed (seed : UInt64) : String :=
  (draw (Keystream.ofSeed seed)).1

end Percussion.Rhythm
