/-!
# Drawing numbers

A source of random words, and the draw of a number below a bound from it: the word is scaled to
the bound, and words that would make some numbers likelier than others are passed over. A source
may run dry, and a dry source gives zeros, which are never passed over, so that every draw comes
to an end.
-/

namespace Percussion.Rhythm

/-- The two sizes in which words are drawn. -/
inductive WordSize where
  | single
  | double
  deriving Repr, DecidableEq

/-- The number of bits of a word. -/
def WordSize.bits : WordSize → Nat
  | .single => 32
  | .double => 64

/-- The number of words of a size. -/
def WordSize.count : WordSize → Nat
  | .single => 0x100000000
  | .double => 0x10000000000000000

/-- States from which words can be drawn. -/
class WordSource (σ : Type) where
  /-- A bound on how many words other than zero are still to come. -/
  remaining : σ → Nat
  /-- The next word, and the state after it. -/
  draw : WordSize → σ → Nat × σ
  /-- Zeros apart, words are used up. -/
  remaining_draw_lt : ∀ (size : WordSize) (s : σ),
    (draw size s).1 ≠ 0 → remaining (draw size s).2 < remaining s

/-- The greatest fraction, in units of the last bit of a word, with which a scaled word is still
accepted: one less than the greatest power of two times `bound` that a word can hold. -/
def acceptedZone (size : WordSize) (bound : Nat) : Nat :=
  bound * Nat.pow 2 (size.bits - 1 - bound.log2) - 1

/-- Draws a number below `bound`. -/
def drawBelow {σ : Type} [WordSource σ] (size : WordSize) (bound : Nat) (s : σ) : Nat × σ :=
  let scaled := (WordSource.draw size s).1 * bound
  if scaled % size.count ≤ acceptedZone size bound then
    (scaled / size.count, (WordSource.draw size s).2)
  else
    drawBelow size bound (WordSource.draw size s).2
termination_by WordSource.remaining s
decreasing_by
  rename_i rejected
  refine WordSource.remaining_draw_lt size s fun zero => rejected ?_
  simp [scaled, zero]

/-- Words that are written down in advance, and the sizes of the draws made so far, last one
first. -/
structure Script where
  words : List UInt64
  drawn : List WordSize := []

namespace Script

/-- The next word; after the last one, zeros. A single word is the lower half of a double one. -/
def draw (size : WordSize) (script : Script) : Nat × Script :=
  ((script.words.headD 0).toNat % size.count, ⟨script.words.tail, size :: script.drawn⟩)

instance : WordSource Script where
  remaining script := script.words.length
  draw := draw
  remaining_draw_lt size script h := by
    obtain ⟨words, drawn⟩ := script
    cases words with
    | nil => simp [draw] at h
    | cons => simp [draw]

end Script

end Percussion.Rhythm
