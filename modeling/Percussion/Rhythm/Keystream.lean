import Percussion.Rhythm.Draw

/-!
# The keystream of a seed

The random words that belong to a seed: the output of the ChaCha stream cipher with eight rounds,
under a key that is spread from the seed by a small congruential generator.
-/

namespace Percussion.Rhythm

/-- Four words side by side. -/
structure Row where
  a : UInt32
  b : UInt32
  c : UInt32
  d : UInt32
  deriving Repr, DecidableEq

namespace Row

/-- Rotates a word to the left. -/
def rotateWord (x n : UInt32) : UInt32 :=
  (x <<< n) ||| (x >>> (32 - n))

/-- Adds word by word. -/
def add (r s : Row) : Row :=
  ⟨r.a + s.a, r.b + s.b, r.c + s.c, r.d + s.d⟩

/-- The exclusive or word by word, each then rotated to the left by `n` bits. -/
def xorRotate (r s : Row) (n : UInt32) : Row :=
  ⟨rotateWord (r.a ^^^ s.a) n, rotateWord (r.b ^^^ s.b) n, rotateWord (r.c ^^^ s.c) n,
    rotateWord (r.d ^^^ s.d) n⟩

/-- Moves every word one place to the left, the first to the end. -/
def turn (r : Row) : Row := ⟨r.b, r.c, r.d, r.a⟩

/-- The words in order. -/
def toList (r : Row) : List UInt32 := [r.a, r.b, r.c, r.d]

end Row

/-- The sixteen words of the cipher's state, in four rows. -/
structure Block where
  first : Row
  second : Row
  third : Row
  fourth : Row
  deriving Repr, DecidableEq

namespace Block

/-- A quarter round on each column. -/
def columnRound (m : Block) : Block :=
  let first := m.first.add m.second
  let fourth := m.fourth.xorRotate first 16
  let third := m.third.add fourth
  let second := m.second.xorRotate third 12
  let first := first.add second
  let fourth := fourth.xorRotate first 8
  let third := third.add fourth
  let second := second.xorRotate third 7
  ⟨first, second, third, fourth⟩

/-- A quarter round on each diagonal. -/
def diagonalRound (m : Block) : Block :=
  let turned : Block := ⟨m.first, m.second.turn, m.third.turn.turn, m.fourth.turn.turn.turn⟩
  let mixed := turned.columnRound
  ⟨mixed.first, mixed.second.turn.turn.turn, mixed.third.turn.turn, mixed.fourth.turn⟩

/-- Two rounds. -/
def doubleRound (m : Block) : Block :=
  m.columnRound.diagonalRound

/-- The output for an input block: eight rounds, and the input added once more. -/
def output (m : Block) : Block :=
  let mixed := m.doubleRound.doubleRound.doubleRound.doubleRound
  ⟨mixed.first.add m.first, mixed.second.add m.second, mixed.third.add m.third,
    mixed.fourth.add m.fourth⟩

/-- The words in order. -/
def toList (m : Block) : List UInt32 :=
  m.first.toList ++ m.second.toList ++ m.third.toList ++ m.fourth.toList

end Block

/-- The key that belongs to a seed, and how many words of its stream have been used. -/
structure Keystream where
  upperKey : Row
  lowerKey : Row
  used : Nat := 0
  deriving Repr, DecidableEq

namespace Keystream

/-- The next state of the generator that spreads a seed over a key. -/
def spread (s : UInt64) : UInt64 :=
  s * 6364136223846793005 + 11634580027462260723

/-- The word that a state of that generator gives: some of its upper bits, rotated to the right
by the five uppermost. -/
def spreadWord (s : UInt64) : UInt32 :=
  let x := (((s >>> 18) ^^^ s) >>> 27).toUInt32
  let n := (s >>> 59).toUInt32
  (x >>> n) ||| (x <<< ((32 - n) &&& 31))

/-- Four words of a key, and the state of the generator after them. -/
def spreadRow (s : UInt64) : Row × UInt64 :=
  let s₁ := spread s
  let s₂ := spread s₁
  let s₃ := spread s₂
  let s₄ := spread s₃
  (⟨spreadWord s₁, spreadWord s₂, spreadWord s₃, spreadWord s₄⟩, s₄)

/-- The stream of a seed from its beginning. -/
def ofSeed (seed : UInt64) : Keystream :=
  let (upperKey, s) := spreadRow seed
  let (lowerKey, _) := spreadRow s
  { upperKey, lowerKey }

/-- The constants of the cipher: the letters `expand 32-byte k`, four to a word, the first of
them lowest. -/
def constants : Row := ⟨0x61707865, 0x3320646E, 0x79622D32, 0x6B206574⟩

/-- Block number `index` of the stream. -/
def block (stream : Keystream) (index : Nat) : Block :=
  Block.output ⟨constants, stream.upperKey, stream.lowerKey,
    ⟨index.toUInt32, (index / 0x100000000).toUInt32, 0, 0⟩⟩

/-- The number of words of the stream: sixteen for each of the indexes of 64 bits. -/
def length : Nat := 0x10000000000000000 * 16

/-- Word number `index` of the stream; zero after its end. -/
def word (stream : Keystream) (index : Nat) : Nat :=
  if index < length then
    ((stream.block (index / 16)).toList.getD (index % 16) 0).toNat
  else
    0

/-- The next word. A double one is two single ones, the lower half first. -/
def draw (size : WordSize) (stream : Keystream) : Nat × Keystream :=
  match size with
  | .single => (stream.word stream.used, { stream with used := stream.used + 1 })
  | .double =>
    (stream.word stream.used + 0x100000000 * stream.word (stream.used + 1),
      { stream with used := stream.used + 2 })

/-- Beyond its end a stream has only zeros. -/
theorem word_eq_zero {stream : Keystream} {index : Nat} (h : length ≤ index) :
    stream.word index = 0 := by
  simp [word, Nat.not_lt.mpr h]

instance : WordSource Keystream where
  remaining stream := length - stream.used
  draw := draw
  remaining_draw_lt size stream h := by
    have used_lt : stream.used < length := by
      refine Nat.lt_of_not_le fun le => h ?_
      cases size <;> simp [draw, word_eq_zero le, word_eq_zero (Nat.le_succ_of_le le)]
    cases size <;> simp only [draw] <;> omega

end Keystream

end Percussion.Rhythm
