/-!
# Binary numbers of 64 bits

The finite numbers that are not negative, as a whole number times a power of two, and how a ratio
of whole numbers is rounded to one of them. All of it is exact arithmetic on whole numbers.
-/

namespace Percussion.Number

/-- The whole number nearest to `num / den`; of two that are equally near, the even one. -/
def roundHalfEven (num den : Nat) : Nat :=
  let floor := num / den
  let twice := 2 * (num % den)
  if twice < den then floor
  else if den < twice then floor + 1
  else if floor % 2 = 0 then floor
  else floor + 1

/-- The number `significand * 2 ^ exponent`. -/
structure Binary64 where
  significand : Nat
  exponent : Int
  deriving Repr, DecidableEq

namespace Binary64

/-- The number of bits of a significand. -/
def precision : Nat := 53

/-- All significands are below this: it takes one bit more than they have. -/
def significandBound : Nat := 0x20000000000000

/-- Only the significands of the least numbers, whose exponent is the least one, are below this. -/
def significandFloor : Nat := 0x10000000000000

/-- The least exponent. -/
def minExponent : Int := -1074

/-- The greatest exponent. -/
def maxExponent : Int := 971

/-- Zero. -/
def zero : Binary64 := ⟨0, minExponent⟩

/-- The number as a ratio of whole numbers. -/
def ratio (x : Binary64) : Nat × Nat :=
  (x.significand * Nat.pow 2 x.exponent.toNat, Nat.pow 2 (-x.exponent).toNat)

/-- The number with the given bits, without its sign. Infinities and what is no number are left
out. -/
def ofBits? (bits : UInt64) : Option Binary64 :=
  let fraction : Nat := bits.toNat % significandFloor
  let biased : Nat := bits.toNat / significandFloor % 2048
  if biased = 2047 then none
  else if biased = 0 then some ⟨fraction, minExponent⟩
  else some ⟨significandFloor + fraction, minExponent + biased - 1⟩

/-- The number nearest to `num / den`, where `den` is not 0; of two that are equally near, the
one with the even significand. There is none if the ratio is too great. -/
def nearest? (num den : Nat) : Option Binary64 :=
  if num = 0 then
    some zero
  else
    -- The exponent at which the quotient has 53 bits, or one bit more or less.
    let guess : Int := (num.log2 : Int) - den.log2 - (precision - 1)
    let fits (exponent : Int) : Bool :=
      num * Nat.pow 2 (-exponent).toNat < den * Nat.pow 2 exponent.toNat * significandBound
    let exponent := max minExponent (if fits (guess - 1) then guess - 1 else guess)
    let significand :=
      roundHalfEven (num * Nat.pow 2 (-exponent).toNat) (den * Nat.pow 2 exponent.toNat)
    let rounded : Binary64 :=
      if significand = significandBound then ⟨significandFloor, exponent + 1⟩
      else ⟨significand, exponent⟩
    if maxExponent < rounded.exponent then none else some rounded

/-- The exponent of the first digit of a whole number other than 0, or one less. -/
def decimalLog (n : Nat) : Nat := n.log2 * 30103 / 100000

/-- The number nearest to `digits * 10 ^ exponent`. Ratios that are far beyond the greatest or
below the least number are not written out. -/
def ofDecimal? (digits : Nat) (exponent : Int) : Option Binary64 :=
  if digits = 0 then
    some zero
  else
    let magnitude := decimalLog digits + exponent
    if 400 < magnitude then none
    else if magnitude < -400 then some zero
    else nearest? (digits * Nat.pow 10 exponent.toNat) (Nat.pow 10 (-exponent).toNat)

end Binary64

end Percussion.Number
