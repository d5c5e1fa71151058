import Percussion.Number.Binary64

/-!
# Shortest decimals

The decimal with the fewest digits that is rounded to a given binary number. If two decimals of
that many digits are, it is the one nearer to the number, and the greater of two that are equally
near.
-/

namespace Percussion.Number

/-- The decimal `digits * 10 ^ exponent`. -/
structure Decimal where
  digits : Nat
  exponent : Int
  deriving Repr, DecidableEq

namespace Binary64

/-- Whether `num / den` is rounded to `x`: it lies no further from `x` than half the distance to
the next number, and only if the significand is even exactly that far. Below a power of two the
distance is half as wide. -/
def roundsTo (x : Binary64) (num den : Nat) : Bool :=
  let (xNum, xDen) := x.ratio
  -- Quarters of a unit in the last place, so that all bounds are whole.
  let unit := Nat.pow 2 x.exponent.toNat
  let narrow := x.significand = significandFloor ∧ minExponent < x.exponent
  let low := 4 * xNum - (if narrow then unit else 2 * unit)
  let high := 4 * xNum + 2 * unit
  if x.significand % 2 = 0 then
    low * den ≤ 4 * num * xDen && 4 * num * xDen ≤ high * den
  else
    low * den < 4 * num * xDen && 4 * num * xDen < high * den

/-- The nearer of the two multiples of `10 ^ exponent` beside `x`, if one of them is rounded
to `x`. -/
def onGrid? (x : Binary64) (exponent : Int) : Option Decimal :=
  let (xNum, xDen) := x.ratio
  let up := Nat.pow 10 exponent.toNat
  let down := Nat.pow 10 (-exponent).toNat
  let num := xNum * down
  let den := xDen * up
  let floor := num / den
  let hits (digits : Nat) : Bool := x.roundsTo (digits * up) down
  let nearUpper := den ≤ 2 * (num % den)
  let candidates := if nearUpper then [floor + 1, floor] else [floor, floor + 1]
  (candidates.find? hits).map fun digits => ⟨digits, exponent⟩

/-- An exponent that is greater than that of the first digit of `x`, by three at most. -/
def coarsestExponent (x : Binary64) : Int :=
  let (num, den) := x.ratio
  if den ≤ num then
    decimalLog (num / den) + 2
  else
    1 - decimalLog (den / num)

/-- The shortest decimal that is rounded to `x`, found on the coarsest grid that has one. No
number needs more than seventeen digits. -/
def shortest (x : Binary64) : Decimal :=
  if x.significand = 0 then
    ⟨0, 0⟩
  else
    ((List.range 21).findSome? fun (i : Nat) => x.onGrid? (x.coarsestExponent - i)).getD ⟨0, 0⟩

end Binary64

end Percussion.Number
