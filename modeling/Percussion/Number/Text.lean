import Percussion.Number.Shortest

/-!
# Numbers as text

How decimals are written: positionally, with all their digits and never with an exponent.
-/

namespace Percussion.Number

/-- The digits of `n` times the power of ten `exponent`, with a point where one is needed. -/
def Decimal.text (d : Decimal) : String :=
  let digits := toString d.digits
  if 0 ≤ d.exponent then
    digits ++ String.ofList (List.replicate d.exponent.toNat '0')
  else
    let places := (-d.exponent).toNat
    let padded := List.replicate (places + 1 - digits.length) '0' ++ digits.toList
    let whole := padded.take (padded.length - places)
    let fraction := padded.drop (padded.length - places)
    String.ofList whole ++ "." ++ String.ofList fraction

/-- The shortest decimal that is rounded to `x`, written with at least one decimal place. -/
def Binary64.text (x : Binary64) : String :=
  let d := x.shortest
  if 0 ≤ d.exponent then d.text ++ ".0" else d.text

/-- A number that is not negative, rounded to one decimal place; of two that are equally near,
the one with the even digit. What is no finite number is taken for 0. -/
def tenths (x : Float) : String :=
  let (num, den) := ((Binary64.ofBits? x.toBits).getD Binary64.zero).ratio
  Decimal.text ⟨roundHalfEven (10 * num) den, -1⟩

end Percussion.Number
