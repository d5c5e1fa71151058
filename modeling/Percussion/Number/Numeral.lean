/-!
# Numerals

Whole numbers written with digits of a base up to sixteen, as many as there are and nothing else.
-/

namespace Percussion.Number

/-- The value of a digit; letters are digits from ten up, in either case. -/
def digitValue? (c : Char) : Option Nat :=
  if '0' ≤ c ∧ c ≤ '9' then some (c.toNat - '0'.toNat)
  else if 'a' ≤ c ∧ c ≤ 'f' then some (c.toNat - 'a'.toNat + 10)
  else if 'A' ≤ c ∧ c ≤ 'F' then some (c.toNat - 'A'.toNat + 10)
  else none

/-- The number whose digits in base `base` follow those of `n`. -/
def numeralFrom? (base : Nat) : Nat → List Char → Option Nat
  | n, [] => some n
  | n, c :: rest =>
    match digitValue? c with
    | some d => if d < base then numeralFrom? base (n * base + d) rest else none
    | none => none

/-- The number that a text writes in base `base`. At least one digit is needed. -/
def numeral? (base : Nat) (text : List Char) : Option Nat :=
  if text.isEmpty then none else numeralFrom? base 0 text

/-- The integer that a text writes in base ten, perhaps after a sign. -/
def signedNumeral? : List Char → Option Int
  | '-' :: digits => (numeral? 10 digits).map fun n => -(n : Int)
  | '+' :: digits => (numeral? 10 digits).map fun n => (n : Int)
  | digits => (numeral? 10 digits).map fun n => (n : Int)

/-- The number below `bound` that a text writes in base ten, perhaps after a plus sign. -/
def boundedNumeral? (bound : Nat) (text : List Char) : Option Nat := do
  let digits := match text with
    | '+' :: rest => rest
    | _ => text
  let n ← numeral? 10 digits
  if n < bound then some n else none

end Percussion.Number
