import Percussion.Number.Numeral
import Percussion.Number.Text
import Percussion.Text.Escaped

/-!
# Values

What a plain scalar stands for: nothing, a truth value, a number, or its own text. A numeral that
begins with a superfluous zero is a text.
-/

namespace Percussion.Yaml

open Number

/-- What a scalar stands for. -/
inductive Value where
  | null
  | bool (value : Bool)
  | integer (value : Int)
  | float (negative : Bool) (magnitude : Binary64)
  | infinity (negative : Bool)
  | notANumber
  | text (value : List Char)
  deriving Repr, DecidableEq

namespace Value

/-- Whether a text is a numeral, perhaps with a sign, that begins with a superfluous zero. -/
def isPadded (text : List Char) : Bool :=
  let digits := match text with
    | '+' :: rest => rest
    | '-' :: rest => rest
    | _ => text
  match digits with
  | '0' :: c :: rest => (c :: rest).all Char.isDigit
  | _ => false

/-- The number that digits after a base mark write: hexadecimal, octal or binary. -/
def marked? : List Char → Option Nat
  | '0' :: 'x' :: digits => numeral? 16 digits
  | '0' :: 'o' :: digits => numeral? 8 digits
  | '0' :: 'b' :: digits => numeral? 2 digits
  | _ => none

/-- The number below `bound` that a text writes without a minus sign. -/
def unsigned? (bound : Nat) (text : List Char) : Option Nat :=
  let digits := match text with
    | '+' :: rest => rest
    | _ => text
  match marked? digits with
  | some n => if n < bound then some n else none
  | none =>
    if isPadded text then
      none
    else
      match numeral? 10 digits with
      | some n => if n < bound then some n else none
      | none => none

/-- The magnitude, up to `bound`, of the number that a text writes with a minus sign. -/
def negated? (bound : Nat) : List Char → Option Nat
  | '-' :: digits =>
    match marked? digits with
    | some n => if n ≤ bound then some n else none
    | none =>
      if isPadded ('-' :: digits) then
        none
      else
        match numeral? 10 digits with
        | some n => if n ≤ bound then some n else none
        | none => none
  | _ => none

/-- The integer of at most 128 bits that a text writes. -/
def integer? (text : List Char) : Option Int :=
  match unsigned? 0x100000000000000000000000000000000 text with
  | some n => some n
  | none => (negated? 0x80000000000000000000000000000000 text).map fun n => -(n : Int)

/-- The exponent that a text gives, with the letter in front; no text gives 0. -/
def exponent? : List Char → Option Int
  | [] => some 0
  | mark :: rest =>
    if mark = 'e' ∨ mark = 'E' then
      match rest with
      | '-' :: digits => (numeral? 10 digits).map fun n => -(n : Int)
      | '+' :: digits => (numeral? 10 digits).map fun n => (n : Int)
      | digits => (numeral? 10 digits).map fun n => (n : Int)
    else
      none

/-- The finite number that a text without a sign writes with digits, a point and an exponent, of
which not all digits may be missing. -/
def decimal? (text : List Char) : Option Binary64 := do
  let whole := text.takeWhile Char.isDigit
  let rest := text.dropWhile Char.isDigit
  let (fraction, rest) := match rest with
    | '.' :: rest => (rest.takeWhile Char.isDigit, rest.dropWhile Char.isDigit)
    | _ => ([], rest)
  let digits ← numeral? 10 (whole ++ fraction)
  let exponent ← exponent? rest
  Binary64.ofDecimal? digits (exponent - fraction.length)

/-- The number, perhaps not a finite one, that a text writes with a point or an exponent. -/
def float? (text : List Char) : Option Value :=
  let unsigned (t : List Char) : Option Value :=
    if [".inf", ".Inf", ".INF"].any (·.toList == t) then some (.infinity false)
    else (decimal? t).map (.float false)
  match text with
  | '+' :: rest => unsigned rest
  | '-' :: rest =>
    if [".inf", ".Inf", ".INF"].any (·.toList == rest) then some (.infinity true)
    else (decimal? rest).map (.float true)
  | _ =>
    if [".nan", ".NaN", ".NAN"].any (·.toList == text) then some .notANumber
    else unsigned text

/-- Whether a text stands for nothing. -/
def isNull (text : List Char) : Bool :=
  ["null", "Null", "NULL", "~"].any (·.toList == text)

/-- The truth value that a text names. -/
def bool? (text : List Char) : Option Bool :=
  if ["true", "True", "TRUE"].any (·.toList == text) then some true
  else if ["false", "False", "FALSE"].any (·.toList == text) then some false
  else none

/-- What a plain scalar with the given text stands for. -/
def ofPlain (text : List Char) : Value :=
  if text.isEmpty || isNull text then
    .null
  else
    match bool? text, integer? text with
    | some b, _ => .bool b
    | none, some n => .integer n
    | none, none =>
      if isPadded text then .text text else (float? text).getD (.text text)

/-- What messages say of a value. Integers of more than 64 bits are named with their size. -/
def describe : Value → String
  | null => "unit value"
  | bool b => s!"boolean `{b}`"
  | integer n =>
    if 0x10000000000000000 ≤ n then s!"integer `{n}` as u128"
    else if n < -0x8000000000000000 then s!"integer `{n}` as i128"
    else s!"integer `{n}`"
  | float negative magnitude =>
    "floating point `" ++ (if negative then "-" else "") ++ magnitude.text ++ "`"
  | infinity negative => "floating point `" ++ (if negative then "-" else "") ++ "inf`"
  | notANumber => "floating point `NaN`"
  | text value => "string " ++ Text.escaped value

end Value

end Percussion.Yaml
