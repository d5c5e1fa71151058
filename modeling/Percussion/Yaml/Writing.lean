import Percussion.Yaml.Token
import Percussion.Yaml.Value

/-!
# Writing scalars

A text is written in the plainest style in which it is read back as the same text: without
quotes, between single quotes, or, if it has several lines, as a literal block. Where none of
these can hold the text it is written between double quotes, which can hold every text.
-/

namespace Percussion.Yaml

/-! ## What stands in the way of a style -/

/-- Whether a character ends a line in some reading of YAML. -/
def isAnyBreak (c : Char) : Bool := isBreak c || c == '\r' || c == '\u0085'

/-- Whether a character can be written without an escape. -/
def isPrintable (c : Char) : Bool :=
  isAllowed c && c != byteOrderMark && c != '\t' && c != '\r' && c != '\u0085'

/-- Whether a character separates words. -/
def separates (c : Char) : Bool := isSpaceOrTab c || isAnyBreak c

/-- Whether somewhere in a text a character in `p` is followed by one in `q`. -/
def hasPair (p q : Char → Bool) (text : List Char) : Bool :=
  (text.zip text.tail).any fun (a, b) => p a && q b

/-- Whether a text begins or ends with a character in `p`. -/
def hasEnd (p : Char → Bool) (text : List Char) : Bool :=
  text.head?.any p || text.getLast?.any p

/-- The characters with which no plain text begins. -/
def opensOtherwise (c : Char) : Bool :=
  ['#', ',', '[', ']', '{', '}', '&', '*', '!', '|', '>', '\'', '"', '%', '@',
    Char.ofNat 0x60].contains c

/-- Whether a text could be taken for something else at its beginning: a separator of documents,
a node of another kind, or an indicator that is a word of its own. -/
def opensWithIndicator (text : List Char) : Bool :=
  text.take 3 == documentStart || text.take 3 == documentEnd ||
    match text with
    | [] => false
    | c :: rest =>
      opensOtherwise c || ((c == '?' || c == ':' || c == '-') && rest.head?.all separates)

/-- Whether a plain text would end too early, at a colon that ends a word or at a comment. -/
def holdsIndicator (text : List Char) : Bool :=
  hasPair (· == ':') separates text || text.getLast? == some ':' ||
    hasPair separates (· == '#') text

/-- Whether a text cannot be written outside of double quotes: a character needs an escape, or
spaces stand before a break, where they would be lost. -/
def needsDoubleQuotes (text : List Char) : Bool :=
  !text.all isPrintable || hasPair (· == ' ') isAnyBreak text

/-- Whether a text can be written without quotes. -/
def allowsPlain (text : List Char) : Bool :=
  !needsDoubleQuotes text && !text.any isAnyBreak && !hasEnd (· == ' ') text &&
    !opensWithIndicator text && !holdsIndicator text

/-- Whether a text can be written between single quotes. -/
def allowsSingleQuotes (text : List Char) : Bool :=
  !needsDoubleQuotes text && !hasPair isAnyBreak (· == ' ') text

/-- Whether a text can be written as a literal block. -/
def allowsLiteral (text : List Char) : Bool :=
  !needsDoubleQuotes text && text.getLast? != some ' '

/-- Whether a plain scalar with this text would be read as something other than a text, or is
better marked as one. -/
def isAmbiguous (text : List Char) : Bool :=
  Value.isPadded text || Value.ofPlain text != .text text

/-- The style in which a text is written. -/
def styleOf (text : List Char) : Style :=
  if text.contains '\n' then
    if allowsLiteral text then .literal else .doubleQuoted
  else if allowsPlain text && !isAmbiguous text then
    .plain
  else if allowsSingleQuotes text then
    .singleQuoted
  else
    .doubleQuoted

/-! ## The styles -/

/-- The spaces before each line of a scalar but the first. -/
def indentation : List Char := [' ', ' ']

/-- The content of single quotes. After a break the line is indented. -/
def singleQuotedFrom (afterBreak : Bool) : List Char → List Char
  | [] => if afterBreak then indentation else []
  | c :: rest =>
    if c == ' ' then
      c :: singleQuotedFrom afterBreak rest
    else if isAnyBreak c then
      c :: singleQuotedFrom true rest
    else
      (if afterBreak then indentation else []) ++ (if c == '\'' then ['\'', '\''] else [c]) ++
        singleQuotedFrom false rest

/-- The letter that stands for a character after a backslash. -/
def escapeLetter? : Char → Option Char
  | '\x00' => some '0'
  | '\x07' => some 'a'
  | '\x08' => some 'b'
  | '\t' => some 't'
  | '\n' => some 'n'
  | '\x0B' => some 'v'
  | '\x0C' => some 'f'
  | '\r' => some 'r'
  | '\x1B' => some 'e'
  | '"' => some '"'
  | '\\' => some '\\'
  | '\u0085' => some 'N'
  | '\u2028' => some 'L'
  | '\u2029' => some 'P'
  | _ => none

/-- A hexadecimal digit. -/
def hexDigit (n : Nat) : Char :=
  Char.ofNat (if n < 10 then '0'.toNat + n else 'A'.toNat + n - 10)

/-- The last `width` hexadecimal digits of a number. -/
def hexDigits : (width : Nat) → Nat → List Char
  | 0, _ => []
  | width + 1, n => hexDigits width (n / 16) ++ [hexDigit (n % 16)]

/-- A character between double quotes. -/
def doubleQuotedChar (c : Char) : List Char :=
  if isPrintable c && !isAnyBreak c && c != '"' && c != '\\' then
    [c]
  else
    match escapeLetter? c with
    | some letter => ['\\', letter]
    | none =>
      let n := c.toNat
      if n ≤ 0xFF then '\\' :: 'x' :: hexDigits 2 n
      else if n ≤ 0xFFFF then '\\' :: 'u' :: hexDigits 4 n
      else '\\' :: 'U' :: hexDigits 8 n

/-- What the header of a literal block says of its text: the indentation, if the text begins in a
way that hides it, and what becomes of the breaks at the end. -/
def literalHints (text : List Char) : List Char :=
  let indent := if text.head?.any fun c => c == ' ' || isAnyBreak c then ['2'] else []
  let chomping :=
    match text.reverse with
    | [] => ['-']
    | [last] => if isAnyBreak last then ['+'] else ['-']
    | last :: previous :: _ =>
      if !isAnyBreak last then ['-'] else if isAnyBreak previous then ['+'] else []
  indent ++ chomping

/-- The lines of a literal block; empty lines are not indented. -/
def literalFrom (afterBreak : Bool) : List Char → List Char
  | [] => []
  | c :: rest =>
    if isAnyBreak c then
      c :: literalFrom true rest
    else
      (if afterBreak then indentation else []) ++ c :: literalFrom false rest

/-- A text in a style that can hold it. -/
def writeAs (style : Style) (text : List Char) : List Char :=
  match style with
  | .plain => text
  | .singleQuoted => '\'' :: singleQuotedFrom false text ++ ['\'']
  | .literal => '|' :: literalHints text ++ '\n' :: literalFrom true text
  | _ => '"' :: text.flatMap doubleQuotedChar ++ ['"']

/-- A text as the value of a key, from the space after the colon to the end of the line. A
literal block whose text ends with a break has ended its line. -/
def writeValue (text : List Char) : List Char :=
  let style := styleOf text
  let closed := style == .literal && text.getLast?.any isAnyBreak
  ' ' :: writeAs style text ++ if closed then [] else ['\n']

end Percussion.Yaml
