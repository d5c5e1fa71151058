import Percussion.Text.LetterCase
import Percussion.Text.Unprintable

/-!
# Escaped text

A text between double quotes as it is shown in messages: on one line, with escapes for quotes,
backslashes and everything that cannot be printed.
-/

namespace Percussion.Text

/-- Whether a character is shown by its code point. -/
def isUnprintable (c : Char) : Bool :=
  c.toNat < 0x20 || c.toNat == 0x7F || inRanges unprintableRanges c.toNat

/-- A character as it is shown between double quotes. -/
def escapedChar : Char → List Char
  | '"' => ['\\', '"']
  | '\\' => ['\\', '\\']
  | '\n' => ['\\', 'n']
  | '\r' => ['\\', 'r']
  | '\t' => ['\\', 't']
  | '\x00' => ['\\', '0']
  | c =>
    if isUnprintable c then
      "\\u\x7b".toList ++ Nat.toDigits 16 c.toNat ++ "\x7d".toList
    else
      [c]

/-- A text as it is shown in messages. -/
def escaped (text : List Char) : String :=
  "\"" ++ String.ofList (text.flatMap escapedChar) ++ "\""

end Percussion.Text
