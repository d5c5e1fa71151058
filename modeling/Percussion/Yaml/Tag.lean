import Percussion.Number.Numeral
import Percussion.Yaml.Source

/-!
# Tags

A tag says what kind of thing a node is. It is written with a few ASCII characters and with
octets in hexadecimal, and two tags are the same if they have the same octets; which characters
the octets stand for does not matter. A tag ends at an octet 0, even if more is written.
-/

namespace Percussion.Yaml

/-- A tag, or a part of one, as its octets. -/
abbrev Tag := List UInt8

namespace Tag

/-- The tag that is written with the given ASCII characters. -/
def ofAscii (text : List Char) : Tag := text.map fun c => UInt8.ofNat c.toNat

/-- The tag of a lone exclamation mark, which says nothing. -/
def unspecific : Tag := ofAscii ['!']

/-- What the tags of the common schema begin with. -/
def commonStart : Tag := ofAscii "tag:yaml.org,2002:".toList

/-- The tag with a name of the common schema. -/
def common (name : String) : Tag := commonStart ++ ofAscii name.toList

/-- Whether a tag begins with an exclamation mark, so that only this document knows it. -/
def isPrivate (tag : Tag) : Bool := unspecific.isPrefixOf tag

/-- The octets before the first 0. -/
def untilZero (octets : List UInt8) : Tag := octets.takeWhile (· != 0)

/-- The characters of which tags are made. A tag between angle brackets may hold some more. -/
def isTagChar (verbatim : Bool) (c : Char) : Bool :=
  isNameChar c ||
    [';', '/', '?', ':', '@', '&', '=', '+', '$', '.', '!', '~', '*', '\'', '(', ')'].contains c ||
    (verbatim && [',', '[', ']'].contains c)

/-- How many octets of a character come after one that begins it. -/
def following? (octet : Nat) : Option Nat :=
  if octet < 0x80 then some 0
  else if octet < 0xC0 then none
  else if octet < 0xE0 then some 1
  else if octet < 0xF0 then some 2
  else if octet < 0xF8 then some 3
  else none

/-- Reads octets, with those before, last one first. Any octet may be written in hexadecimal after
a percent sign; those of a character have to follow each other, and `left` says how many of them
are still to come. -/
def readFrom (verbatim : Bool) :
    List Char → Mark → (left : Nat) → List UInt8 → Option (List UInt8 × Cursor)
  | '%' :: a :: b :: rest, mark, left, octets => do
    let octet := (← Number.digitValue? a) * 16 + (← Number.digitValue? b)
    let left ←
      if left = 0 then following? octet
      else if octet / 64 = 2 then some (left - 1)
      else none
    readFrom verbatim rest (mark.right 3) left (UInt8.ofNat octet :: octets)
  | _, _, _ + 1, _ => none
  | [], mark, 0, octets => some (octets.reverse, ⟨[], mark⟩)
  | c :: rest, mark, 0, octets =>
    if c == '%' then
      none
    else if isTagChar verbatim c then
      readFrom verbatim rest (mark.right 1) 0 (UInt8.ofNat c.toNat :: octets)
    else
      some (octets.reverse, ⟨c :: rest, mark⟩)

/-- Reads the octets of a tag after those of the characters `before`. -/
def read? (verbatim : Bool) (before : List Char) (cur : Cursor) :
    Option (List UInt8 × Cursor) :=
  readFrom verbatim cur.rest cur.mark 0 (ofAscii before).reverse

end Tag

end Percussion.Yaml
