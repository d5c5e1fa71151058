import Percussion.Yaml.Block
import Percussion.Yaml.Plain
import Percussion.Yaml.Quoted
import Percussion.Yaml.Tag

/-!
# Tokens

The tokens of a YAML text: indicators, the beginnings and ends of collections that indentation
implies, and scalars with their properties. This module reads the tokens that stand for
themselves; which of them may stand where is settled by the lexer.
-/

namespace Percussion.Yaml

/-- How a scalar is written. -/
inductive Style where
  | plain
  | singleQuoted
  | doubleQuoted
  | literal
  | folded
  deriving Repr, DecidableEq

/-- A token. -/
inductive Token where
  | streamEnd
  | versionDirective (major minor : Nat)
  | tagDirective (handle : List Char) (start : Tag)
  | documentStart
  | documentEnd
  | blockSequenceStart
  | blockMappingStart
  | blockEnd
  | flowSequenceStart
  | flowSequenceEnd
  | flowMappingStart
  | flowMappingEnd
  | blockEntry
  | flowEntry
  | key
  | value
  | alias (name : List Char)
  | anchor (name : List Char)
  | tag (handle : List Char) (suffix : Tag)
  | scalar (style : Style) (text : List Char)
  deriving Repr, DecidableEq

/-- Something and where it begins. -/
structure Located (α : Type) where
  item : α
  mark : Mark
  deriving Repr, DecidableEq

namespace Token

/-- The characters that may follow an anchor or an alias, besides those that end a word. -/
def isAfterAnchor (c : Char) : Bool :=
  ['?', ':', ',', ']', '}', '%', '@', Char.ofNat 0x60].contains c

/-- Reads the name of an anchor or an alias, after its indicator. -/
def anchorName? (cur : Cursor) : Option (List Char × Cursor) :=
  let (name, after) := (cur.skip 1).span isNameChar
  if !name.isEmpty && (endsWord after.rest || after.rest.head?.any isAfterAnchor) then
    some (name, after)
  else
    none

/-! ## Tags -/

/-- Reads the handle of a tag: an exclamation mark, a name, and another exclamation mark, where
the last two may be missing. -/
def tagHandle? (cur : Cursor) : Option (List Char × Cursor) :=
  if cur.rest.head? = some '!' then
    let (name, after) := (cur.skip 1).span isNameChar
    if after.rest.head? = some '!' then
      some ('!' :: name ++ ['!'], after.skip 1)
    else
      some ('!' :: name, after)
  else
    none

/-- Reads a tag without looking at what follows. A tag without a second exclamation mark is a
handle of one exclamation mark and the rest; a lone exclamation mark is a suffix. -/
def tagParts? (cur : Cursor) : Option (List Char × Tag × Cursor) :=
  if cur.rest[1]? = some '<' then do
    let (octets, after) ← Tag.read? true [] (cur.skip 2)
    if octets.isEmpty ∨ after.rest.head? ≠ some '>' then none
    else some ([], Tag.untilZero octets, after.skip 1)
  else do
    let (handle, after) ← tagHandle? cur
    if 1 < handle.length ∧ handle.getLast? = some '!' then
      let (octets, after) ← Tag.read? false [] after
      if octets.isEmpty then none else some (handle, Tag.untilZero octets, after)
    else
      let (octets, after) ← Tag.read? false handle.tail after
      let suffix := Tag.untilZero octets
      if suffix.isEmpty then some ([], Tag.unspecific, after) else some (['!'], suffix, after)

/-- Reads a tag. After it a word has to end; between brackets a comma may follow. -/
def tag? (inFlow : Bool) (cur : Cursor) : Option (Token × Cursor) := do
  let (handle, suffix, after) ← tagParts? cur
  if endsWord after.rest || (inFlow && after.rest.head? == some ',') then
    some (tag handle suffix, after)
  else
    none

/-! ## Directives -/

/-- Reads a number of at most nine digits. -/
def number? (cur : Cursor) : Option (Nat × Cursor) :=
  let (digits, after) := cur.span Char.isDigit
  if digits.isEmpty ∨ 9 < digits.length then
    none
  else
    some (digits.foldl (fun n c => n * 10 + (c.toNat - '0'.toNat)) 0, after)

/-- Reads the version that a directive names. -/
def version? (cur : Cursor) : Option (Token × Cursor) := do
  let (major, after) ← number? cur.skipSpaces
  if after.rest.head? = some '.' then
    let (minor, after) ← number? (after.skip 1)
    return (versionDirective major minor, after)
  else
    none

/-- Reads the handle that a directive introduces, and what the tags with it begin with. -/
def tagDirective? (cur : Cursor) : Option (Token × Cursor) := do
  let (handle, after) ← tagHandle? cur.skipSpaces
  if (handle ≠ ['!'] ∧ (handle.length < 2 ∨ handle.getLast? ≠ some '!')) ∨
      ¬after.rest.head?.any isSpaceOrTab then
    none
  else
    let (octets, after) ← Tag.read? true [] after.skipSpaces
    if octets.isEmpty || !endsWord after.rest then
      none
    else
      return (tagDirective handle (Tag.untilZero octets), after)

/-- Reads a directive, from the percent sign to the end of its line. -/
def directive? (cur : Cursor) : Option (Token × Cursor) := do
  let (name, after) := (cur.skip 1).span isNameChar
  if !endsWord after.rest then
    none
  else
    let (directive, after) ←
      if name = "YAML".toList then version? after
      else if name = "TAG".toList then tagDirective? after
      else none
    let after := after.skipSpaces
    let after := if after.rest.head? = some '#' then after.skipLine else after
    if after.rest.isEmpty || after.rest.head?.any isBreak then
      return (directive, after.skipBreak)
    else
      none

end Token

end Percussion.Yaml
