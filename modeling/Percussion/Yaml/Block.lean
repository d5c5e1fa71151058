import Percussion.Yaml.Source

/-!
# Block scalars

A block scalar is a header and the indented lines under it. A literal one keeps its line breaks
and a folded one joins lines by spaces; the header says what becomes of the breaks at the end and
may give the indentation, which is otherwise that of the first line that is not empty.
-/

namespace Percussion.Yaml.Block

/-- What becomes of the breaks at the end of a block. -/
inductive Chomping where
  /-- All are dropped. -/
  | strip
  /-- One is kept. -/
  | clip
  /-- All are kept. -/
  | keep
  deriving Repr, DecidableEq

/-- What the header of a block says: its chomping, and by how many columns it is indented. -/
structure Header where
  chomping : Chomping
  increment : Option Nat
  deriving Repr, DecidableEq

/-- The chomping that a character asks for. -/
def chomping? : Char → Option Chomping
  | '+' => some .keep
  | '-' => some .strip
  | _ => none

/-- The value of a decimal digit. -/
def digit? (c : Char) : Option Nat :=
  if c.isDigit then some (c.toNat - '0'.toNat) else none

/-- Reads the part of a header after the first character, up to the end of the line. The chomping
and the indentation may come in either order; an indentation of 0 is refused. -/
def header? (cur : Cursor) : Option (Header × Cursor) := do
  let first := cur.rest.head?
  let (chomping, increment, length) :=
    match first.bind chomping?, first.bind digit? with
    | some chomping, _ =>
      match cur.rest[1]?.bind digit? with
      | some n => (chomping, some n, 2)
      | none => (chomping, none, 1)
    | none, some n =>
      match cur.rest[1]?.bind chomping? with
      | some chomping => (chomping, some n, 2)
      | none => (Chomping.clip, some n, 1)
    | none, none => (Chomping.clip, none, 0)
  if increment = some 0 then
    none
  else
    let cur := (cur.skip length).skipSpaces
    let cur := if cur.rest.head? = some '#' then cur.skipLine else cur
    if cur.rest.isEmpty || cur.rest.head?.any isBreak then
      some (⟨chomping, increment⟩, cur.skipBreak)
    else
      none

/-- How far a block has been read. -/
structure Progress where
  /-- The column at which its lines begin, once that is known. -/
  indent : Option Nat
  /-- The deepest column that an empty line has reached. -/
  deepest : Nat := 0
  /-- Whether a line of the text has begun and not ended. -/
  inLine : Bool := false
  /-- The text so far, last character first. -/
  text : List Char := []
  /-- The break that ended the last line. -/
  lineBreak : List Char := []
  /-- The breaks of the empty lines after it, last one first. -/
  emptyLines : List Char := []
  /-- Whether the last line began with a space or a tab. -/
  moreIndented : Bool := false
  deriving Repr, DecidableEq

namespace Progress

/-- The text when a line begins that has `c` as its first character. Of the break before it, a
folded block keeps a space if no empty lines follow, unless one of the two lines is indented
more. -/
def joined (folded : Bool) (progress : Progress) (c : Char) : List Char :=
  if folded && progress.lineBreak == ['\n'] && !progress.moreIndented && !isSpaceOrTab c then
    if progress.emptyLines.isEmpty then
      ' ' :: progress.text
    else
      progress.emptyLines ++ progress.text
  else
    progress.emptyLines ++ progress.lineBreak ++ progress.text

/-- The text of the whole block. -/
def finish (progress : Progress) (chomping : Chomping) : List Char :=
  let text :=
    match chomping with
    | .strip => progress.text
    | .clip => progress.lineBreak ++ progress.text
    | .keep => progress.emptyLines ++ progress.lineBreak ++ progress.text
  text.reverse

end Progress

/-- Reads the lines of a block. Its indentation, if it is not known, is at least `floor`. -/
def readFrom (folded : Bool) (floor : Nat) :
    List Char → Mark → Progress → Option (Progress × Cursor)
  | [], mark, progress => some (progress, ⟨[], mark⟩)
  | c :: rest, mark, progress =>
    if progress.inLine then
      if isBreak c then
        readFrom folded floor rest (mark.after c)
          { progress with inLine := false, lineBreak := [c] }
      else
        readFrom folded floor rest (mark.after c) { progress with text := c :: progress.text }
    else
      let inMargin := progress.indent.all (mark.column < ·)
      if c == ' ' && inMargin then
        readFrom folded floor rest (mark.after c)
          { progress with deepest := max progress.deepest (mark.column + 1) }
      else if c == '\t' && inMargin then
        none
      else if isBreak c then
        readFrom folded floor rest (mark.after c)
          { progress with emptyLines := c :: progress.emptyLines }
      else
        let indent := progress.indent.getD (max progress.deepest floor)
        if mark.column = indent then
          readFrom folded floor rest (mark.after c) {
            indent := some indent
            inLine := true
            text := c :: progress.joined folded c
            moreIndented := isSpaceOrTab c }
        else
          some (progress, ⟨c :: rest, mark⟩)

/-- Reads a block scalar, from its first character on. `parent` is the column of the collection
that it is part of, if there is one. -/
def read? (folded : Bool) (parent : Option Nat) (cur : Cursor) :
    Option (List Char × Cursor) := do
  let (header, cur) ← header? (cur.skip 1)
  let indent := header.increment.map (parent.getD 0 + ·)
  let floor := max (parent.elim 0 (· + 1)) 1
  let (progress, cur) ← readFrom folded floor cur.rest cur.mark { indent }
  return (progress.finish header.chomping, cur)

end Percussion.Yaml.Block
