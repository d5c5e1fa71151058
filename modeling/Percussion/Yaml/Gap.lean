import Percussion.Yaml.Source

/-!
# Gaps between words

Plain and quoted scalars may run over several lines. The spaces around a break do not count; a
single break is folded into a space, and of several the first is left out.
-/

namespace Percussion.Yaml

/-- What has been passed over since the last word of a scalar. -/
structure Gap where
  /-- Spaces and tabs on the line of the word, last one first. -/
  spaces : List Char := []
  /-- Whether the line has ended. -/
  broken : Bool := false
  /-- The break that ended it; none if the break was escaped. -/
  first : List Char := []
  /-- The breaks after it, last one first. -/
  later : List Char := []
  deriving Repr, DecidableEq

namespace Gap

/-- The gap inside a word. -/
def none : Gap := {}

/-- The gap after an escaped break. -/
def escaped : Gap := { broken := true }

/-- Whether nothing has been passed over. -/
def isNone (gap : Gap) : Bool := gap.spaces.isEmpty && !gap.broken

/-- The gap with one more space or tab. -/
def addSpace (gap : Gap) (c : Char) : Gap :=
  if gap.broken then gap else { gap with spaces := c :: gap.spaces }

/-- The gap with one more break. -/
def addBreak (gap : Gap) (c : Char) : Gap :=
  if gap.broken then
    { gap with later := c :: gap.later }
  else
    { broken := true, first := [c] }

/-- What stands in the text for the gap, last character first. -/
def folded (gap : Gap) : List Char :=
  if gap.broken then
    if gap.first = ['\n'] then
      if gap.later.isEmpty then [' '] else gap.later
    else
      gap.later ++ gap.first
  else
    gap.spaces

end Gap

end Percussion.Yaml
