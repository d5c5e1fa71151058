import Percussion.Yaml.Gap

/-!
# Plain scalars

A scalar without quotes ends before a comment, before a colon that ends a word, at a line that is
indented too little and at a document indicator; between brackets also at a bracket or a comma.
-/

namespace Percussion.Yaml.Plain

/-- Characters that end a plain scalar between brackets. -/
def isFlowIndicator (c : Char) : Bool := [',', '[', ']', '{', '}'].contains c

/-- Characters that may not follow a colon inside a plain scalar between brackets. -/
def isRefusedAfterColon (c : Char) : Bool := [',', '?', '[', ']', '{', '}'].contains c

/-- Reads on after the gap `gap`, with the text so far, last character first. `inFlow` says
whether the scalar stands between brackets, and `margin` is the least column at which a further
line may go on. The result is the text, where it ended, and whether a line ended after it. -/
def readFrom (inFlow : Bool) (margin : Nat) :
    List Char → Mark → Gap → List Char → Option (List Char × Cursor × Bool)
  | [], mark, gap, text => some (text.reverse, ⟨[], mark⟩, gap.broken)
  | c :: rest, mark, gap, text =>
    if isSpaceOrTab c then
      if gap.broken && c == '\t' && mark.column < margin then
        none
      else
        readFrom inFlow margin rest (mark.after c) (gap.addSpace c) text
    else if isBreak c then
      readFrom inFlow margin rest (mark.after c) (gap.addBreak c) text
    else if !gap.isNone && ((!inFlow && mark.column < margin) || c == '#' ||
        atDocumentIndicator mark (c :: rest)) then
      some (text.reverse, ⟨c :: rest, mark⟩, gap.broken)
    else if inFlow && c == ':' && rest.head?.any isRefusedAfterColon then
      none
    else if (c == ':' && endsWord rest) || (inFlow && isFlowIndicator c) then
      some (text.reverse, ⟨c :: rest, mark⟩, gap.broken)
    else
      readFrom inFlow margin rest (mark.after c) Gap.none (c :: (gap.folded ++ text))

/-- Reads a plain scalar. -/
def read? (inFlow : Bool) (margin : Nat) (cur : Cursor) : Option (List Char × Cursor × Bool) :=
  readFrom inFlow margin cur.rest cur.mark Gap.none []

end Percussion.Yaml.Plain
