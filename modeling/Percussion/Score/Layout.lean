import Percussion.Score.Basic
import Percussion.Text.Blank

/-!
# Written notation

Each line of a text is a voice, its tokens separated by blanks, and the tokens of one column make
up a beat. Lines at the end without tokens do not count; all others need as many tokens as the
first. That the lines agree is settled before any token is looked up, and tokens are looked up
column by column.
-/

namespace Percussion

/-- The tokens of each line of a text, up to the last line that has any. -/
def tokenRows (text : List Char) : List (List String) :=
  let rows := (Text.lines text).map fun line => (Text.words line).map String.ofList
  (rows.reverse.dropWhile (·.isEmpty)).reverse

/-- The columns of `rows`, of which each has `width` entries. -/
def columns {α : Type} (width : Nat) (rows : List (List α)) : List (List α) :=
  rows.foldr (List.zipWith List.cons) (List.replicate width [])

/-- The first row whose length is not `width`, with its number, counted from 1. -/
def misalignedRow? {α : Type} (width : Nat) (rows : List (List α)) : Option (List α × Nat) :=
  (rows.zipIdx 1).find? fun row => row.1.length != width

/-- The score that has the given tokens in its lines. -/
def Score.ofRows (rows : List (List String)) : Except ScoreError Score :=
  match rows with
  | [] => .ok Score.empty
  | first :: _ =>
    let width := first.length
    match misalignedRow? width rows with
    | some (row, line) => .error (.misaligned width row.length line)
    | none => Score.ofColumns (columns width rows)

/-- The score that a text writes down. -/
def Score.ofText (text : String) : Except ScoreError Score :=
  Score.ofRows (tokenRows text.toList)

end Percussion
