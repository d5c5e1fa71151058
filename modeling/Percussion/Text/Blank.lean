/-!
# Blanks, words and lines

A text is cut into lines at line feeds and a line into words at blanks. The blanks are the
characters with the Unicode property `White_Space`, so a carriage return beside a line feed
needs no rule of its own: it is a blank at the end of its line.
-/

namespace Percussion.Text

/-- Whether a character is white space in the sense of Unicode. The zero-width space, the
zero-width no-break space and the four information separators of ASCII are not. -/
def isBlank (c : Char) : Bool :=
  let n := c.toNat
  (0x9 ≤ n && n ≤ 0xD) || n == 0x20 || n == 0x85 || n == 0xA0 || n == 0x1680 ||
    (0x2000 ≤ n && n ≤ 0x200A) || n == 0x2028 || n == 0x2029 || n == 0x202F ||
    n == 0x205F || n == 0x3000

/-- The pieces between the characters that satisfy `cut`, empty ones included: always one more
than there are such characters. -/
def pieces (cut : Char → Bool) (text : List Char) : List (List Char) :=
  let step (c : Char) (later : List Char × List (List Char)) :=
    if cut c then ([], later.1 :: later.2) else (c :: later.1, later.2)
  let (first, rest) := text.foldr step ([], [])
  first :: rest

/-- The maximal runs of characters that are not blank, from left to right. -/
def words (line : List Char) : List (List Char) :=
  (pieces isBlank line).filter (!·.isEmpty)

/-- The lines of a text, without their line feeds. A text that ends in a line feed has an empty
last line. -/
def lines (text : List Char) : List (List Char) :=
  pieces (· == '\n') text

theorem pieces_nil (cut : Char → Bool) : pieces cut [] = [[]] := rfl

/-- A character at which the text is cut starts a new piece. -/
theorem pieces_cons_cut {cut : Char → Bool} {c : Char} (h : cut c = true) (text : List Char) :
    pieces cut (c :: text) = [] :: pieces cut text := by
  simp [pieces, h]

/-- Every other character joins the piece after it. -/
theorem pieces_cons_keep {cut : Char → Bool} {c : Char} (h : cut c = false) (text : List Char) :
    pieces cut (c :: text) =
      (c :: (pieces cut text).head (by simp [pieces])) :: (pieces cut text).tail := by
  simp [pieces, h]

end Percussion.Text
