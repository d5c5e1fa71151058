/-!
# YAML sources

A YAML text as it is read: which characters may occur, how line breaks are unified, and positions
in it. After unification a break is a line feed, a line separator or a paragraph separator.
-/

namespace Percussion.Yaml

/-- Whether a character may occur in a YAML text: tabs, breaks, byte order marks, and what can be
printed. -/
def isAllowed (c : Char) : Bool :=
  let n := c.toNat
  n == 0x9 || n == 0xA || n == 0xD || (0x20 ≤ n && n ≤ 0x7E) || n == 0x85 ||
    (0xA0 ≤ n && n ≤ 0xFFFD) || 0x10000 ≤ n

/-- The byte order mark. It is an ordinary character, but a line may begin with one that stands
for nothing. -/
def byteOrderMark : Char := '\uFEFF'

/-- Writes the breaks that stand for nothing but the end of a line as line feeds: a carriage
return, with or without a line feed after it, and the next-line character. -/
def unifyBreaks : List Char → List Char
  | [] => []
  | '\r' :: '\n' :: rest => '\n' :: unifyBreaks rest
  | c :: rest => (if c = '\r' ∨ c = '\u0085' then '\n' else c) :: unifyBreaks rest

/-- The characters of a text as they are read. There are none to be read if one of them may not
occur. -/
def source? (text : List Char) : Option (List Char) :=
  if text.all isAllowed then some (unifyBreaks text) else none

/-- Whether a character is a space or a tab. -/
def isSpaceOrTab (c : Char) : Bool := c == ' ' || c == '\t'

/-- Whether a character ends a line. -/
def isBreak (c : Char) : Bool := c == '\n' || c == '\u2028' || c == '\u2029'

/-- The characters of which anchors, handles and the names of directives are made. -/
def isNameChar (c : Char) : Bool := c.isAlphanum || c == '_' || c == '-'

/-- Whether a word cannot go on here: at a space, a tab, a break or the end. -/
def endsWord : List Char → Bool
  | [] => true
  | c :: _ => isSpaceOrTab c || isBreak c

/-- A position in a text; lines and columns count from 0. -/
structure Mark where
  line : Nat
  /-- How many characters of the line stand before it. -/
  column : Nat
  /-- How many octets these characters take. -/
  octets : Nat
  deriving Repr, DecidableEq

namespace Mark

/-- The beginning of a text. -/
def start : Mark := ⟨0, 0, 0⟩

/-- The beginning of the next line. -/
def nextLine (m : Mark) : Mark := ⟨m.line + 1, 0, 0⟩

/-- The position after `n` characters of one octet that do not end the line. -/
def right (m : Mark) (n : Nat) : Mark := ⟨m.line, m.column + n, m.octets + n⟩

/-- The position after the character `c`. -/
def after (m : Mark) (c : Char) : Mark :=
  if isBreak c then m.nextLine else ⟨m.line, m.column + 1, m.octets + c.utf8Size⟩

/-- The position after some characters. -/
def afterAll (m : Mark) (cs : List Char) : Mark := cs.foldl after m

end Mark

/-- What is left of a text, and where it begins. -/
structure Cursor where
  rest : List Char
  mark : Mark
  deriving Repr, DecidableEq

namespace Cursor

/-- Passes over `n` characters. -/
def skip (cur : Cursor) (n : Nat) : Cursor :=
  ⟨cur.rest.drop n, cur.mark.afterAll (cur.rest.take n)⟩

/-- The longest run of characters in the class `p`, and the cursor after it. -/
def span (p : Char → Bool) (cur : Cursor) : List Char × Cursor :=
  let run := cur.rest.takeWhile p
  (run, ⟨cur.rest.dropWhile p, cur.mark.afterAll run⟩)

/-- The cursor after the spaces and tabs that follow. -/
def skipSpaces (cur : Cursor) : Cursor := (cur.span isSpaceOrTab).2

/-- The cursor before the break that ends the line. -/
def skipLine (cur : Cursor) : Cursor := (cur.span (!isBreak ·)).2

/-- The cursor after the break that follows, if one does. -/
def skipBreak (cur : Cursor) : Cursor :=
  match cur.rest with
  | c :: rest => if isBreak c then ⟨rest, cur.mark.after c⟩ else cur
  | [] => cur

end Cursor

/-- Whether a line begins here with the three characters `indicator` as a word of their own. -/
def atIndicator (indicator : List Char) (mark : Mark) (rest : List Char) : Bool :=
  mark.column == 0 && rest.take 3 == indicator && endsWord (rest.drop 3)

/-- The indicator with which a document begins. -/
def documentStart : List Char := ['-', '-', '-']

/-- The indicator with which a document ends. -/
def documentEnd : List Char := ['.', '.', '.']

/-- Whether a line begins here with one of the indicators that separate documents. -/
def atDocumentIndicator (mark : Mark) (rest : List Char) : Bool :=
  atIndicator documentStart mark rest || atIndicator documentEnd mark rest

end Percussion.Yaml
