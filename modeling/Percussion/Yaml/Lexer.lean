import Percussion.Yaml.Token

/-!
# Reading tokens

Indentation opens and closes block collections, and a scalar turns out to be a key only when a
colon follows it on its line. Until then the tokens from the scalar on wait in a queue, since a
key token, and perhaps the start of a mapping, go in front of them. A text that is malformed
gives the tokens that have left the queue before the fault is met.
-/

namespace Percussion.Yaml

/-- A place at which a key may turn out to begin. -/
structure PendingKey where
  /-- The number of tokens before it. -/
  index : Nat
  /-- Whether nothing but a key can stand there, because a mapping has its keys at this column. -/
  required : Bool
  mark : Mark
  deriving Repr, DecidableEq

/-- How far a text has been read. -/
structure Lexer where
  cursor : Cursor
  /-- The columns of the open block collections, innermost first. -/
  indents : List Nat := []
  /-- Whether a key may begin here. -/
  keyAllowed : Bool := true
  /-- The place at which a key may have begun, outside all brackets or inside the innermost. -/
  pending : Option PendingKey := none
  /-- The same for each level of brackets around, innermost first. -/
  outer : List (Option PendingKey) := []
  /-- The tokens that wait, first one first. -/
  queue : List (Located Token) := []
  /-- The tokens that no longer wait, last one first. -/
  done : List (Located Token) := []
  /-- How many they are. -/
  doneCount : Nat := 0
  /-- Whether the end of the text has been reached. -/
  ended : Bool := false

namespace Lexer

/-- The state before the first character. -/
def ofText (text : List Char) : Lexer := { cursor := ⟨text, Mark.start⟩ }

/-- Whether the cursor is between brackets. -/
def inFlow (lx : Lexer) : Bool := !lx.outer.isEmpty

/-- Adds a token that begins at `mark`. -/
def push (lx : Lexer) (token : Token) (mark : Mark) : Lexer :=
  { lx with queue := lx.queue ++ [⟨token, mark⟩] }

/-- Adds an indicator of `length` characters and passes over it. -/
def pushIndicator (lx : Lexer) (token : Token) (length : Nat) : Lexer :=
  { lx.push token lx.cursor.mark with cursor := lx.cursor.skip length }

/-! ## Spaces and comments -/

/-- Passes over spaces, comments and breaks up to the next token, and over a byte order mark with
which a line begins. Tabs count as spaces between brackets and where no key may begin; outside of
brackets a key may begin after a break. The result is where the token begins and whether a key
may. -/
def skipFrom (inFlow : Bool) : List Char → Mark → Bool → Bool → Cursor × Bool
  | [], mark, keyAllowed, _ => (⟨[], mark⟩, keyAllowed)
  | c :: rest, mark, keyAllowed, inComment =>
    if isBreak c then
      skipFrom inFlow rest (mark.after c) (keyAllowed || !inFlow) false
    else if inComment || c == ' ' || (c == '\t' && (inFlow || !keyAllowed)) ||
        (c == byteOrderMark && mark.column == 0) then
      skipFrom inFlow rest (mark.after c) keyAllowed inComment
    else if c == '#' then
      skipFrom inFlow rest (mark.after c) keyAllowed true
    else
      (⟨c :: rest, mark⟩, keyAllowed)

/-- The state at the next token. -/
def skipToToken (lx : Lexer) : Lexer :=
  let (cursor, keyAllowed) :=
    skipFrom lx.inFlow lx.cursor.rest lx.cursor.mark lx.keyAllowed false
  { lx with cursor, keyAllowed }

/-! ## Pending keys -/

/-- The longest key, in octets, that is recognised without an indicator of its own. -/
def maxKeyLength : Nat := 1024

/-- Whether a key that began at `key` can no longer end at `mark`. -/
def isStale (key mark : Mark) : Bool :=
  key.line < mark.line || key.octets + maxKeyLength < mark.octets

/-- Gives up a pending key that is stale. One that was required is a fault. -/
def expire (mark : Mark) : Option PendingKey → Option (Option PendingKey)
  | none => some none
  | some key =>
    if isStale key.mark mark then
      if key.required then none else some none
    else
      some (some key)

/-- Gives up all pending keys that are stale. -/
def expireKeys (lx : Lexer) : Option Lexer := do
  let pending ← expire lx.cursor.mark lx.pending
  let outer ← lx.outer.mapM (expire lx.cursor.mark)
  return { lx with pending, outer }

/-- Gives up the innermost pending key. One that was required is a fault. -/
def dropKey (lx : Lexer) : Option Lexer :=
  if lx.pending.any (·.required) then none else some { lx with pending := none }

/-- Notes that a key may begin at the cursor, if one is allowed there. -/
def noteKey (lx : Lexer) : Option Lexer :=
  if lx.keyAllowed then do
    let lx ← lx.dropKey
    let key : PendingKey := {
      index := lx.doneCount + lx.queue.length
      required := !lx.inFlow && lx.indents.head? == some lx.cursor.mark.column
      mark := lx.cursor.mark }
    return { lx with pending := some key }
  else
    some lx

/-! ## Indentation -/

/-- Closes the block collections that are indented more than `column`, or all of them. Between
brackets indentation does not count. -/
def unroll (lx : Lexer) (column : Option Nat) : Lexer :=
  if lx.inFlow then
    lx
  else
    let closed := lx.indents.takeWhile fun indent => column.all (· < indent)
    { lx with
      indents := lx.indents.drop closed.length
      queue := lx.queue ++ closed.map fun _ => ⟨Token.blockEnd, lx.cursor.mark⟩ }

/-- Whether a block collection at `column` would be indented more than the innermost open one. -/
def opens (lx : Lexer) (column : Nat) : Bool :=
  !lx.inFlow && lx.indents.head?.all (· < column)

/-- Opens a block collection at the cursor if it is indented more than the innermost one. -/
def roll (lx : Lexer) (token : Token) : Lexer :=
  let mark := lx.cursor.mark
  if lx.opens mark.column then
    { lx.push token mark with indents := mark.column :: lx.indents }
  else
    lx

/-! ## Tokens -/

/-- The end of the text, which counts as the beginning of a line. -/
def fetchEnd (lx : Lexer) : Option Lexer := do
  let mark := lx.cursor.mark
  let mark : Mark := if mark.column = 0 then mark else mark.nextLine
  let lx := { lx with cursor := ⟨[], mark⟩ }
  let lx ← (lx.unroll none).dropKey
  return { lx.push .streamEnd mark with keyAllowed := false, ended := true }

/-- A directive. -/
def fetchDirective (lx : Lexer) : Option Lexer := do
  let lx ← (lx.unroll none).dropKey
  let (directive, cursor) ← Token.directive? lx.cursor
  return { lx.push directive lx.cursor.mark with cursor, keyAllowed := false }

/-- An indicator that separates documents. -/
def fetchDocumentIndicator (lx : Lexer) (token : Token) : Option Lexer := do
  let lx ← (lx.unroll none).dropKey
  return { lx.pushIndicator token 3 with keyAllowed := false }

/-- An opening bracket. -/
def fetchFlowStart (lx : Lexer) (token : Token) : Option Lexer := do
  let lx ← lx.noteKey
  let lx := { lx with outer := lx.pending :: lx.outer, pending := none, keyAllowed := true }
  return lx.pushIndicator token 1

/-- A closing bracket. -/
def fetchFlowEnd (lx : Lexer) (token : Token) : Option Lexer := do
  let lx ← lx.dropKey
  let lx :=
    match lx.outer with
    | pending :: outer => { lx with pending, outer }
    | [] => lx
  return { lx.pushIndicator token 1 with keyAllowed := false }

/-- A comma between brackets. -/
def fetchFlowEntry (lx : Lexer) : Option Lexer := do
  let lx ← lx.dropKey
  return { lx.pushIndicator .flowEntry 1 with keyAllowed := true }

/-- The dash of an entry of a sequence. -/
def fetchBlockEntry (lx : Lexer) : Option Lexer := do
  if !lx.inFlow && !lx.keyAllowed then
    none
  else
    let lx ← (lx.roll .blockSequenceStart).dropKey
    return { lx.pushIndicator .blockEntry 1 with keyAllowed := true }

/-- The question mark of a key. -/
def fetchKey (lx : Lexer) : Option Lexer := do
  if !lx.inFlow && !lx.keyAllowed then
    none
  else
    let lx ← (lx.roll .blockMappingStart).dropKey
    return { lx.pushIndicator .key 1 with keyAllowed := !lx.inFlow }

/-- The colon of a value. If a key is pending it is one, and its token goes in front of it,
together with the start of a mapping if the key opens one. -/
def fetchValue (lx : Lexer) : Option Lexer :=
  match lx.pending with
  | some key =>
    let opening := lx.opens key.mark.column
    let inserted : List (Located Token) :=
      (if opening then [⟨.blockMappingStart, key.mark⟩] else []) ++ [⟨.key, key.mark⟩]
    let place := key.index - lx.doneCount
    let lx := { lx with
      pending := none
      keyAllowed := false
      indents := if opening then key.mark.column :: lx.indents else lx.indents
      queue := lx.queue.take place ++ inserted ++ lx.queue.drop place }
    some (lx.pushIndicator .value 1)
  | none =>
    if !lx.inFlow && !lx.keyAllowed then
      none
    else
      let lx := lx.roll .blockMappingStart
      some { lx.pushIndicator .value 1 with keyAllowed := !lx.inFlow }

/-- A token that may be part of a key, read by `read?`. -/
def fetchNode (lx : Lexer) (read? : Cursor → Option (Token × Cursor)) : Option Lexer := do
  let lx ← lx.noteKey
  let (token, cursor) ← read? lx.cursor
  return { lx.push token lx.cursor.mark with cursor, keyAllowed := false }

/-- A plain scalar. If its line has ended, a key may follow. -/
def fetchPlain (lx : Lexer) : Option Lexer := do
  let lx ← lx.noteKey
  let margin := lx.indents.head?.elim 0 (· + 1)
  let (text, cursor, broken) ← Plain.read? lx.inFlow margin lx.cursor
  return { lx.push (.scalar .plain text) lx.cursor.mark with cursor, keyAllowed := broken }

/-- A block scalar; its last line has ended, so that a key may follow. -/
def fetchBlock (lx : Lexer) (style : Style) : Option Lexer := do
  let lx ← lx.dropKey
  let (text, cursor) ← Block.read? (style == .folded) lx.indents.head? lx.cursor
  return { lx.push (.scalar style text) lx.cursor.mark with cursor, keyAllowed := true }

/-- The characters with which no plain scalar begins. -/
def isIndicator (c : Char) : Bool :=
  ['-', '?', ':', ',', '[', ']', '{', '}', '#', '&', '*', '!', '|', '>', '\'', '"', '%', '@',
    Char.ofNat 0x60].contains c

/-- Whether a plain scalar begins with `c` and the text `rest`: not with an indicator, unless it
is one that needs a word to end after it. -/
def beginsPlain (inFlow : Bool) (c : Char) (rest : List Char) : Bool :=
  (!isSpaceOrTab c && !isIndicator c) || (c == '-' && !rest.head?.any isSpaceOrTab) ||
    (!inFlow && (c == '?' || c == ':') && !endsWord rest)

/-- Reads the token at the cursor. -/
def fetch (lx : Lexer) : Option Lexer :=
  let mark := lx.cursor.mark
  match lx.cursor.rest with
  | [] => lx.fetchEnd
  | c :: rest =>
    if mark.column == 0 && c == '%' then lx.fetchDirective
    else if atIndicator Yaml.documentStart mark (c :: rest) then
      lx.fetchDocumentIndicator .documentStart
    else if atIndicator Yaml.documentEnd mark (c :: rest) then
      lx.fetchDocumentIndicator .documentEnd
    else if c == '[' then lx.fetchFlowStart .flowSequenceStart
    else if c == '{' then lx.fetchFlowStart .flowMappingStart
    else if c == ']' then lx.fetchFlowEnd .flowSequenceEnd
    else if c == '}' then lx.fetchFlowEnd .flowMappingEnd
    else if c == ',' then lx.fetchFlowEntry
    else if c == '-' && endsWord rest then lx.fetchBlockEntry
    else if c == '?' && (lx.inFlow || endsWord rest) then lx.fetchKey
    else if c == ':' && (lx.inFlow || endsWord rest) then lx.fetchValue
    else if c == '*' then
      lx.fetchNode fun cur => (Token.anchorName? cur).map fun (name, cur) => (.alias name, cur)
    else if c == '&' then
      lx.fetchNode fun cur => (Token.anchorName? cur).map fun (name, cur) => (.anchor name, cur)
    else if c == '!' then lx.fetchNode (Token.tag? lx.inFlow)
    else if c == '|' && !lx.inFlow then lx.fetchBlock .literal
    else if c == '>' && !lx.inFlow then lx.fetchBlock .folded
    else if c == '\'' then
      lx.fetchNode fun cur =>
        (Quoted.single? cur).map fun (text, cur) => (.scalar .singleQuoted text, cur)
    else if c == '"' then
      lx.fetchNode fun cur =>
        (Quoted.double? cur).map fun (text, cur) => (.scalar .doubleQuoted text, cur)
    else if beginsPlain lx.inFlow c rest then lx.fetchPlain
    else none

/-- Lets the tokens go that no pending key can get in front of. -/
def release (lx : Lexer) : Lexer :=
  let places := (lx.pending :: lx.outer).filterMap fun key => key.map (·.index - lx.doneCount)
  let count := places.foldl min lx.queue.length
  { lx with
    queue := lx.queue.drop count
    done := (lx.queue.take count).reverse ++ lx.done
    doneCount := lx.doneCount + count }

/-- Reads one more token. -/
def step (lx : Lexer) : Option Lexer := do
  let lx ← lx.skipToToken.expireKeys
  let lx ← (lx.unroll (some lx.cursor.mark.column)).fetch
  let lx ← lx.expireKeys
  return lx.release

/-- Reads at most `count` more tokens, and no further than the end or a fault. -/
def run : (count : Nat) → Lexer → Lexer
  | 0, lx => lx
  | count + 1, lx =>
    match lx.step with
    | none => lx
    | some next => if next.ended then next else run count next

end Lexer

/-- The tokens of a text, up to the first fault. Each token but the last takes at least one
character. -/
def Token.ofText (text : List Char) : List (Located Token) :=
  ((Lexer.ofText text).run (text.length + 1)).done.reverse

end Percussion.Yaml
