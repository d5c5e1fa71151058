import Percussion.Yaml.Lexer

/-!
# Events

The content of a document as a walk through its nodes: scalars, aliases, and the beginnings and
ends of sequences and mappings, where a node that is left out is an empty scalar. A stack holds
what is expected after the node at hand. Of a document that is malformed the events before the
fault remain.
-/

namespace Percussion.Yaml

/-- One step of the walk through a document. -/
inductive Event where
  | alias (name : List Char)
  | scalar (anchor : Option (List Char)) (tag : Option Tag) (style : Style) (text : List Char)
  | sequenceStart (anchor : Option (List Char))
  | sequenceEnd
  | mappingStart (anchor : Option (List Char))
  | mappingEnd
  deriving Repr, DecidableEq

/-- What is expected next. -/
inductive Expected where
  /-- An entry of a block sequence, or its end. -/
  | blockEntry
  /-- An entry of a sequence whose dashes are not indented more than its parent's keys. -/
  | indentlessEntry
  /-- A key of a block mapping, or its end. -/
  | blockKey
  /-- The value after a key of a block mapping. -/
  | blockValue
  /-- An entry of a bracketed sequence, or its end. -/
  | flowEntry (first : Bool)
  /-- The key of a mapping of one entry inside a bracketed sequence. -/
  | singleKey
  /-- The value after such a key. -/
  | singleValue
  /-- The end of such a mapping. -/
  | singleEnd
  /-- A key of a bracketed mapping, or its end. -/
  | flowKey (first : Bool)
  /-- The value after a key of a bracketed mapping. -/
  | flowValue
  /-- The value after a key of a bracketed mapping that was written without an indicator and
  without a colon: there is none. -/
  | flowNoValue
  deriving Repr, DecidableEq

/-- The handles of tags, and what the tags with them begin with. -/
abbrev Handles := List (List Char × Tag)

/-- The handles that every document knows, unless it gives them another meaning. -/
def defaultHandles : Handles := [
  (['!'], Tag.unspecific),
  (['!', '!'], Tag.commonStart)]

/-- How far the tokens of a document have been understood. -/
structure Walk where
  tokens : List (Located Token)
  /-- What is expected, innermost first. -/
  expected : List Expected
  handles : Handles
  /-- The events so far, last one first. -/
  events : List (Located Event) := []

namespace Walk

/-- The token that comes next. -/
def next? (w : Walk) : Option (Located Token) := w.tokens.head?

/-- Passes over a token. -/
def skip (w : Walk) : Walk := { w with tokens := w.tokens.tail }

/-- Adds an event. -/
def emit (w : Walk) (event : Event) (mark : Mark) : Walk :=
  { w with events := ⟨event, mark⟩ :: w.events }

/-- Adds an expectation in front of the others. -/
def expect (w : Walk) (e : Expected) : Walk := { w with expected := e :: w.expected }

/-- Adds the empty scalar that stands for a node that is left out. -/
def emitEmpty (w : Walk) (mark : Mark) : Walk :=
  w.emit (.scalar none none .plain []) mark

/-! ## Nodes -/

/-- The properties of a node. -/
structure Properties where
  anchor : Option (List Char) := none
  tag : Option (List Char × Tag) := none
  /-- Where the first of them stands, if there is one. -/
  mark : Option Mark := none

/-- Takes the properties of a node: an anchor and a tag, in either order. -/
def properties (w : Walk) : Properties × Walk :=
  match w.tokens with
  | ⟨.anchor name, mark⟩ :: ⟨.tag handle suffix, _⟩ :: tokens =>
    (⟨some name, some (handle, suffix), some mark⟩, { w with tokens })
  | ⟨.tag handle suffix, mark⟩ :: ⟨.anchor name, _⟩ :: tokens =>
    (⟨some name, some (handle, suffix), some mark⟩, { w with tokens })
  | ⟨.anchor name, mark⟩ :: tokens => (⟨some name, none, some mark⟩, { w with tokens })
  | ⟨.tag handle suffix, mark⟩ :: tokens =>
    (⟨none, some (handle, suffix), some mark⟩, { w with tokens })
  | _ => ({}, w)

/-- The tag that a handle and a suffix stand for. A handle has to be known. -/
def resolveTag? (handles : Handles) : Option (List Char × Tag) → Option (Option Tag)
  | none => some none
  | some ([], suffix) => some (some suffix)
  | some (handle, suffix) => do
    let (_, start) ← handles.find? (·.1 == handle)
    return some (start ++ suffix)

/-- Takes a node. Between brackets it cannot be a block collection; `indentless` says whether
dashes may begin a sequence right here. -/
def node? (block indentless : Bool) (w : Walk) : Option Walk := do
  match ← w.next? with
  | ⟨.alias name, mark⟩ => return (w.emit (.alias name) mark).skip
  | _ =>
    let (properties, w) := w.properties
    let tag ← resolveTag? w.handles properties.tag
    let anchor := properties.anchor
    let token ← w.next?
    let mark := properties.mark.getD token.mark
    match token.item with
    | .blockEntry =>
      if indentless then
        return (w.emit (.sequenceStart anchor) mark).expect .indentlessEntry
      else
        missing anchor tag properties w
    | .scalar style text =>
      let tag := if tag = some Tag.unspecific then none else tag
      return (w.emit (.scalar anchor tag style text) mark).skip
    | .flowSequenceStart =>
      return ((w.emit (.sequenceStart anchor) mark).expect (.flowEntry true)).skip
    | .flowMappingStart =>
      return ((w.emit (.mappingStart anchor) mark).expect (.flowKey true)).skip
    | .blockSequenceStart =>
      if block then
        return ((w.emit (.sequenceStart anchor) mark).expect .blockEntry).skip
      else
        missing anchor tag properties w
    | .blockMappingStart =>
      if block then
        return ((w.emit (.mappingStart anchor) mark).expect .blockKey).skip
      else
        missing anchor tag properties w
    | _ => missing anchor tag properties w
where
  /-- A node may be left out only if it has properties. -/
  missing (anchor : Option (List Char)) (tag : Option Tag) (properties : Properties)
      (w : Walk) : Option Walk := do
    return w.emit (.scalar anchor tag .plain []) (← properties.mark)

/-! ## Collections -/

/-- Whether a token ends an entry of a block mapping. -/
def endsBlockEntry : Token → Bool
  | .key | .value | .blockEnd => true
  | _ => false

/-- Whether a token ends an entry of a bracketed mapping. -/
def endsFlowEntry : Token → Bool
  | .value | .flowEntry | .flowMappingEnd => true
  | _ => false

/-- Takes the node after the indicator at `mark`, unless the token that follows is one of
`ends`; then the node is left out. -/
def nodeUnless (ends : Token → Bool) (indentless : Bool) (mark : Mark) (w : Walk) :
    Option Walk := do
  let next ← w.next?
  if ends next.item then
    return w.emitEmpty (mark.right 1)
  else
    w.node? true indentless

/-- Takes the node of a bracketed collection, unless the token that follows is one of `ends`;
then the node is left out. -/
def flowNodeUnless (ends : Token → Bool) (w : Walk) : Option Walk := do
  let next ← w.next?
  if ends next.item then
    return w.emitEmpty next.mark
  else
    w.node? false false

/-- Understands what comes next where `e` is expected; `w` holds what is expected after it. -/
def take? (e : Expected) (w : Walk) : Option Walk := do
  let ⟨token, mark⟩ ← w.next?
  match e with
  | .blockEntry =>
    match token with
    | .blockEntry =>
      let ends (t : Token) : Bool := t == .blockEntry || t == .blockEnd
      (w.skip.expect .blockEntry).nodeUnless ends false mark
    | .blockEnd => return (w.emit .sequenceEnd mark).skip
    | _ => none
  | .indentlessEntry =>
    match token with
    | .blockEntry =>
      let ends (t : Token) : Bool := t == .blockEntry || endsBlockEntry t
      (w.skip.expect .indentlessEntry).nodeUnless ends false mark
    | _ => return w.emit .sequenceEnd mark
  | .blockKey =>
    match token with
    | .key => (w.skip.expect .blockValue).nodeUnless endsBlockEntry true mark
    | .blockEnd => return (w.emit .mappingEnd mark).skip
    | _ => none
  | .blockValue =>
    match token with
    | .value => (w.skip.expect .blockKey).nodeUnless endsBlockEntry true mark
    | _ => return (w.expect .blockKey).emitEmpty mark
  | .flowEntry first =>
    match token with
    | .flowSequenceEnd => return (w.emit .sequenceEnd mark).skip
    | _ =>
      let w ← if first then some w else if token == .flowEntry then some w.skip else none
      let ⟨token, mark⟩ ← w.next?
      match token with
      | .key =>
        return (((w.emit (.mappingStart none) mark).expect (.flowEntry false)).expect
          .singleKey).skip
      | .flowSequenceEnd => return (w.emit .sequenceEnd mark).skip
      | _ => (w.expect (.flowEntry false)).node? false false
  | .singleKey =>
    match token with
    | .value | .flowEntry | .flowSequenceEnd =>
      -- The token that shows that the key is left out is passed over with it.
      return (w.skip.expect .singleValue).emitEmpty (mark.right 1)
    | _ => (w.expect .singleValue).node? false false
  | .singleValue =>
    let ends (t : Token) : Bool := t == .flowEntry || t == .flowSequenceEnd
    match token with
    | .value => (w.skip.expect .singleEnd).flowNodeUnless ends
    | _ => return (w.expect .singleEnd).emitEmpty mark
  | .singleEnd => return w.emit .mappingEnd mark
  | .flowKey first =>
    match token with
    | .flowMappingEnd => return (w.emit .mappingEnd mark).skip
    | _ =>
      let w ← if first then some w else if token == .flowEntry then some w.skip else none
      let ⟨token, mark⟩ ← w.next?
      match token with
      | .key => (w.skip.expect .flowValue).flowNodeUnless endsFlowEntry
      | .flowMappingEnd => return (w.emit .mappingEnd mark).skip
      | _ => (w.expect .flowNoValue).node? false false
  | .flowValue =>
    let ends (t : Token) : Bool := t == .flowEntry || t == .flowMappingEnd
    match token with
    | .value => (w.skip.expect (.flowKey false)).flowNodeUnless ends
    | _ => return (w.expect (.flowKey false)).emitEmpty mark
  | .flowNoValue => return (w.expect (.flowKey false)).emitEmpty mark

/-- Goes on until nothing more is expected, for at most `count` steps. The result says whether
the document has been understood to its end. -/
def run : (count : Nat) → Walk → Bool × Walk
  | 0, w => (false, w)
  | count + 1, w =>
    match w.expected with
    | [] => (true, w)
    | e :: expected =>
      match take? e { w with expected } with
      | none => (false, w)
      | some w => run count w

end Walk

end Percussion.Yaml
