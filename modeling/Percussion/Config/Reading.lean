import Percussion.Config.Basic
import Percussion.Yaml.Document
import Percussion.Yaml.Value

/-!
# Reading configurations

A configuration is a mapping from settings to values; a setting that is left out keeps its
default, and keys that are no settings do not matter. The mapping is looked at while it is read:
a value that does not fit comes before a fault further on in the text.
-/

namespace Percussion.Config

open Yaml

/-- Why a text is not a configuration. -/
inductive Fault where
  /-- It is not one well-formed document. -/
  | malformed
  /-- A part of it does not fit: under which key, what is wrong, and where. -/
  | unfit (path problem : String) (mark : Mark)
  deriving Repr, DecidableEq

/-- What the user is told. Keys are named where they are known, and positions, counted from 1,
unless it is the very beginning. -/
def Fault.message : Fault → String
  | malformed => "not a well-formed document"
  | unfit path problem mark =>
    (if path.isEmpty then "" else path ++ ": ") ++ problem ++
      if mark = Mark.start then "" else s!" at line {mark.line + 1} column {mark.column + 1}"

/-! ## Values -/

/-- What is wrong with a scalar that is none of what is `wanted`. A common tag may already have
promised something that its text does not keep. -/
def scalarProblem (wanted : String) (tag : Option Tag) (style : Style)
    (text : List Char) : String :=
  let unfitType (value : Value) : String :=
    s!"invalid type: {value.describe}, expected {wanted}"
  let promised (kind : String) (value : Option Value) : String :=
    match value with
    | some value => unfitType value
    | none => s!"invalid value: string {Text.escaped text}, expected {kind}"
  let untagged := if style = .plain then Value.ofPlain text else Value.text text
  match tag with
  | none => unfitType untagged
  | some tag =>
    if tag = Tag.common "bool" then
      promised "a boolean" ((Value.bool? text).map .bool)
    else if tag = Tag.common "int" then
      promised "an integer" ((Value.integer? text).map .integer)
    else if tag = Tag.common "float" then
      promised "a float" (Value.float? text)
    else if tag = Tag.common "null" then
      promised "null" (if Value.isNull text then some .null else none)
    else if tag.isPrivate then
      unfitType untagged
    else
      unfitType (.text text)

/-- What is wrong with a node that is none of what is `wanted`. -/
def problem (wanted : String) : Node → String
  | .scalar tag style text => scalarProblem wanted tag style text
  | .mappingStart => s!"invalid type: map, expected {wanted}"
  | _ => s!"invalid type: sequence, expected {wanted}"

/-- The number of 32 bits that a node gives. Only a plain scalar, or a literal one that is
tagged as an integer, gives one. -/
def readNumber (path : String) (node : Located Node) : Except Fault UInt32 :=
  let unfit (problem : String) : Except Fault UInt32 := .error (.unfit path problem node.mark)
  let wanted := "u32"
  match node.item with
  | .scalar tag style text =>
    if style = .plain ∨ (style = .literal ∧ tag = some (Tag.common "int")) then
      match Value.unsigned? 0x10000000000000000 text with
      | some n =>
        if n < 0x100000000 then .ok n.toUInt32
        else unfit s!"invalid value: integer `{n}`, expected {wanted}"
      | none => unfit (problem wanted node.item)
    else
      unfit (problem wanted node.item)
  | _ => unfit (problem wanted node.item)

/-- The text that a node gives. Every scalar gives its own text. -/
def readText (path wanted : String) (node : Located Node) : Except Fault (List Char) :=
  match node.item with
  | .scalar _ _ text => .ok text
  | _ => .error (.unfit path (problem wanted node.item) node.mark)

/-! ## Settings -/

/-- The settings that have been read so far. -/
structure Draft where
  tempo : Option UInt32 := none
  repeats : Option UInt32 := none
  sequenceName : Option String := none
  trackName : Option String := none
  instrumentName : Option String := none
  deriving Repr, DecidableEq

namespace Draft

/-- Whether a setting has been read. -/
def has (draft : Draft) : Field → Bool
  | .tempo => draft.tempo.isSome
  | .repeats => draft.repeats.isSome
  | .sequenceName => draft.sequenceName.isSome
  | .trackName => draft.trackName.isSome
  | .instrumentName => draft.instrumentName.isSome

/-- Reads the value of a setting. -/
def read (draft : Draft) (field : Field) (path : String) (value : Located Node) :
    Except Fault Draft :=
  let name : Except Fault String := (readText path "a string" value).map String.ofList
  match field with
  | .tempo => (readNumber path value).map fun n => { draft with tempo := some n }
  | .repeats => (readNumber path value).map fun n => { draft with repeats := some n }
  | .sequenceName => name.map fun s => { draft with sequenceName := some s }
  | .trackName => name.map fun s => { draft with trackName := some s }
  | .instrumentName => name.map fun s => { draft with instrumentName := some s }

/-- The configuration with the settings that have been read, and defaults for the others. -/
def finish (draft : Draft) : Config :=
  let dflt : Config := {}
  { tempo := draft.tempo.getD dflt.tempo
    repeats := draft.repeats.getD dflt.repeats
    names := {
      sequence := draft.sequenceName.getD dflt.names.sequence
      track := draft.trackName.getD dflt.names.track
      instrument := draft.instrumentName.getD dflt.names.instrument } }

end Draft

/-- What a key says: the setting, and how it is called in messages. A key that is an alias has no
name of its own. -/
def readKey (doc : Document) (key : Located Node) : Except Fault (Option Field × String) := do
  let text ← readText "" "field identifier" (doc.resolve key)
  let path := match key.item with
    | .scalar _ _ text => String.ofList text
    | _ => "?"
  return (Field.ofKey? text, path)

/-- Where in a mapping a reader is. -/
inductive Place where
  /-- Before a key or the end. -/
  | key
  /-- Before the value of a setting. -/
  | value (field : Field) (path : String)
  /-- In the value of another key, with so many collections open in it. -/
  | skipped (depth : Nat)
  deriving Repr, DecidableEq

/-- Whether a node begins a collection. -/
def beginsCollection : Node → Bool
  | .sequenceStart | .mappingStart => true
  | _ => false

/-- Whether a node ends a collection. -/
def endsCollection : Node → Bool
  | .sequenceEnd | .mappingEnd => true
  | _ => false

/-- Reads the settings from the nodes of the mapping that begins at `start`. A setting may not
come twice. -/
def readFields (doc : Document) (start : Mark) :
    List (Located Node) → Place → Draft → Except Fault Draft
  | [], _, _ => .error .malformed
  | node :: rest, .key, draft =>
    if node.item = .mappingEnd then
      .ok draft
    else do
      match ← readKey doc node with
      | (none, _) => readFields doc start rest (.skipped 0) draft
      | (some field, path) =>
        if draft.has field then
          .error (.unfit "" s!"duplicate field `{field.key}`" start)
        else
          readFields doc start rest (.value field path) draft
  | node :: rest, .value field path, draft => do
    let draft ← draft.read field path (doc.resolve node)
    readFields doc start rest .key draft
  | node :: rest, .skipped depth, draft =>
    let depth :=
      if beginsCollection node.item then depth + 1
      else if endsCollection node.item then depth - 1
      else depth
    readFields doc start rest (if depth = 0 then .key else .skipped depth) draft

/-- Reads a configuration from a document. A document that says nothing gives the defaults. -/
def ofDocument (doc : Document) : Except Fault Config := do
  let draft ←
    match doc.nodes with
    | [] => if doc.complete then .ok {} else .error .malformed
    | ⟨.mappingStart, mark⟩ :: rest => readFields doc mark rest .key {}
    | ⟨.scalar _ .plain [], _⟩ :: _ => .ok {}
    | node :: _ => .error (.unfit "" (problem "struct VpalConfig" node.item) node.mark)
  if doc.complete then .ok draft.finish else .error .malformed

/-- Reads a configuration from a text. -/
def ofText (text : String) : Except Fault Config :=
  ofDocument (Document.ofText text.toList)

end Percussion.Config
