import Percussion.Yaml.Event

/-!
# Documents

The first document of a text, as the list of its nodes, with aliases resolved to the nodes that
carry their anchors. A document that is malformed, or not the only one of its text, is marked as
incomplete; the nodes before the fault can still be looked at.
-/

namespace Percussion.Yaml

/-- One step of the walk through a document whose aliases are resolved. -/
inductive Node where
  /-- An alias for the anchor with the given number. -/
  | alias (anchor : Nat)
  | scalar (tag : Option Tag) (style : Style) (text : List Char)
  | sequenceStart
  | sequenceEnd
  | mappingStart
  | mappingEnd
  deriving Repr, DecidableEq

/-- A document, or what can be read of it. An empty text is a complete document without nodes. -/
structure Document where
  nodes : List (Located Node)
  /-- The nodes that carry the anchors, by number; of two with one number the first counts. -/
  anchored : List (Nat × Located Node)
  complete : Bool
  deriving Repr, DecidableEq

namespace Document

/-- A document of which nothing can be read. -/
def unreadable : Document := ⟨[], [], false⟩

/-- The node that an alias stands for; every other node stands for itself. -/
def resolve (doc : Document) (node : Located Node) : Located Node :=
  match node.item with
  | .alias anchor => ((doc.anchored.find? (·.1 == anchor)).map (·.2)).getD node
  | _ => node

/-! ## Directives -/

/-- Takes the directives in front of a document. At most one version may be given, which has to
be 1.1 or 1.2, and no handle twice. -/
def directives? : List (Located Token) → Bool → Handles → Option (Handles × List (Located Token))
  | ⟨.versionDirective major minor, _⟩ :: rest, versioned, handles =>
    if versioned || major != 1 || (minor != 1 && minor != 2) then none
    else directives? rest true handles
  | ⟨.tagDirective handle start, _⟩ :: rest, versioned, handles =>
    if handles.any (·.1 == handle) then none
    else directives? rest versioned (handles ++ [(handle, start)])
  | tokens, _, handles => some (handles ++ defaultHandles, tokens)

/-- Whether the content of a document is left out before a token. -/
def endsContent : Token → Bool
  | .versionDirective _ _ | .tagDirective _ _ | .documentStart | .documentEnd | .streamEnd => true
  | _ => false

/-- Whether nothing but indicators of an end is left. -/
def endsStream (tokens : List (Located Token)) : Bool :=
  match tokens.dropWhile (·.item == .documentEnd) with
  | ⟨.streamEnd, _⟩ :: _ => true
  | _ => false

/-! ## Content -/

/-- The events of the first document, and whether it is complete. Between two tokens there are
at most four steps. -/
def events (tokens : List (Located Token)) : List (Located Event) × Bool :=
  let walk (w : Option Walk) : List (Located Event) × Bool :=
    match w with
    | none => ([], false)
    | some w =>
      let (finished, w) := w.run (4 * tokens.length + 4)
      (w.events.reverse, finished && endsStream w.tokens)
  match tokens with
  | [] => ([], false)
  | ⟨first, _⟩ :: _ =>
    match first with
    | .streamEnd => ([], true)
    | .versionDirective _ _ | .tagDirective _ _ | .documentStart =>
      match directives? tokens false [] with
      | some (handles, ⟨.documentStart, _⟩ :: rest) =>
        let w : Walk := ⟨rest, [], handles, []⟩
        match rest with
        | ⟨next, mark⟩ :: _ =>
          walk (if endsContent next then some (w.emitEmpty mark) else w.node? true false)
        | [] => ([], false)
      | _ => ([], false)
    | _ => walk (Walk.node? true false ⟨tokens, [], defaultHandles, []⟩)

/-- How far the aliases of a document have been resolved. -/
structure Resolving where
  /-- The names of anchors and their numbers; each name once, with its latest number. -/
  names : List (List Char × Nat) := []
  /-- The nodes so far, last one first. -/
  nodes : List (Located Node) := []
  anchored : List (Nat × Located Node) := []

namespace Resolving

/-- Adds a node. Its anchor, if it has one, gets the count of the names before it as its
number. -/
def add (r : Resolving) (anchor : Option (List Char)) (node : Located Node) : Resolving :=
  let r := { r with nodes := node :: r.nodes }
  match anchor with
  | none => r
  | some name =>
    let number := r.names.length
    { r with
      names := (name, number) :: r.names.filter (·.1 != name)
      anchored := (number, node) :: r.anchored }

/-- Adds the node for an event. An alias needs an anchor of its name before it. -/
def event? (r : Resolving) (event : Located Event) : Option Resolving :=
  let mark := event.mark
  match event.item with
  | .alias name => do
    let (_, number) ← r.names.find? (·.1 == name)
    return r.add none ⟨.alias number, mark⟩
  | .scalar anchor tag style text => some (r.add anchor ⟨.scalar tag style text, mark⟩)
  | .sequenceStart anchor => some (r.add anchor ⟨.sequenceStart, mark⟩)
  | .sequenceEnd => some (r.add none ⟨.sequenceEnd, mark⟩)
  | .mappingStart anchor => some (r.add anchor ⟨.mappingStart, mark⟩)
  | .mappingEnd => some (r.add none ⟨.mappingEnd, mark⟩)

/-- Adds the nodes for events, up to an alias without an anchor. The result says whether there is
none. -/
def events : List (Located Event) → Resolving → Bool × Resolving
  | [], r => (true, r)
  | event :: rest, r =>
    match r.event? event with
    | none => (false, r)
    | some r => events rest r

end Resolving

/-- The first document of a text. -/
def ofText (text : List Char) : Document :=
  match source? text with
  | none => unreadable
  | some text =>
    let (events, complete) := events (Token.ofText text)
    let (resolved, r) := Resolving.events events {}
    ⟨r.nodes.reverse, r.anchored, resolved && complete⟩

end Document

end Percussion.Yaml
