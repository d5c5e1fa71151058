import Percussion.Proofs.Mappings

/-!
# Documents of one mapping

What is read from a text that consists of entries: the nodes of one mapping, each key followed by
its value, none with an anchor, and nothing else.
-/

namespace Percussion.Yaml

/-- Located things whose items are `a` and more begin with `a`. -/
theorem exists_eq_cons_of_map_item {α : Type} {located : List (Located α)} {a : α} {more : List α}
    (h : located.map (·.item) = a :: more) :
    ∃ (mark : Mark) (rest : List (Located α)),
      located = ⟨a, mark⟩ :: rest ∧ rest.map (·.item) = more := by
  obtain ⟨⟨item, mark⟩, rest, rfl, rfl, same⟩ := List.map_eq_cons_iff.mp h
  exact ⟨mark, rest, rfl, same⟩

/-! ## The walk -/

/-- The events of an entry. -/
def Entry.events (entry : Entry) : List Event :=
  [.scalar none none .plain entry.key, .scalar none none entry.style entry.text]

namespace Walk

/-- The walk inside of one mapping. -/
def inMapping (tokens : List (Located Token)) (events : List (Located Event)) : Walk :=
  ⟨tokens, [.blockKey], defaultHandles, events⟩

/-- A key and a scalar after it take two steps. -/
theorem run_entry (key text : List Char) (style : Style) (m₁ m₂ m₃ m₄ : Mark)
    (tokens : List (Located Token)) (events : List (Located Event)) (count : Nat) :
    (inMapping (⟨.key, m₁⟩ :: ⟨.scalar .plain key, m₂⟩ :: ⟨.value, m₃⟩ ::
        ⟨.scalar style text, m₄⟩ :: tokens) events).run (count + 2) =
      (inMapping tokens (⟨.scalar none none style text, m₄⟩ :: ⟨.scalar none none .plain key, m₂⟩ ::
        events)).run count := rfl

/-- The end of the mapping is the end of the document. -/
theorem run_end (m₁ m₂ : Mark) (events : List (Located Event)) (count : Nat) :
    (inMapping [⟨.blockEnd, m₁⟩, ⟨.streamEnd, m₂⟩] events).run (count + 2) =
      (true, ⟨[⟨.streamEnd, m₂⟩], [], defaultHandles, ⟨.mappingEnd, m₁⟩ :: events⟩) := rfl

/-- The entries of a mapping are understood one after the other. -/
theorem exists_run_entries {entries : List Entry} {tokens : List (Located Token)}
    (h : tokens.map (·.item) = entries.flatMap Entry.tokens ++ [.blockEnd, .streamEnd])
    (before : List (Located Event)) :
    ∃ (after : List (Located Event)) (mark : Mark),
      after.map (·.item) = entries.flatMap Entry.events ++ [.mappingEnd] ∧
      ∀ count, (inMapping tokens before).run (count + 2 + 2 * entries.length) =
        (true, ⟨[⟨.streamEnd, mark⟩], [], defaultHandles, after.reverse ++ before⟩) := by
  -- each entry takes two steps, and two are left for the end of the mapping
  induction entries generalizing tokens before with
  | nil =>
    obtain ⟨m₁, _, rfl, h₁⟩ := exists_eq_cons_of_map_item h
    obtain ⟨m₂, _, rfl, h₂⟩ := exists_eq_cons_of_map_item h₁
    obtain rfl := List.map_eq_nil_iff.mp h₂
    exact ⟨[⟨.mappingEnd, m₁⟩], m₂, rfl, run_end m₁ m₂ before⟩
  | cons entry entries ih =>
    obtain ⟨m₁, _, rfl, h₁⟩ := exists_eq_cons_of_map_item h
    obtain ⟨m₂, _, rfl, h₂⟩ := exists_eq_cons_of_map_item h₁
    obtain ⟨m₃, _, rfl, h₃⟩ := exists_eq_cons_of_map_item h₂
    obtain ⟨m₄, tokens, rfl, h₄⟩ := exists_eq_cons_of_map_item h₃
    obtain ⟨after, mark, items, read⟩ := ih h₄
      (⟨.scalar none none entry.style entry.text, m₄⟩ :: ⟨.scalar none none .plain entry.key, m₂⟩ ::
        before)
    refine ⟨⟨.scalar none none .plain entry.key, m₂⟩ ::
      ⟨.scalar none none entry.style entry.text, m₄⟩ :: after, mark, ?_, fun count => ?_⟩
    · rw [List.map_cons, List.map_cons, items]
      rfl
    · have steps : count + 2 + 2 * (entry :: entries).length =
          count + 2 + 2 * entries.length + 2 := by
        simp only [List.length_cons]
        omega
      rw [steps, run_entry, read]
      simp

end Walk

namespace Document

/-- The tokens of a mapping are those of a complete document. -/
theorem exists_events {entries : List Entry} {tokens : List (Located Token)} (start : Mark)
    (h : tokens.map (·.item) = entries.flatMap Entry.tokens ++ [.blockEnd, .streamEnd]) :
    ∃ found : List (Located Event),
      found.map (·.item) = entries.flatMap Entry.events ++ [.mappingEnd] ∧
      events (⟨.blockMappingStart, start⟩ :: tokens) = (⟨.mappingStart none, start⟩ :: found, true) := by
  obtain ⟨after, mark, items, read⟩ := Walk.exists_run_entries h [⟨.mappingStart none, start⟩]
  -- an entry has four tokens and takes two steps, so the steps that are allowed suffice
  obtain ⟨count, steps⟩ : ∃ count,
      4 * (tokens.length + 1) + 4 = count + 2 + 2 * entries.length := by
    have length : tokens.length = 4 * entries.length + 2 := by
      have lengths := congrArg List.length h
      simpa [Entry.tokens, Nat.mul_comm] using lengths
    exact ⟨4 * (tokens.length + 1) + 2 - 2 * entries.length, by omega⟩
  refine ⟨after, items, ?_⟩
  have opened : Walk.node? true false
      ⟨⟨.blockMappingStart, start⟩ :: tokens, [], defaultHandles, []⟩ =
        some (Walk.inMapping tokens [⟨.mappingStart none, start⟩]) := rfl
  simp only [events, opened, List.length_cons, steps, read]
  simp [endsStream]

/-! ## Nodes -/

/-- The node for an event that is no alias and has no anchor. -/
def freeNode? : Event → Option Node
  | .scalar none tag style text => some (.scalar tag style text)
  | .sequenceStart none => some .sequenceStart
  | .sequenceEnd => some .sequenceEnd
  | .mappingStart none => some .mappingStart
  | .mappingEnd => some .mappingEnd
  | _ => none

/-- A node without anchors is added to those resolved so far. -/
theorem Resolving.event?_of_freeNode? {event : Event} {node : Node}
    (h : freeNode? event = some node) (r : Resolving) (mark : Mark) :
    r.event? ⟨event, mark⟩ = some { r with nodes := ⟨node, mark⟩ :: r.nodes } := by
  unfold freeNode? at h
  split at h <;> cases h <;> rfl

/-- Events without aliases and anchors become nodes one by one. -/
theorem Resolving.exists_events {found : List (Located Event)} {nodes : List Node}
    (h : (found.map (·.item)).map freeNode? = nodes.map some) (r : Resolving) :
    ∃ located : List (Located Node), located.map (·.item) = nodes ∧
      Resolving.events found r = (true, { r with nodes := located.reverse ++ r.nodes }) := by
  induction found generalizing nodes r with
  | nil =>
    obtain rfl := List.map_eq_nil_iff.mp h.symm
    exact ⟨[], rfl, rfl⟩
  | cons event found ih =>
    obtain ⟨node, nodes, rfl, same, later⟩ := List.map_eq_cons_iff.mp h.symm
    obtain ⟨located, items, read⟩ := ih later.symm { r with nodes := ⟨node, event.mark⟩ :: r.nodes }
    refine ⟨⟨node, event.mark⟩ :: located, by rw [List.map_cons, items], ?_⟩
    rw [events, event?_of_freeNode? same.symm r event.mark]
    simp [read]

end Document

/-- The nodes of an entry. -/
def Entry.nodes (entry : Entry) : List Node :=
  [.scalar none .plain entry.key, .scalar none entry.style entry.text]

/-- The nodes that are read from a text that consists of entries. -/
theorem Document.exists_ofText_entries {text written : List Char} {entries : List Entry}
    (source : source? text = some written) (h : IsListing entries written) (ne : entries ≠ []) :
    ∃ nodes : List (Located Node),
      nodes.map (·.item) = entries.flatMap Entry.nodes ++ [.mappingEnd] ∧
      Document.ofText text = ⟨⟨.mappingStart, Mark.start⟩ :: nodes, [], true⟩ := by
  obtain ⟨tokens, tokenItems, tokenized⟩ := h.exists_ofText ne
  obtain ⟨found, items, read⟩ := exists_events Mark.start tokenized
  have free : (found.map (·.item)).map freeNode? =
      (entries.flatMap Entry.nodes ++ [Node.mappingEnd]).map some := by
    have same : (fun entry => (Entry.events entry).map freeNode?) =
        fun entry => (Entry.nodes entry).map some := rfl
    simp only [items, List.map_append, List.map_flatMap, same]
    rfl
  have opened : Resolving.event? {} ⟨.mappingStart none, Mark.start⟩ =
      some { nodes := [⟨.mappingStart, Mark.start⟩] } := rfl
  obtain ⟨nodes, nodeItems, resolved⟩ := Resolving.exists_events free
    { nodes := [⟨.mappingStart, Mark.start⟩] }
  refine ⟨nodes, nodeItems, ?_⟩
  rw [ofText, source]
  simp only [tokenItems, read, Resolving.events, opened, resolved]
  simp

end Percussion.Yaml
