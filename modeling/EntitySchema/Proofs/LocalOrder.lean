/-
# EntitySchema.Proofs.LocalOrder -- only the order around a node and in a group matters

A run goes through the nodes of a group of kinds in diagram order, and follows the
connections of a node in diagram order.  How the groups are mixed, where the other
nodes stand and how the connections of different nodes follow each other makes no
difference: two diagrams that agree in the orders that matter (`SameLocally`) are copies
of each other under the same ids, and are compiled with the same outcome
(`compile_sameLocally`).
-/
import EntitySchema.Proofs.Classification
import EntitySchema.Proofs.References
import EntitySchema.Proofs.WholeCopies

namespace EntitySchema

set_option autoImplicit false

def Node.isIn (group : List NodeKind) (node : Node String) : Bool :=
  (group.map (·.tag)).contains node.kind

/-- Two diagrams with the same nodes and the same connections, in which the nodes of each
group and the connections of each node are in the same order. -/
structure SameLocally (first second : Diagram) : Prop where
  nodes : ∀ node, node ∈ second.nodes ↔ node ∈ first.nodes
  connections : ∀ connection, connection ∈ second.connections ↔ connection ∈ first.connections
  groups : ∀ group ∈ NodeKind.groups,
    second.nodes.filter (·.isIn group) = first.nodes.filter (·.isIn group)
  touching : ∀ node ∈ first.nodes,
    second.connections.filter (·.touches node.id) = first.connections.filter (·.touches node.id)

/-! ## Reading the orders off the classified diagrams -/

theorem NodeKind.tag_injective {first second : NodeKind} (same : first.tag = second.tag) :
    first = second := by
  have found := NodeKind.ofTag?_tag first
  rw [same, NodeKind.ofTag?_tag] at found
  exact (Option.some.inj found).symm

theorem ConnectionKind.tag_injective {first second : ConnectionKind}
    (same : first.tag = second.tag) : first = second := by
  have found := ConnectionKind.ofTag?_tag first
  rw [same, ConnectionKind.ofTag?_tag] at found
  exact (Option.some.inj found).symm

theorem Node.isIn_written (group : List NodeKind) (node : Construct) :
    node.written.isIn group = group.contains node.kind := by
  rw [Node.isIn, Bool.eq_iff_iff, List.contains_iff_mem, List.contains_iff_mem]
  constructor
  · intro mem
    obtain ⟨kind, known, same⟩ := List.mem_map.1 mem
    exact NodeKind.tag_injective same ▸ known
  · exact List.mem_map_of_mem

theorem eq_of_map_eq {α β : Type} {f : α → β} {first second : List α}
    (inj : ∀ a ∈ first, ∀ b ∈ second, f a = f b → a = b) (same : first.map f = second.map f) :
    first = second := by
  induction first generalizing second with
  | nil => exact (List.map_eq_nil_iff.1 same.symm).symm
  | cons a rest ih =>
      cases second with
      | nil => cases same
      | cons b others =>
          obtain ⟨here, there⟩ := List.cons.inj same
          have restSame : rest = others := ih (fun c inRest c' inOthers =>
            inj c (List.mem_cons_of_mem a inRest) c' (List.mem_cons_of_mem b inOthers)) there
          rw [inj a List.mem_cons_self b List.mem_cons_self here, restSame]

namespace Classified

variable {d e : Classified}

theorem filter_written_nodes (d : Classified) (group : List NodeKind) :
    d.written.nodes.filter (·.isIn group) = (d.ofKinds group.contains).map Node.written := by
  rw [written, List.filter_map]
  simp only [Function.comp_def, Node.isIn_written]
  rfl

theorem filter_written_connections (d : Classified) (id : String) :
    d.written.connections.filter (·.touches id) = (d.linksOf id).map Link.written := by
  rw [written, List.filter_map]
  rfl

variable (same : SameLocally d.written e.written)

include same

theorem mem_nodes_of_sameLocally {node : Construct} : node ∈ e.nodes ↔ node ∈ d.nodes := by
  have writtenIn := same.nodes node.written
  simp only [written] at writtenIn
  have injective : Function.Injective Node.written := fun _ _ => Node.written_injective
  rwa [List.mem_map_of_injective injective, List.mem_map_of_injective injective] at writtenIn

omit same in
/-- Links between nodes of one diagram are told apart by what is written of them. -/
theorem eq_of_written_eq {first second : Link} (ends : first.a ∈ d.nodes ∧ first.b ∈ d.nodes)
    (others : second.a ∈ d.nodes ∧ second.b ∈ d.nodes) (alike : first.written = second.written) :
    first = second := by
  obtain ⟨id, a, b, kind⟩ := first
  obtain ⟨otherId, otherA, otherB, otherKind⟩ := second
  simp only [Link.written, Connection.mk.injEq] at alike
  obtain ⟨sameId, sameA, sameB, sameTag⟩ := alike
  have endA : a = otherA := eq_of_id_eq ends.1 others.1 sameA
  have endB : b = otherB := eq_of_id_eq ends.2 others.2 sameB
  rw [sameId, endA, endB, ConnectionKind.tag_injective sameTag]

theorem linksOf_of_sameLocally {node : Construct} (inNodes : node ∈ d.nodes) :
    e.linksOf node.id = d.linksOf node.id := by
  refine eq_of_map_eq (f := Link.written) (fun link linkIn other otherIn => ?_) ?_
  · obtain ⟨endA, endB⟩ := e.ends_mem link (List.mem_filter.1 linkIn).1
    rw [mem_nodes_of_sameLocally same] at endA endB
    exact eq_of_written_eq ⟨endA, endB⟩ (d.ends_mem other (List.mem_filter.1 otherIn).1)
  · rw [← filter_written_connections, ← filter_written_connections]
    exact same.touching node.written (List.mem_map_of_mem inNodes)

/-- Each of the diagrams is a copy of the other. -/
def reordering : Copy d e :=
  .unchanged (fun _ => (mem_nodes_of_sameLocally same).2) fun node inNodes => by
    rw [neighbours, linksOf_of_sameLocally same inNodes, neighbours]

theorem reordering_whole : (reordering same).Whole := by
  intro group known
  have listed := same.groups group known
  rw [filter_written_nodes, filter_written_nodes] at listed
  have injective : Function.Injective Node.written := fun _ _ => Node.written_injective
  rw [List.map_injective_iff.2 injective listed]
  exact (List.map_id (d.ofKinds group.contains)).symm

end Classified

/-! ## Compilation -/

/-- Diagrams that differ only in orders that do not matter are compiled with the same outcome. -/
theorem compile_sameLocally (settings : Settings) {first second : Diagram} {d e : Classified}
    (read : first.classify = .ok d) (readSecond : second.classify = .ok e)
    (same : SameLocally first second) : compile settings second = compile settings first := by
  obtain rfl := classify_eq_ok_iff.1 read
  obtain rfl := classify_eq_ok_iff.1 readSecond
  exact (Classified.reordering_whole same).compile_eq read readSecond ⟨fun _ => rfl, fun _ => rfl⟩

/-- An entity with a key, a weak entity that it owns, and a relationship between them. -/
def groupedByConstruct : Diagram :=
  { nodes :=
      [.drawn "e" "E" "StrongEntity", .drawn "k" "k" "KeyAttribute",
       .drawn "w" "W" "WeakEntity", .drawn "p" "p" "PartialKeyAttribute",
       .drawn "o" "O" "WeakRelationship", .drawn "r" "R" "Relationship"]
    connections :=
      [.drawn "1" "e" "k", .drawn "2" "w" "p", .drawn "3" "w" "o", .drawn "4" "o" "e",
       .drawn "5" "r" "e" "SingleLineToOne", .drawn "6" "r" "w" "DoubleLineToMany"]
    node_ids_nodup := by decide
    connection_ids_nodup := by decide }

/-- The same diagram, drawn from its attributes and its weak entity on. -/
def groupedByShape : Diagram :=
  { nodes :=
      [.drawn "r" "R" "Relationship", .drawn "p" "p" "PartialKeyAttribute",
       .drawn "k" "k" "KeyAttribute", .drawn "o" "O" "WeakRelationship",
       .drawn "e" "E" "StrongEntity", .drawn "w" "W" "WeakEntity"]
    connections :=
      [.drawn "2" "w" "p", .drawn "3" "w" "o", .drawn "1" "e" "k", .drawn "4" "o" "e",
       .drawn "5" "r" "e" "SingleLineToOne", .drawn "6" "r" "w" "DoubleLineToMany"]
    node_ids_nodup := by decide
    connection_ids_nodup := by decide }

/-- The second diagram lists its nodes and connections in another order, yet an entity has its
attributes, and a weak entity its links, in the order that they had. -/
theorem groupedByShape_sameLocally :
    ∃ d e, groupedByConstruct.classify = .ok d ∧ groupedByShape.classify = .ok e ∧
      SameLocally groupedByConstruct groupedByShape ∧ groupedByShape ≠ groupedByConstruct ∧
      compile {} groupedByShape = compile {} groupedByConstruct := by
  have known : classifiesTo groupedByConstruct (fun _ => true) = true := by decide +kernel
  have knownToo : classifiesTo groupedByShape (fun _ => true) = true := by decide +kernel
  obtain ⟨d, read, _⟩ := exists_of_classifiesTo known
  obtain ⟨e, readToo, _⟩ := exists_of_classifiesTo knownToo
  have sameNodes : groupedByShape.nodes.Perm groupedByConstruct.nodes := by decide
  have sameConnections : groupedByShape.connections.Perm groupedByConstruct.connections := by decide
  have same : SameLocally groupedByConstruct groupedByShape :=
    { nodes := fun _ => sameNodes.mem_iff
      connections := fun _ => sameConnections.mem_iff
      groups := by decide
      touching := by decide }
  exact ⟨d, e, read, readToo, same, by decide, compile_sameLocally {} read readToo same⟩

end EntitySchema
