/-
# EntitySchema.Proofs.Classification -- classified diagrams are the diagrams that can be classified

Classification resolves tags and ids and forgets nothing: a classified diagram can be
written down again (`Classified.written`), and a diagram is classified as `d` exactly if
it is `d` written down (`classify_eq_ok_iff`).  So what is said of a diagram that
passes classification may be said of its classified form and the other way round.
-/
import EntitySchema.Proofs.Neighbourhood

namespace EntitySchema

set_option autoImplicit false

/-! ## Nodes and links -/

def Node.written (node : Construct) : Node String :=
  ⟨node.id, node.label, node.kind.tag, node.sqlType, node.nullable, node.sqlExpression⟩

def Link.written (link : Link) : Connection String := ⟨link.id, link.a.id, link.b.id, link.kind.tag⟩

theorem Node.classify_eq_ok_iff {node : Node String} {construct : Construct} :
    node.classify = .ok construct ↔ construct.written = node := by
  constructor
  · intro read
    unfold Node.classify at read
    split at read
    · rename_i kind found
      obtain rfl := Except.ok.inj read
      rw [Node.written, NodeKind.tag_of_ofTag? found]
    · simp at read
  · rintro rfl
    rw [Node.classify, Node.written, NodeKind.ofTag?_tag]

theorem Node.written_injective {first second : Construct} (same : first.written = second.written) :
    first = second := by
  have read := Node.classify_eq_ok_iff.2 same
  rw [Node.classify_eq_ok_iff.2 rfl] at read
  exact (Except.ok.inj read).symm

/-- Nothing of a connection is lost in its link: tag and ends can be read back off the kind and the
nodes. -/
theorem Connection.written_of_classify {nodes : List Construct} {connection : Connection String}
    {link : Link} (read : connection.classify nodes = .ok link) : link.written = connection := by
  unfold Connection.classify at read
  split at read
  · simp at read
  · rename_i kind known
    split at read
    · simp at read
    · rename_i a foundA
      split at read
      · simp at read
      · rename_i b foundB
        obtain rfl := Except.ok.inj read
        have idA : a.id = connection.a := by simpa using List.find?_some foundA
        have idB : b.id = connection.b := by simpa using List.find?_some foundB
        rw [Link.written, idA, idB, ConnectionKind.tag_of_ofTag? known]

theorem Link.classify_written {d : Classified} {link : Link} (known : link ∈ d.links) :
    link.written.classify d.nodes = .ok link := by
  have foundA : d.nodes.find? (·.id == link.a.id) = some link.a :=
    d.node?_id (d.ends_mem link known).1
  have foundB : d.nodes.find? (·.id == link.b.id) = some link.b :=
    d.node?_id (d.ends_mem link known).2
  simp only [Connection.classify, Link.written, ConnectionKind.ofTag?_tag, foundA, foundB]

/-! ## Diagrams -/

theorem bind_eq_ok_iff {ε α β : Type} {first : Except ε α} {next : α → Except ε β} {b : β} :
    (first >>= next) = .ok b ↔ ∃ a, first = .ok a ∧ next a = .ok b := by
  cases first with
  | error cause => exact ⟨fun read => by simp [bind, Except.bind] at read, by simp⟩
  | ok a => exact ⟨fun read => ⟨a, rfl, read⟩, by rintro ⟨_, same, read⟩; cases same; exact read⟩

/-- Classification of nodes succeeds exactly on the nodes as they would be written down, so it has
at most one answer and keeps all they say. -/
theorem classifyNodes_eq_ok_iff {nodes : List (Node String)} {constructs : List Construct} :
    classifyNodes nodes = .ok constructs ↔ constructs.map Node.written = nodes := by
  induction nodes generalizing constructs with
  | nil =>
      rw [classifyNodes, Except.ok.injEq, List.map_eq_nil_iff]
      exact eq_comm
  | cons node rest ih =>
      simp only [classifyNodes, bind_eq_ok_iff, Node.classify_eq_ok_iff, ih, pure, Except.pure,
        Except.ok.injEq, List.map_eq_cons_iff]
      constructor
      · rintro ⟨construct, here, others, there, rfl⟩
        exact ⟨construct, others, rfl, here, there⟩
      · rintro ⟨construct, others, rfl, here, there⟩
        exact ⟨construct, here, others, there, rfl⟩

theorem written_of_classifyConnections {nodes : List Construct}
    {connections : List (Connection String)} {links : List Link}
    (read : classifyConnections nodes connections = .ok links) :
    links.map Link.written = connections := by
  induction connections generalizing links with
  | nil =>
      rw [classifyConnections] at read
      rw [← Except.ok.inj read, List.map_nil]
  | cons connection rest ih =>
      obtain ⟨link, here, read⟩ := bind_eq_ok_iff.1 read
      obtain ⟨others, there, read⟩ := bind_eq_ok_iff.1 read
      rw [← Except.ok.inj read, List.map_cons, Connection.written_of_classify here, ih there]

theorem classifyConnections_written {d : Classified} {links : List Link}
    (known : ∀ link ∈ links, link ∈ d.links) :
    classifyConnections d.nodes (links.map Link.written) = .ok links := by
  induction links with
  | nil => rfl
  | cons link rest ih =>
      have others := ih fun other mem => known other (List.mem_cons_of_mem link mem)
      rw [List.map_cons, classifyConnections, Link.classify_written (known link List.mem_cons_self),
        others]
      rfl

def Classified.written (d : Classified) : Diagram where
  nodes := d.nodes.map Node.written
  connections := d.links.map Link.written
  node_ids_nodup := by
    rw [List.map_map]
    exact d.ids_nodup
  connection_ids_nodup := by
    rw [List.map_map]
    exact d.link_ids_nodup

/-- A diagram that is written down is classified as it was. -/
theorem classify_written (d : Classified) : d.written.classify = .ok d := by
  have nodes : classifyNodes d.written.nodes = .ok d.nodes := classifyNodes_eq_ok_iff.2 rfl
  have links : classifyConnections d.nodes d.written.connections = .ok d.links :=
    classifyConnections_written fun _ mem => mem
  unfold Diagram.classify
  split
  · rename_i cause failed
    rw [nodes] at failed
    cases failed
  · rename_i constructs constructsRead
    obtain rfl := Except.ok.inj (nodes.symm.trans constructsRead)
    split
    · rename_i cause failed
      rw [links] at failed
      cases failed
    · rename_i found linksRead
      obtain rfl := Except.ok.inj (links.symm.trans linksRead)
      rfl

/-- A diagram is classified as what it writes down. -/
theorem classify_eq_ok_iff {diagram : Diagram} {d : Classified} :
    diagram.classify = .ok d ↔ d.written = diagram := by
  constructor
  · intro read
    unfold Diagram.classify at read
    split at read
    · cases read
    · rename_i constructs nodesRead
      split at read
      · cases read
      · rename_i links linksRead
        obtain rfl := Except.ok.inj read
        have nodes := classifyNodes_eq_ok_iff.1 nodesRead
        have connections := written_of_classifyConnections linksRead
        cases diagram
        simp only [Classified.written, nodes, connections]
  · rintro rfl
    exact classify_written d

end EntitySchema
