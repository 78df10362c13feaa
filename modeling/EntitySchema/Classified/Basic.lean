/-
# EntitySchema.Classified.Basic -- diagrams whose kinds and ends are known

A classified diagram is what the compiler works on: every node has a
`NodeKind` (`Construct`) and every connection a `ConnectionKind` and two nodes
for ends (`Link`), so following a connection cannot fail.  Ids stay pairwise
distinct and the ends of a link are nodes of the diagram.  The order of both lists is
that of the diagram, and every view of it (nodes of some kinds, the links of a
node, its neighbours) keeps that order.

`Diagram.classify` fails on the first node with an unknown tag, and only if
there is none on the first connection with an unknown tag or a missing end.
-/
import EntitySchema.Diagram.Basic

namespace EntitySchema

set_option autoImplicit false

/-- A node of a known kind. -/
abbrev Construct := Node NodeKind

/-- A connection of a known kind between two nodes. -/
structure Link where
  id : String
  a : Construct
  b : Construct
  kind : ConnectionKind
  deriving DecidableEq, Repr

namespace Link

def touches (link : Link) (nodeId : String) : Bool := nodeId == link.a.id || nodeId == link.b.id

/-- The end opposite to a node, which for a loop is the node itself. -/
def otherEnd? (link : Link) (nodeId : String) : Option Construct :=
  if link.a.id = nodeId then some link.b
  else if link.b.id = nodeId then some link.a
  else none

end Link

/-- A diagram whose kinds and ends are known. -/
structure Classified where
  nodes : List Construct
  links : List Link
  ids_nodup : (nodes.map (·.id)).Nodup
  link_ids_nodup : (links.map (·.id)).Nodup
  ends_mem : ∀ link ∈ links, link.a ∈ nodes ∧ link.b ∈ nodes
  deriving DecidableEq

namespace Classified

def ids (d : Classified) : List String := d.nodes.map (·.id)

def node? (d : Classified) (id : String) : Option Construct := d.nodes.find? (·.id == id)

def nodeIndex (d : Classified) : NodeIndex NodeKind := .ofNodes d.nodes

def ofKinds (d : Classified) (accepts : NodeKind → Bool) : List Construct :=
  d.nodes.filter (accepts ·.kind)

def ofKind (d : Classified) (kind : NodeKind) : List Construct := d.ofKinds (· == kind)

def linksOfKind (d : Classified) (kind : ConnectionKind) : List Link :=
  d.links.filter (·.kind == kind)

/-- The links that touch a node; a loop is listed once. -/
def linksOf (d : Classified) (nodeId : String) : List Link := d.links.filter (·.touches nodeId)

/-- The links that touch a node, each with the node at its other end. -/
def neighbours (d : Classified) (nodeId : String) : List (Link × Construct) :=
  (d.linksOf nodeId).filterMap fun link => (link.otherEnd? nodeId).map fun other => (link, other)

def neighboursOf (d : Classified) (nodeId : String) (accepts : NodeKind → Bool) :
    List (Link × Construct) :=
  (d.neighbours nodeId).filter fun neighbour => accepts neighbour.2.kind

/-- The entity an attribute hangs off: the first entity next to it. -/
def ownerOf? (d : Classified) (item : Construct) : Option Construct :=
  (d.neighboursOf item.id (·.isEntity)).head?.map (·.2)

end Classified

/-! ## Classification -/

/-- Why a diagram cannot be classified. -/
inductive ClassificationError where
  | unknownNodeKind (node : Node String)
  | unknownConnectionKind (connection : Connection String)
  | danglingConnection (connection : Connection String) (missing : String)
  deriving DecidableEq, Repr

/-- The node with its kind in place of its tag. -/
def Node.classify (node : Node String) : Except ClassificationError Construct :=
  match NodeKind.ofTag? node.kind with
  | some kind =>
      .ok ⟨node.id, node.label, kind, node.sqlType, node.nullable, node.sqlExpression⟩
  | none => .error (.unknownNodeKind node)

/-- The connection with its kind in place of its tag and nodes in place of ids. -/
def Connection.classify (nodes : List Construct) (connection : Connection String) :
    Except ClassificationError Link :=
  match ConnectionKind.ofTag? connection.kind with
  | none => .error (.unknownConnectionKind connection)
  | some kind =>
      match nodes.find? (·.id == connection.a) with
      | none => .error (.danglingConnection connection connection.a)
      | some a =>
          match nodes.find? (·.id == connection.b) with
          | none => .error (.danglingConnection connection connection.b)
          | some b => .ok ⟨connection.id, a, b, kind⟩

/-- The nodes with kinds in place of tags, up to the first unknown tag. -/
def classifyNodes : List (Node String) → Except ClassificationError (List Construct)
  | [] => .ok []
  | node :: rest => do
      let construct ← node.classify
      return construct :: (← classifyNodes rest)

/-- The links of the connections, up to the first that is none. -/
def classifyConnections (nodes : List Construct) :
    List (Connection String) → Except ClassificationError (List Link)
  | [] => .ok []
  | connection :: rest => do
      let link ← connection.classify nodes
      return link :: (← classifyConnections nodes rest)

theorem Node.id_of_classify {node : Node String} {construct : Construct}
    (read : node.classify = .ok construct) : construct.id = node.id := by
  unfold Node.classify at read
  split at read <;> simp_all
  rw [← read]

/-- Classification gives nodes their kinds and leaves everything else in place, so ids that were
distinct in the diagram stay distinct. -/
theorem map_id_of_classifyNodes {nodes : List (Node String)} {constructs : List Construct}
    (read : classifyNodes nodes = .ok constructs) :
    constructs.map (·.id) = nodes.map (·.id) := by
  induction nodes generalizing constructs with
  | nil => simp_all [classifyNodes]
  | cons node rest ih =>
      cases first : node.classify with
      | error cause => simp [classifyNodes, first, bind, Except.bind] at read
      | ok construct =>
          cases others : classifyNodes rest with
          | error cause => simp [classifyNodes, first, others, bind, Except.bind] at read
          | ok found =>
              simp [classifyNodes, first, others, bind, Except.bind, pure, Except.pure] at read
              simp [← read, ih others, Node.id_of_classify first]

/-- A link leads to nodes of the list that its ends were looked up in, and it goes by the id of its
connection. -/
theorem Connection.of_classify {nodes : List Construct} {connection : Connection String}
    {link : Link} (read : connection.classify nodes = .ok link) :
    link.id = connection.id ∧ link.a ∈ nodes ∧ link.b ∈ nodes := by
  unfold Connection.classify at read
  split at read
  · simp at read
  · split at read
    · simp at read
    · split at read
      · simp at read
      · rename_i foundA _ _ foundB
        simp only [Except.ok.injEq] at read
        subst read
        exact ⟨rfl, List.mem_of_find?_eq_some foundA, List.mem_of_find?_eq_some foundB⟩

/-- No link leads out of the diagram.  This is what makes `ends_mem` a fact about a classified
diagram and not a check at each use. -/
theorem links_of_classifyConnections {nodes : List Construct}
    {connections : List (Connection String)} {links : List Link}
    (read : classifyConnections nodes connections = .ok links) :
    links.map (·.id) = connections.map (·.id) ∧ ∀ link ∈ links, link.a ∈ nodes ∧ link.b ∈ nodes := by
  induction connections generalizing links with
  | nil => simp_all [classifyConnections]
  | cons connection rest ih =>
      cases first : connection.classify nodes with
      | error cause => simp [classifyConnections, first, bind, Except.bind] at read
      | ok link =>
          cases others : classifyConnections nodes rest with
          | error cause => simp [classifyConnections, first, others, bind, Except.bind] at read
          | ok found =>
              simp [classifyConnections, first, others, bind, Except.bind, pure, Except.pure] at read
              obtain ⟨sameId, endA, endB⟩ := Connection.of_classify first
              obtain ⟨sameIds, ends⟩ := ih others
              subst read
              refine ⟨by simp [sameId, sameIds], ?_⟩
              intro other mem
              rcases List.mem_cons.1 mem with same | mem
              · exact same ▸ ⟨endA, endB⟩
              · exact ends other mem

/-- The diagram with every kind and every end resolved. -/
def Diagram.classify (diagram : Diagram) : Except ClassificationError Classified :=
  match nodesRead : classifyNodes diagram.nodes with
  | .error cause => .error cause
  | .ok nodes =>
      match linksRead : classifyConnections nodes diagram.connections with
      | .error cause => .error cause
      | .ok links =>
          .ok
            { nodes, links
              ids_nodup := map_id_of_classifyNodes nodesRead ▸ diagram.node_ids_nodup
              link_ids_nodup :=
                (links_of_classifyConnections linksRead).1 ▸ diagram.connection_ids_nodup
              ends_mem := (links_of_classifyConnections linksRead).2 }

end EntitySchema
