/-
# EntitySchema.Diagram.Basic -- entity-relationship diagrams as they are drawn

A diagram is a list of nodes and a list of connections between them.  Kinds are
still the tags they were written with, so `Node` and `Connection` take the type
of their kind as a parameter: tags here, `NodeKind` and `ConnectionKind` once
the diagram is classified.

The ids of the nodes are pairwise distinct and so are those of the connections.
`Diagram.ofParts` is the only way in: it accepts two lists exactly when that
holds and otherwise names the first id that repeats an earlier one
(`firstRepeated_eq_none_iff`).
-/
import EntitySchema.Diagram.Kind

namespace EntitySchema

set_option autoImplicit false

structure Node (κ : Type) where
  id : String
  label : String
  kind : κ
  sqlType : Option String := none
  nullable : Bool := false
  sqlExpression : Option String := none
  deriving DecidableEq, Repr

/-- A connection between the nodes with the ids `a` and `b`, without direction. -/
structure Connection (κ : Type) where
  id : String
  a : String
  b : String
  kind : κ
  deriving DecidableEq, Repr

namespace Connection

variable {κ : Type}

def touches (connection : Connection κ) (nodeId : String) : Bool :=
  nodeId == connection.a || nodeId == connection.b

/-- The end opposite to a node, which for a loop is the node itself. -/
def otherEnd? (connection : Connection κ) (nodeId : String) : Option String :=
  if connection.a = nodeId then some connection.b
  else if connection.b = nodeId then some connection.a
  else none

end Connection

/-! ## Nodes by id -/

/-- Nodes under their ids, each id once. -/
abbrev NodeIndex (κ : Type) := List (String × Node κ)

namespace NodeIndex

variable {κ : Type}

/-- The index with one more node: in place of the node with its id if there is one, at the
end otherwise. -/
def put (node : Node κ) : NodeIndex κ → NodeIndex κ
  | [] => [(node.id, node)]
  | (id, old) :: rest => if id = node.id then (id, node) :: rest else (id, old) :: put node rest

/-- The index of nodes that are put into it one after the other. -/
def ofNodes (nodes : List (Node κ)) : NodeIndex κ :=
  nodes.foldl (fun index node => index.put node) []

end NodeIndex

/-! ## Repeated ids -/

/-- The first id that is in `seen` or repeats an id before it. -/
def firstRepeated (seen : List String) : List String → Option String
  | [] => none
  | id :: rest => if id ∈ seen then some id else firstRepeated (id :: seen) rest

/-- Nothing is found exactly when the ids are distinct; `seen` carries those that have been passed,
so that the induction is on the rest of the list. -/
theorem firstRepeated_eq_none_iff {seen ids : List String} :
    firstRepeated seen ids = none ↔ ids.Nodup ∧ ∀ id ∈ ids, id ∉ seen := by
  induction ids generalizing seen with
  | nil => simp [firstRepeated]
  | cons id rest ih =>
      by_cases known : id ∈ seen
      · simp [firstRepeated, known]
      · simp only [firstRepeated, known, if_false, ih, List.nodup_cons, List.mem_cons, not_or]
        constructor
        · rintro ⟨nodup, fresh⟩
          refine ⟨⟨fun mem => (fresh id mem).1 rfl, nodup⟩, ?_⟩
          rintro other (rfl | mem)
          · exact known
          · exact (fresh other mem).2
        · rintro ⟨⟨new, nodup⟩, fresh⟩
          exact ⟨nodup, fun other mem =>
            ⟨fun same => new (same ▸ mem), fresh other (.inr mem)⟩⟩

/-- An id that is used twice. -/
inductive DuplicateId where
  | node (id : String)
  | connection (id : String)
  deriving DecidableEq, Repr

def DuplicateId.message : DuplicateId → String
  | .node id => "Duplicate node id: " ++ id
  | .connection id => "Duplicate connection id: " ++ id

/-! ## Diagrams -/

/-- A diagram as drawn: kinds are tags and the ends of a connection are ids. -/
structure Diagram where
  nodes : List (Node String)
  connections : List (Connection String)
  node_ids_nodup : (nodes.map (·.id)).Nodup
  connection_ids_nodup : (connections.map (·.id)).Nodup
  deriving DecidableEq

namespace Diagram

/-- The diagram with these nodes and connections, if no id is used twice. -/
def ofParts (nodes : List (Node String)) (connections : List (Connection String)) :
    Except DuplicateId Diagram :=
  match nodesDistinct : firstRepeated [] (nodes.map (·.id)) with
  | some id => .error (.node id)
  | none =>
      match connectionsDistinct : firstRepeated [] (connections.map (·.id)) with
      | some id => .error (.connection id)
      | none =>
          .ok ⟨nodes, connections, (firstRepeated_eq_none_iff.1 nodesDistinct).1,
            (firstRepeated_eq_none_iff.1 connectionsDistinct).1⟩

def node? (diagram : Diagram) (id : String) : Option (Node String) :=
  diagram.nodes.find? (·.id == id)

def nodeIndex (diagram : Diagram) : NodeIndex String := .ofNodes diagram.nodes

end Diagram

end EntitySchema
