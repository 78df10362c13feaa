/-
# EntitySchema.Classified.Index -- the index of a diagram, grown in one pass

The views of a classified diagram look through all its nodes or links whenever they are
asked for.  An index holds them ready: the nodes and the connections of each kind, and a
row of links for each node.  It is grown in one pass (`Diagram.index`): every node is
put into the group of its kind and gets an empty row, then every connection is put into
the group of its kind and into the rows of its ends.  The pass stops at the first node or
connection that cannot be classified.

That the index holds what the views show is `EntitySchema.Diagram.index_eq`.
-/
import EntitySchema.Classified.Basic

namespace EntitySchema

set_option autoImplicit false

/-- Entries in groups, each under a key. -/
abbrev Groups (κ α : Type) := List (κ × List α)

/-- The groups with one more entry at the end of that of a key. -/
def Groups.add {κ α : Type} [BEq κ] (groups : Groups κ α) (key : κ) (entry : α) : Groups κ α :=
  groups.map fun (other, entries) =>
    if other == key then (other, entries ++ [entry]) else (other, entries)

/-- What is known of a diagram, held ready. -/
structure Index where
  nodes : List Construct := []
  byKind : Groups NodeKind Construct := NodeKind.all.map fun kind => (kind, [])
  linksByKind : Groups ConnectionKind Link := ConnectionKind.all.map fun kind => (kind, [])
  rows : Groups String Link := []
  deriving DecidableEq, Repr

namespace Index

def addNode (index : Index) (node : Construct) : Index :=
  { index with
    nodes := index.nodes ++ [node]
    byKind := index.byKind.add node.kind node
    rows := index.rows ++ [(node.id, [])] }

/-- The index with one more link, which is put into the row of a node once. -/
def addLink (index : Index) (link : Link) : Index :=
  let rows := index.rows.add link.a.id link
  { index with
    linksByKind := index.linksByKind.add link.kind link
    rows := if link.b.id = link.a.id then rows else rows.add link.b.id link }

/-- The index with more nodes, up to the first unknown tag. -/
def addNodes (index : Index) : List (Node String) → Except ClassificationError Index
  | [] => .ok index
  | node :: rest => do (index.addNode (← node.classify)).addNodes rest

/-- The index with more connections, up to the first that is no link. -/
def addConnections (index : Index) : List (Connection String) → Except ClassificationError Index
  | [] => .ok index
  | connection :: rest => do
      (index.addLink (← connection.classify index.nodes)).addConnections rest

end Index

def Diagram.index (diagram : Diagram) : Except ClassificationError Index := do
  let index ← ({} : Index).addNodes diagram.nodes
  index.addConnections diagram.connections

end EntitySchema
