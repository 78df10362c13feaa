/-
# EntitySchema.Diagram.Reading -- a diagram read from a document

Nodes, connections and diagrams are records of a document without further keys.
The fields are checked in the order of their declaration and every complaint is
kept; only a diagram all of whose fields are valid is searched for repeated
ids.
-/
import EntitySchema.Diagram.Basic
import EntitySchema.Value.Check

namespace EntitySchema

open Check

set_option autoImplicit false

def Node.check (value : Value) : Check (Node String) :=
  (entries "Node" value).andThen fun fields =>
    (fun id label kind sqlType nullable sqlExpression _ =>
        { id, label, kind, sqlType, nullable, sqlExpression })
      <$> required "id" text fields
      <*> required "label" text fields
      <*> required "kind" text fields
      <*> optional "sql_type" none optionalText fields
      <*> optional "nullable" false truth fields
      <*> optional "sql_expression" none optionalText fields
      <*> noExtras ["id", "label", "kind", "sql_type", "nullable", "sql_expression"] fields

/-- A connection of a document; it is plain unless it says otherwise. -/
def Connection.check (value : Value) : Check (Connection String) :=
  (entries "Connection" value).andThen fun fields =>
    (fun id a b kind _ => { id, a, b, kind })
      <$> required "id" text fields
      <*> required "a" text fields
      <*> required "b" text fields
      <*> optional "kind" ConnectionKind.plain.tag text fields
      <*> noExtras ["id", "a", "b", "kind"] fields

/-- The nodes and connections of a document of a diagram. -/
def Diagram.fields (value : Value) : Check (List (Node String) × List (Connection String)) :=
  (entries "Diagram" value).andThen fun fields =>
    (fun nodes connections _ => (nodes, connections))
      <$> optional "nodes" [] (list Node.check) fields
      <*> optional "connections" [] (list Connection.check) fields
      <*> noExtras ["nodes", "connections"] fields

def Diagram.ofFields (fields : List (Node String) × List (Connection String)) : Check Diagram :=
  match Diagram.ofParts fields.1 fields.2 with
  | .ok diagram => ok diagram
  | .error duplicate => refuse (.custom duplicate.message)

def Diagram.check (value : Value) : Check Diagram :=
  if (Diagram.fields value).complaints.isEmpty then
    (Diagram.fields value).andThen Diagram.ofFields
  else ⟨(Diagram.fields value).complaints, none⟩

def Node.ofValue (value : Value) : Except Rejection (Node String) :=
  (Node.check value).result "Node"

def Connection.ofValue (value : Value) : Except Rejection (Connection String) :=
  (Connection.check value).result "Connection"

def Diagram.ofValue (value : Value) : Except Rejection Diagram :=
  (Diagram.check value).result "Diagram"

end EntitySchema
