/-
# EntitySchema.Diagram.Loading -- a diagram loaded from a file

A file holds the document of a diagram.  A document that counts as nothing is
the document without fields, so an empty file holds the empty diagram.
-/
import EntitySchema.Diagram.Reading
import EntitySchema.Yaml.Document

namespace EntitySchema

set_option autoImplicit false

/-- Why a file does not give a diagram. -/
inductive LoadError where
  /-- There is no such file. -/
  | missing
  | unreadable (fault : Yaml.Fault)
  | rejected (rejection : Rejection)

def Diagram.ofDocument (value : Value) : Except LoadError Diagram :=
  match Diagram.ofValue (if value.isVoid then .record [] else value) with
  | .ok diagram => .ok diagram
  | .error rejection => .error (.rejected rejection)

def Diagram.load (content : Option ByteArray) : Except LoadError Diagram :=
  match content.map Yaml.ofBytes with
  | none => .error .missing
  | some (.error fault) => .error (.unreadable fault)
  | some (.ok value) => Diagram.ofDocument value

end EntitySchema
