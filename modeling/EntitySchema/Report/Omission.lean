/-
# EntitySchema.Report.Omission -- constructs that are left out

A construct that has no form in the schema is left out and the run goes on.
`Omission` lists the reasons; each is worded once, in `Omission.failure`.  What
a run keeps of an omission is an `Issue`.
-/
import EntitySchema.Classified.Basic
import EntitySchema.Name
import EntitySchema.Report.Failure

namespace EntitySchema

open EntitySchema.Text

set_option autoImplicit false

/-- A construct that was left out without ending the run. -/
structure Issue where
  kind : String
  pass : String
  message : String
  nodeId : Option String := none
  connectionId : Option String := none
  deriving DecidableEq, Repr

def Failure.issue (failure : Failure) : Issue :=
  { kind := failure.errorKind, pass := failure.place.pass, message := failure.message,
    nodeId := failure.place.nodeId, connectionId := failure.place.connectionId }

/-- Why a construct is left out. -/
inductive Omission where
  | strongWithoutKey (entity : Construct)
  | weakWithoutPartialKey (entity : Construct)
  | weakWithoutOwner (entity : Construct)
  | noSuperclass (generalization : Construct)
  | noSubtypes (generalization : Construct)
  | superclassWithoutKey (generalization superclass : Construct)
  | subtypeNotStrong (generalization subtype : Construct) (link : Link)
  | superclassKeyUnusable (generalization : Construct)
  | unsupportedCardinality (relationship : Construct) (ends : List ConnectionKind)
  | participantsWithoutKey (relationship : Construct) (tables : List String)
  | associativeWithoutKey (entity : Construct)
  | orphanMultivalued (item : Construct)
  | ownerWithoutKey (item owner : Construct)
  | orphanDerived (item : Construct)
  | noExpression (item : Construct)
  deriving DecidableEq, Repr

/-- How a generalization is referred to: by its label, or by its id if that is empty. -/
def generalizationName (generalization : Construct) : String :=
  if generalization.label.isEmpty then generalization.id else generalization.label

namespace Omission

/-- A missing key, found while a pass works on a node. -/
def keyless (pass : String) (node : Construct) (message : String) : Failure :=
  { kind := .missingOwnerKey, message, place := { pass, nodeId := some node.id } }

/-- A construct without a form in the schema, found while a pass works on a node. -/
def skipped (pass : String) (node : Construct) (errorKind message : String)
    (connectionId : Option String := none) : Failure :=
  { kind := .skippedConstruct, message, place := { pass, nodeId := some node.id, connectionId },
    errorKind }

/-- The failure that an omission is reported as. -/
def failure : Omission → Failure
  | .strongWithoutKey entity =>
      keyless "primary_keys" entity
        ("Strong entity " ++ tableName entity.label ++ " has no key attribute; primary key omitted")
  | .weakWithoutPartialKey entity =>
      keyless "partial_keys" entity
        ("Weak entity " ++ tableName entity.label ++ " has no partial key attribute")
  | .weakWithoutOwner entity =>
      keyless "partial_keys" entity
        ("Weak entity " ++ tableName entity.label ++ " has no owner with a resolvable key")
  | .noSuperclass generalization =>
      skipped "generalizations" generalization "incomplete_generalization"
        ("Generalization " ++ generalizationName generalization
          ++ " has no superclass connector; no rules emitted")
  | .noSubtypes generalization =>
      skipped "generalizations" generalization "incomplete_generalization"
        ("Generalization " ++ generalizationName generalization
          ++ " has no subtypes; no rules emitted")
  | .superclassWithoutKey generalization superclass =>
      keyless "generalizations" generalization
        ("Superclass " ++ tableName superclass.label ++ " of " ++ generalizationName generalization
          ++ " has no resolvable key")
  | .subtypeNotStrong generalization subtype link =>
      skipped "generalizations" subtype "unsupported_subtype"
        ("Subtype " ++ tableName subtype.label ++ " of " ++ generalizationName generalization
          ++ " is not a strong entity; inheritance key omitted")
        (some link.id)
  | .superclassKeyUnusable generalization =>
      keyless "generalizations" generalization
        ("Superclass of " ++ generalizationName generalization ++ " has no usable key column")
  | .unsupportedCardinality relationship ends =>
      skipped "relationships" relationship "unsupported_cardinality"
        ("Relationship " ++ relationship.label ++ " has unsupported cardinality pattern "
          ++ showList (ends.map (·.tag)))
  | .participantsWithoutKey relationship tables =>
      keyless "relationships" relationship
        ("Relationship " ++ relationship.label ++ ": no key resolves for " ++ showList tables)
  | .associativeWithoutKey entity =>
      keyless "relationships" entity
        ("Associative entity " ++ tableName entity.label
          ++ " has a participant without a resolvable key")
  | .orphanMultivalued item =>
      skipped "multivalued_attributes" item "orphan_attribute"
        ("Multivalued attribute " ++ item.label ++ " is not connected to an entity")
  | .ownerWithoutKey item owner =>
      keyless "multivalued_attributes" item
        ("Owner " ++ tableName owner.label ++ " of multivalued attribute " ++ item.label
          ++ " has no resolvable key")
  | .orphanDerived item =>
      skipped "derived_attributes" item "orphan_attribute"
        ("Derived attribute " ++ item.label ++ " is not connected to an entity")
  | .noExpression item =>
      skipped "derived_attributes" item "missing_expression"
        ("Derived attribute " ++ item.label ++ " carries no SQL expression")

def issue (omission : Omission) : Issue := omission.failure.issue

end Omission

end EntitySchema
