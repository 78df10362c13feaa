/-
# EntitySchema.Compile.Phase -- the phases of a run

A run passes through eight phases in a fixed order (`Phase.all`): tables before
the keys on them, and the tables of associative entities before the
generalizations and relationships that may refer to them.
-/
import EntitySchema.Settings.Basic
import EntitySchema.Synthesis.Attribute
import EntitySchema.Synthesis.Entity
import EntitySchema.Synthesis.Generalization
import EntitySchema.Synthesis.Relationship

namespace EntitySchema

set_option autoImplicit false

/-- A phase of a run. -/
inductive Phase where
  | tables
  | primaryKeys
  | partialKeys
  | associativeEntities
  | generalizations
  | relationships
  | multivaluedAttributes
  | derivedAttributes
  deriving DecidableEq, Repr

namespace Phase

/-- The phases in the order in which they run. -/
def all : List Phase :=
  [.tables, .primaryKeys, .partialKeys, .associativeEntities, .generalizations, .relationships,
   .multivaluedAttributes, .derivedAttributes]

def name : Phase → String
  | .tables => "tables"
  | .primaryKeys => "primary_keys"
  | .partialKeys => "partial_keys"
  | .associativeEntities => "associative_entities"
  | .generalizations => "generalizations"
  | .relationships => "relationships"
  | .multivaluedAttributes => "multivalued_attributes"
  | .derivedAttributes => "derived_attributes"

/-- What is said when a phase is done. -/
def checkpoint : Phase → String
  | .tables => "Tables Created"
  | .primaryKeys => "Primary Key Created"
  | .partialKeys => "Partial Key Created"
  | .associativeEntities => "Entity Relationship Created"
  | .generalizations => "GenSpec Created"
  | .relationships => "Relationship Created"
  | .multivaluedAttributes => "Multivalued Attribute Created"
  | .derivedAttributes => "Derived Attribute Created"

/-- What a phase yields for a diagram. -/
def synthesize (settings : Settings) (d : Classified) : Phase → Issuing Output
  | .tables => entityTables d ownedKinds
  | .primaryKeys => strongKeys d
  | .partialKeys => weakKeys d
  | .associativeEntities => entityTables d [.associativeEntity]
  | .generalizations => EntitySchema.generalizations d settings.violationMessage
  | .relationships => EntitySchema.relationships d settings.violationMessage
  | .multivaluedAttributes => EntitySchema.multivaluedAttributes d settings.surrogateKeyType
  | .derivedAttributes => EntitySchema.derivedAttributes d

end Phase

end EntitySchema
