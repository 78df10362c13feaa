/-
# EntitySchema.Diagram.Kind -- the kinds of nodes and connections

A diagram names the kind of every node and connection by a tag.  `NodeKind` and
`ConnectionKind` are the closed sets of kinds behind the tags; `tag` writes a
kind and `ofTag?` reads one, and the two are inverse (`NodeKind.ofTag?_tag`,
`NodeKind.tag_of_ofTag?`, and the same for connections).
-/

namespace EntitySchema

set_option autoImplicit false

/-- What a node of a diagram stands for. -/
inductive NodeKind where
  | strongEntity
  | weakEntity
  | attribute
  | keyAttribute
  | partialKeyAttribute
  | derivedAttribute
  | multivaluedAttribute
  | relationship
  | weakRelationship
  | associativeEntity
  | generalizationDisjoint
  | generalizationOverlap
  deriving DecidableEq, Repr

namespace NodeKind

/-- Every kind, in the order in which kinds are listed and counted. -/
def all : List NodeKind :=
  [.strongEntity, .weakEntity, .attribute, .keyAttribute, .partialKeyAttribute, .derivedAttribute,
   .multivaluedAttribute, .relationship, .weakRelationship, .associativeEntity,
   .generalizationDisjoint, .generalizationOverlap]

theorem mem_all (kind : NodeKind) : kind ∈ all := by cases kind <;> decide

def tag : NodeKind → String
  | .strongEntity => "StrongEntity"
  | .weakEntity => "WeakEntity"
  | .attribute => "Attribute"
  | .keyAttribute => "KeyAttribute"
  | .partialKeyAttribute => "PartialKeyAttribute"
  | .derivedAttribute => "DerivedAttribute"
  | .multivaluedAttribute => "MultivaluedAttribute"
  | .relationship => "Relationship"
  | .weakRelationship => "WeakRelationship"
  | .associativeEntity => "AssociativeEntity"
  | .generalizationDisjoint => "GeneralizationDisjoint"
  | .generalizationOverlap => "GeneralizationOverlap"

/-- The kind a tag names, if it names one. -/
def ofTag? (tag : String) : Option NodeKind := all.find? (·.tag == tag)

theorem ofTag?_tag (kind : NodeKind) : ofTag? kind.tag = some kind := by cases kind <;> decide

theorem tag_of_ofTag? {tag : String} {kind : NodeKind} (found : ofTag? tag = some kind) :
    kind.tag = tag := by
  simpa using List.find?_some found

/-- Kinds that stand for a table. -/
def isEntity : NodeKind → Bool
  | .strongEntity | .weakEntity | .associativeEntity => true
  | _ => false

/-- Kinds of attributes that become columns of the table they hang off. -/
def isStored : NodeKind → Bool
  | .attribute | .keyAttribute | .partialKeyAttribute => true
  | _ => false

/-- Kinds that join a superclass to its subtypes. -/
def isGeneralization : NodeKind → Bool
  | .generalizationDisjoint | .generalizationOverlap => true
  | _ => false

end NodeKind

/-- How a connection is drawn; the cardinality kinds label the end that they
touch. -/
inductive ConnectionKind where
  | plain
  | singleLineToOne
  | singleLineToMany
  | doubleLineToOne
  | doubleLineToMany
  | singleLineGeneralization
  | doubleLineGeneralization
  | generalizationToSubtype
  deriving DecidableEq, Repr

namespace ConnectionKind

def all : List ConnectionKind :=
  [.plain, .singleLineToOne, .singleLineToMany, .doubleLineToOne, .doubleLineToMany,
   .singleLineGeneralization, .doubleLineGeneralization, .generalizationToSubtype]

theorem mem_all (kind : ConnectionKind) : kind ∈ all := by cases kind <;> decide

def tag : ConnectionKind → String
  | .plain => "Plain"
  | .singleLineToOne => "SingleLineToOne"
  | .singleLineToMany => "SingleLineToMany"
  | .doubleLineToOne => "DoubleLineToOne"
  | .doubleLineToMany => "DoubleLineToMany"
  | .singleLineGeneralization => "SingleLineGeneralization"
  | .doubleLineGeneralization => "DoubleLineGeneralization"
  | .generalizationToSubtype => "GeneralizationToSubtype"

def ofTag? (tag : String) : Option ConnectionKind := all.find? (·.tag == tag)

theorem ofTag?_tag (kind : ConnectionKind) : ofTag? kind.tag = some kind := by
  cases kind <;> decide

theorem tag_of_ofTag? {tag : String} {kind : ConnectionKind} (found : ofTag? tag = some kind) :
    kind.tag = tag := by
  simpa using List.find?_some found

/-- At most one partner at this end. -/
def isToOne : ConnectionKind → Bool
  | .singleLineToOne | .doubleLineToOne => true
  | _ => false

/-- Any number of partners at this end. -/
def isToMany : ConnectionKind → Bool
  | .singleLineToMany | .doubleLineToMany => true
  | _ => false

/-- Kinds that label an end with a cardinality. -/
def isCardinality (kind : ConnectionKind) : Bool := kind.isToOne || kind.isToMany

/-- Total participation, drawn as a double line. -/
def isDouble : ConnectionKind → Bool
  | .doubleLineToOne | .doubleLineToMany | .doubleLineGeneralization => true
  | _ => false

/-- Kinds that lead from a generalization to its superclass. -/
def isToSuperclass : ConnectionKind → Bool
  | .singleLineGeneralization | .doubleLineGeneralization => true
  | _ => false

end ConnectionKind

end EntitySchema
