/-
# EntitySchema.Key.Hierarchy -- declared keys and the keys of superclasses

An entity declares keys by its key attributes.  A generalization joins one
superclass to its subtypes; the entity at the top of the chain of superclasses
is the root, whose declared keys all entities below it inherit
(`Classified.inheritedKey`).

Chains may be cyclic.  `Classified.rootFrom` keeps the ids that have not been
visited and stops before the first superclass that has; every step takes one id
away, so the walk ends.
-/
import EntitySchema.Key.Basic

namespace EntitySchema.Classified

set_option autoImplicit false

/-! ## Declared keys -/

/-- The key columns that the attributes of one kind make, in the order of their links. -/
def keysOfKind (d : Classified) (entity : Construct) (kind : NodeKind) : List Key :=
  (d.neighboursOf entity.id (· == kind)).map fun neighbour => .ofAttribute entity neighbour.2

/-- The declared key columns of an entity; several form a composite key. -/
def ownerKeys (d : Classified) (entity : Construct) : List Key := d.keysOfKind entity .keyAttribute

def partialKey? (d : Classified) (entity : Construct) : Option Key :=
  (d.keysOfKind entity .partialKeyAttribute).head?

/-- The names of the columns that the attributes of a node occupy. -/
def attributeColumns (d : Classified) (node : Construct) : List String :=
  (d.neighboursOf node.id (·.isStored)).map fun neighbour => columnName neighbour.2.label

/-! ## Superclasses -/

/-- The superclass of a generalization, with the link that leads to it. -/
def superclassEnd? (d : Classified) (generalization : Construct) : Option (Link × Construct) :=
  (d.neighboursOf generalization.id (·.isEntity)).find? (·.1.kind.isToSuperclass)

/-- The subtypes of a generalization, each with the link that leads to it. -/
def subtypeEnds (d : Classified) (generalization : Construct) : List (Link × Construct) :=
  (d.neighboursOf generalization.id (·.isEntity)).filter (·.1.kind == .generalizationToSubtype)

def subtypesOf (d : Classified) (generalization : Construct) : List Construct :=
  (d.subtypeEnds generalization).map (·.2)

/-- Whether every instance of the superclass belongs to a subtype. -/
def isTotal (d : Classified) (generalization : Construct) : Bool :=
  (d.superclassEnd? generalization).any (·.1.kind == .doubleLineGeneralization)

/-- The generalization that an entity is a subtype of. -/
def generalizationOf? (d : Classified) (entity : Construct) : Option Construct :=
  ((d.neighboursOf entity.id (·.isGeneralization)).find?
    (·.1.kind == .generalizationToSubtype)).map (·.2)

/-- The superclass just above an entity. -/
def superclassOf? (d : Classified) (entity : Construct) : Option Construct :=
  (d.generalizationOf? entity).bind fun generalization =>
    (d.superclassEnd? generalization).map (·.2)

/-- The last entity on the way up from `current` through ids that are not yet visited. -/
def rootFrom (d : Classified) (unvisited : List String) (current : Construct) : Construct :=
  match d.superclassOf? current with
  | none => current
  | some parent =>
      if _fresh : parent.id ∈ unvisited then d.rootFrom (unvisited.erase parent.id) parent
      else current
termination_by unvisited.length
decreasing_by
  have := List.length_erase_of_mem _fresh
  have := List.length_pos_of_mem _fresh
  omega

/-- The topmost superclass above an entity, which is the entity itself if it has none. -/
def rootOf (d : Classified) (entity : Construct) : Construct :=
  d.rootFrom (d.ids.erase entity.id) entity

/-- The keys an entity inherits from its root; none if it is no subtype. -/
def inheritedKey (d : Classified) (entity : Construct) : List Key :=
  if (d.superclassOf? entity).isSome then d.ownerKeys (d.rootOf entity) else []

/-- The keys of the root above a generalization. -/
def superclassKeys (d : Classified) (generalization : Construct) : List Key :=
  match d.superclassEnd? generalization with
  | some (_, superclass) => d.ownerKeys (d.rootOf superclass)
  | none => []

end EntitySchema.Classified
