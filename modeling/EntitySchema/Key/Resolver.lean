/-
# EntitySchema.Key.Resolver -- the keys of entity tables

What identifies the rows of an entity's table depends on its kind: a strong
entity uses its declared keys, a subtype the keys of its root, a weak entity
its partial key and the key of its owner, an associative entity the keys of all
its participants.  The last two ask for the keys of other entities, perhaps in
a circle.

Answers are remembered in a `Session`, so a question is computed once and its
answer stays the same for the rest of the run.  `Classified.keyAmong` keeps the
ids of the entities whose keys are not being computed; an entity that is asked
for while its own key is being computed counts as keyless for that question.
Every computation takes one id away, which is why it ends.

The functions whose names end in `With` take the look-up of another entity's
key as an argument; the ones without it use `Classified.tableKey`.
-/
import EntitySchema.Key.Hierarchy
import EntitySchema.Key.Reference
import EntitySchema.Report.Journal

namespace EntitySchema

set_option autoImplicit false

/-- What a run of key questions has found and said so far. -/
structure Session where
  resolved : List (String × List Key) := []
  journal : Journal := #[]

/-- A question that may consult and extend a session. -/
abbrev Inquiry := StateM Session

namespace Inquiry

def note (level : Level) (component : Component) (message : String) : Inquiry Unit :=
  modify fun session =>
    { session with journal := session.journal.push { level, component, message } }

def remembered? (id : String) : Inquiry (Option (List Key)) := do
  return (← get).resolved.lookup id

def remember (id : String) (keys : List Key) : Inquiry Unit :=
  modify fun session => { session with resolved := (id, keys) :: session.resolved }

end Inquiry

open Inquiry

abbrev KeyLookup := Construct → Inquiry (List Key)

namespace Classified

/-! ## Owners of weak entities -/

/-- An entity that may own a weak entity, with the way it was reached. -/
structure OwnerCandidate where
  relationship : Construct
  link : Link
  owner : Construct
  deriving DecidableEq, Repr

/-- The entity that a node at a weak relationship stands for: an entity for
itself and a generalization for its superclass. -/
def ownerBehind? (d : Classified) (other : Construct) : Option Construct :=
  if other.kind.isGeneralization then (d.superclassEnd? other).map (·.2)
  else if other.kind.isEntity then some other
  else none

/-- The entities that may own a weak entity, by weak relationship and then by link. -/
def ownerCandidates (d : Classified) (weak : Construct) : List OwnerCandidate :=
  (d.neighboursOf weak.id (· == .weakRelationship)).flatMap fun (_, relationship) =>
    (d.neighbours relationship.id).filterMap fun (link, other) =>
      if other.id = weak.id then none
      else (d.ownerBehind? other).map fun owner => { relationship, link, owner }

/-- The first candidate that has a key. -/
def firstOwnerWith (lookup : KeyLookup) (weak : Construct) :
    List OwnerCandidate → Inquiry (Option KeyedEnd)
  | [] => return none
  | candidate :: rest => do
      let keys ← lookup candidate.owner
      if keys.isEmpty then firstOwnerWith lookup weak rest
      else
        note .debug .keyResolution
          ("Weak entity " ++ weak.label ++ " owned by " ++ candidate.owner.label ++ " via "
            ++ candidate.relationship.label)
        return some { node := candidate.owner, link := candidate.link, keys }

def weakOwnerWith (d : Classified) (lookup : KeyLookup) (weak : Construct) :
    Inquiry (Option KeyedEnd) :=
  firstOwnerWith lookup weak (d.ownerCandidates weak)

/-! ## Participants -/

/-- An entity reached by a link, with its key looked up. -/
def keyedEndWith (lookup : KeyLookup) (neighbour : Link × Construct) : Inquiry KeyedEnd := do
  let keys ← lookup neighbour.2
  return { node := neighbour.2, link := neighbour.1, keys }

/-- The other entities next to a node, in the order of their links. -/
def participantEnds (d : Classified) (node : Construct) : List (Link × Construct) :=
  (d.neighboursOf node.id (·.isEntity)).filter fun neighbour => neighbour.2.id != node.id

/-- The entities that take part in a relationship or an associative entity. -/
def participantsWith (d : Classified) (lookup : KeyLookup) (node : Construct) :
    Inquiry (List KeyedEnd) :=
  (d.participantEnds node).mapM (keyedEndWith lookup)

/-- The references of an associative entity to its participants; none unless
there are participants and all of them have keys. -/
def associativeReferencesWith (d : Classified) (lookup : KeyLookup) (entity : Construct) :
    Inquiry (List Reference) := do
  let ends ← d.participantsWith lookup entity
  if ends.isEmpty || ends.any (·.keys.isEmpty) then return []
  else return planReferences (d.attributeColumns entity) ends

/-! ## Table keys -/

/-- The key of an entity's table, computed from the keys of other entities. -/
def computeKeyWith (d : Classified) (lookup : KeyLookup) (entity : Construct) :
    Inquiry (List Key) := do
  let table := tableName entity.label
  match entity.kind with
  | .weakEntity =>
      match d.partialKey? entity, ← d.weakOwnerWith lookup entity with
      | some partialKey, some owner => return partialKey :: owner.keys.map (·.carriedTo table)
      | _, _ => return []
  | .associativeEntity =>
      let references ← d.associativeReferencesWith lookup entity
      return references.flatMap fun reference =>
        reference.typedColumns.map fun (column, sqlType) => { owner := table, column, sqlType }
  | _ =>
      if (d.superclassOf? entity).isSome then
        return (d.inheritedKey entity).map (·.carriedTo table)
      else return d.ownerKeys entity

/-- The key of an entity's table while only the keys of the entities in
`available` may be computed. -/
def keyAmong (d : Classified) (available : List String) (entity : Construct) :
    Inquiry (List Key) := do
  match ← remembered? entity.id with
  | some keys => return keys
  | none =>
      if _free : entity.id ∈ available then
        let keys ← d.computeKeyWith (d.keyAmong (available.erase entity.id)) entity
        remember entity.id keys
        return keys
      else
        note .warning .keyResolution
          ("Cyclic key dependency through " ++ entity.label ++ "; treating as keyless")
        return []
termination_by available.length
decreasing_by
  have := List.length_erase_of_mem _free
  have := List.length_pos_of_mem _free
  omega

def tableKey (d : Classified) (entity : Construct) : Inquiry (List Key) :=
  d.keyAmong d.ids entity

/-- The only column of an entity's key, if there is exactly one. -/
def keyColumn? (d : Classified) (entity : Construct) : Inquiry (Option Key) := do
  match ← d.tableKey entity with
  | [key] => return some key
  | _ => return none

/-- The owner of a weak entity: the first candidate that has a key. -/
def weakOwner? (d : Classified) (weak : Construct) : Inquiry (Option KeyedEnd) :=
  d.weakOwnerWith d.tableKey weak

def participants (d : Classified) (node : Construct) : Inquiry (List KeyedEnd) :=
  d.participantsWith d.tableKey node

def associativeReferences (d : Classified) (entity : Construct) : Inquiry (List Reference) :=
  d.associativeReferencesWith d.tableKey entity

/-! ## Pairs of ends -/

/-- The far ends, seen from a node, of the links that are accepted. -/
def farEnds (origin : Construct) (accepts : Link → Construct → Bool) (links : List Link) :
    List (Link × Construct) :=
  links.filterMap fun link =>
    match link.otherEnd? origin.id with
    | some other => if accepts link other then some (link, other) else none
    | none => none

/-- The entities at the far ends of the first two accepted links. -/
def keyedPair? (d : Classified) (origin : Construct) (links : List Link)
    (accepts : Link → Construct → Bool) : Inquiry (Option (KeyedEnd × KeyedEnd)) := do
  match farEnds origin accepts links with
  | [] => return none
  | [only] =>
      let _ ← keyedEndWith d.tableKey only
      return none
  | first :: second :: _ =>
      let first ← keyedEndWith d.tableKey first
      let second ← keyedEndWith d.tableKey second
      return some (first, second)

end Classified

end EntitySchema
