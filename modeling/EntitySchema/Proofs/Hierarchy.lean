/-
# EntitySchema.Proofs.Hierarchy -- roots of hierarchies without a cycle

The root above an entity is found by a bounded walk.  Where no walk up returns to
where it started (`SuperclassesAcyclic`), the walk ends at an entity that has no
superclass (`rootOf_isRoot`), so an entity and its superclass have the same root
(`rootOf_of_superclass`).
-/
import EntitySchema.Proofs.Neighbourhood
import Mathlib.Logic.Relation

namespace EntitySchema.Classified

open Relation (TransGen ReflTransGen)

set_option autoImplicit false

variable {d : Classified}

/-- The second entity is the superclass just above the first. -/
def Below (d : Classified) (lower upper : Construct) : Prop := d.superclassOf? lower = some upper

/-- No entity is above itself. -/
def SuperclassesAcyclic (d : Classified) : Prop :=
  ∀ entity ∈ d.nodes, ¬TransGen d.Below entity entity

/-- The entity at the end of the way up. -/
def IsRoot (d : Classified) (entity root : Construct) : Prop :=
  ReflTransGen d.Below entity root ∧ d.superclassOf? root = none

theorem superclassOf_spec {lower upper : Construct} (below : d.Below lower upper) :
    ∃ generalization above, d.generalizationOf? lower = some generalization ∧
      d.superclassEnd? generalization = some (above, upper) := by
  obtain ⟨generalization, found, at_⟩ := Option.bind_eq_some_iff.1 below
  obtain ⟨⟨above, _⟩, superclass, rfl⟩ := Option.map_eq_some_iff.1 at_
  exact ⟨generalization, above, found, superclass⟩

theorem Below.mem_nodes {lower upper : Construct} (below : d.Below lower upper) :
    upper ∈ d.nodes := by
  obtain ⟨_, _, _, superclass⟩ := superclassOf_spec below
  exact mem_nodes_of_mem_neighbours (superclassEnd_spec superclass).1

theorem mem_nodes_of_above {lower upper : Construct} (above : TransGen d.Below lower upper) :
    upper ∈ d.nodes := by
  cases above with
  | single below => exact below.mem_nodes
  | tail _ below => exact below.mem_nodes

/-- No entity is above itself if superclasses are drawn before what is below them. -/
theorem superclassesAcyclic_of_order
    (ordered : ∀ entity ∈ d.nodes, ∀ upper ∈ d.superclassOf? entity,
      d.nodes.idxOf upper < d.nodes.idxOf entity) : d.SuperclassesAcyclic := by
  have falls : ∀ entity upper, TransGen d.Below entity upper → entity ∈ d.nodes →
      d.nodes.idxOf upper < d.nodes.idxOf entity := by
    intro entity upper above inNodes
    induction above using TransGen.head_induction_on with
    | single below => exact ordered _ inNodes _ below
    | head below _ ih => exact Nat.lt_trans (ih below.mem_nodes) (ordered _ inNodes _ below)
  exact fun entity inNodes above => Nat.lt_irrefl _ (falls entity entity above inNodes)

/-- Two ways up end at the same root. -/
theorem IsRoot.eq {entity first second : Construct} (one : d.IsRoot entity first)
    (other : d.IsRoot entity second) : first = second := by
  obtain ⟨way, top⟩ := one
  induction way using ReflTransGen.head_induction_on with
  | refl =>
      obtain ⟨path, _⟩ := other
      cases path using ReflTransGen.head_induction_on with
      | refl => rfl
      | head below _ => simp [Below, top] at below
  | @head lower upper below _ ih =>
      refine ih ⟨?_, other.2⟩
      obtain ⟨path, last⟩ := other
      cases path using ReflTransGen.head_induction_on with
      | refl => simp [Below, last] at below
      | head first rest =>
          obtain rfl := Option.some.inj (below.symm.trans first)
          exact rest

theorem rootFrom_of_none {entity : Construct} (top : d.superclassOf? entity = none)
    (unvisited : List String) : d.rootFrom unvisited entity = entity := by
  rw [rootFrom, top]

/-- The walk ends at a root if it may visit all entities above. -/
theorem rootFrom_isRoot (acyclic : d.SuperclassesAcyclic) {unvisited : List String}
    {entity : Construct}
    (enough : ∀ upper, TransGen d.Below entity upper → upper.id ∈ unvisited) :
    d.IsRoot entity (d.rootFrom unvisited entity) := by
  induction size : unvisited.length using Nat.strongRecOn generalizing unvisited entity with
  | ind count ih =>
      cases above : d.superclassOf? entity with
      | none =>
          rw [rootFrom_of_none above]
          exact ⟨.refl, above⟩
      | some parent =>
          have below : d.Below entity parent := above
          have fresh : parent.id ∈ unvisited := enough parent (.single below)
          have shorter : (unvisited.erase parent.id).length < count := by
            have taken := List.length_erase_of_mem fresh
            have some := List.length_pos_of_mem fresh
            omega
          have stillEnough : ∀ upper, TransGen d.Below parent upper →
              upper.id ∈ unvisited.erase parent.id := by
            intro upper higher
            have apart : upper.id ≠ parent.id := by
              intro same
              have itself := eq_of_id_eq (mem_nodes_of_above higher) below.mem_nodes same
              exact acyclic parent below.mem_nodes (itself ▸ higher)
            exact (List.mem_erase_of_ne apart).2 (enough upper (.head below higher))
          obtain ⟨way, top⟩ := ih _ shorter stillEnough rfl
          rw [rootFrom, above]
          simp only [fresh, dite_true]
          exact ⟨.head below way, top⟩

theorem rootOf_isRoot (acyclic : d.SuperclassesAcyclic) {entity : Construct}
    (inNodes : entity ∈ d.nodes) : d.IsRoot entity (d.rootOf entity) := by
  refine rootFrom_isRoot acyclic fun upper higher => ?_
  have apart : upper.id ≠ entity.id := by
    intro same
    have itself := eq_of_id_eq (mem_nodes_of_above higher) inNodes same
    exact acyclic entity inNodes (itself ▸ higher)
  exact (List.mem_erase_of_ne apart).2 (id_mem_ids (mem_nodes_of_above higher))

theorem rootOf_of_none {entity : Construct} (top : d.superclassOf? entity = none) :
    d.rootOf entity = entity := rootFrom_of_none top _

/-- An entity and its superclass have the same root. -/
theorem rootOf_of_superclass (acyclic : d.SuperclassesAcyclic) {lower upper : Construct}
    (inNodes : lower ∈ d.nodes) (below : d.Below lower upper) :
    d.rootOf lower = d.rootOf upper := by
  obtain ⟨way, top⟩ := rootOf_isRoot acyclic below.mem_nodes
  exact (rootOf_isRoot acyclic inNodes).eq ⟨.head below way, top⟩

end EntitySchema.Classified
