/-
# EntitySchema.Proofs.Neighbourhood -- nodes, links and neighbours

In a classified diagram a node is known by its id (`eq_of_id_eq`), every
neighbour of a node is a node (`mem_nodes_of_mem_neighbours`), and being
neighbours over a link has no direction (`mem_neighbours_comm`).
-/
import EntitySchema.Key.Resolver
import Mathlib.Data.List.Nodup

namespace EntitySchema.Classified

set_option autoImplicit false

variable {d : Classified}

theorem eq_of_id_eq {first second : Construct} (firstIn : first ∈ d.nodes)
    (secondIn : second ∈ d.nodes) (same : first.id = second.id) : first = second :=
  List.inj_on_of_nodup_map d.ids_nodup firstIn secondIn same

theorem id_mem_ids {node : Construct} (inNodes : node ∈ d.nodes) : node.id ∈ d.ids :=
  List.mem_map_of_mem inNodes

/-- A node is found by its id. -/
theorem node?_id {node : Construct} (inNodes : node ∈ d.nodes) : d.node? node.id = some node := by
  cases found : d.node? node.id with
  | none => simpa using List.find?_eq_none.1 found node inNodes
  | some other =>
      have same : other.id = node.id := by simpa using List.find?_some found
      rw [eq_of_id_eq (List.mem_of_find?_eq_some found) inNodes same]

theorem mem_neighbours_iff {id : String} {link : Link} {other : Construct} :
    (link, other) ∈ d.neighbours id ↔ link ∈ d.links ∧ link.otherEnd? id = some other := by
  simp only [neighbours, linksOf, List.mem_filterMap, List.mem_filter, Option.map_eq_some_iff,
    Prod.mk.injEq]
  constructor
  · rintro ⟨_, ⟨mem, _⟩, _, found, rfl, rfl⟩
    exact ⟨mem, found⟩
  · rintro ⟨mem, found⟩
    refine ⟨link, ⟨mem, ?_⟩, other, found, rfl, rfl⟩
    unfold Link.otherEnd? at found
    split at found
    · simp_all [Link.touches]
    · split at found <;> simp_all [Link.touches]

theorem mem_nodes_of_mem_neighbours {id : String} {neighbour : Link × Construct}
    (mem : neighbour ∈ d.neighbours id) : neighbour.2 ∈ d.nodes := by
  obtain ⟨linkIn, found⟩ := mem_neighbours_iff.1 mem
  obtain ⟨endA, endB⟩ := d.ends_mem _ linkIn
  unfold Link.otherEnd? at found
  split at found
  · rw [← Option.some.inj found]
    exact endB
  · split at found
    · rw [← Option.some.inj found]
      exact endA
    · simp at found

/-- Two nodes are neighbours over a link in both directions. -/
theorem mem_neighbours_comm {node other : Construct} {link : Link} (nodeIn : node ∈ d.nodes)
    (mem : (link, other) ∈ d.neighbours node.id) : (link, node) ∈ d.neighbours other.id := by
  obtain ⟨linkIn, found⟩ := mem_neighbours_iff.1 mem
  obtain ⟨endA, endB⟩ := d.ends_mem _ linkIn
  refine mem_neighbours_iff.2 ⟨linkIn, ?_⟩
  unfold Link.otherEnd? at found ⊢
  split at found
  · rename_i atA
    have first : link.a = node := eq_of_id_eq endA nodeIn atA
    have second : link.b = other := Option.some.inj found
    subst first second
    by_cases loop : link.a.id = link.b.id
    · rw [if_pos loop, eq_of_id_eq endA endB loop]
    · rw [if_neg loop, if_pos rfl]
  · rename_i notAtA
    split at found
    · rename_i atB
      have first : link.b = node := eq_of_id_eq endB nodeIn atB
      have second : link.a = other := Option.some.inj found
      simp [second, first]
    · simp at found

theorem mem_neighboursOf_iff {id : String} {accepts : NodeKind → Bool} {link : Link}
    {other : Construct} :
    (link, other) ∈ d.neighboursOf id accepts ↔
      (link, other) ∈ d.neighbours id ∧ accepts other.kind = true := by
  simp [neighboursOf]

theorem mem_nodes_of_mem_neighboursOf {id : String} {accepts : NodeKind → Bool}
    {neighbour : Link × Construct} (mem : neighbour ∈ d.neighboursOf id accepts) :
    neighbour.2 ∈ d.nodes := mem_nodes_of_mem_neighbours (mem_neighboursOf_iff.1 mem).1

theorem mem_ofKinds_iff {accepts : NodeKind → Bool} {node : Construct} :
    node ∈ d.ofKinds accepts ↔ node ∈ d.nodes ∧ accepts node.kind = true := by
  simp [ofKinds]

theorem mem_ofKind_iff {kind : NodeKind} {node : Construct} :
    node ∈ d.ofKind kind ↔ node ∈ d.nodes ∧ node.kind = kind := by
  simp [ofKind, ofKinds]

/-! ## Superclasses and subtypes -/

theorem mem_subtypeEnds_iff {generalization : Construct} {link : Link} {subtype : Construct} :
    (link, subtype) ∈ d.subtypeEnds generalization ↔
      (link, subtype) ∈ d.neighbours generalization.id ∧ subtype.kind.isEntity = true ∧
        link.kind = .generalizationToSubtype := by
  simp [subtypeEnds, mem_neighboursOf_iff, and_assoc]

theorem superclassEnd_spec {generalization superclass : Construct} {link : Link}
    (found : d.superclassEnd? generalization = some (link, superclass)) :
    (link, superclass) ∈ d.neighbours generalization.id ∧ superclass.kind.isEntity = true ∧
      link.kind.isToSuperclass = true := by
  have mem := List.mem_of_find?_eq_some found
  have leads := List.find?_some found
  rw [mem_neighboursOf_iff] at mem
  exact ⟨mem.1, mem.2, leads⟩

theorem generalizationOf_spec {entity generalization : Construct}
    (found : d.generalizationOf? entity = some generalization) :
    ∃ link, (link, generalization) ∈ d.neighbours entity.id ∧
      generalization.kind.isGeneralization = true ∧ link.kind = .generalizationToSubtype := by
  obtain ⟨⟨link, _⟩, first, rfl⟩ := Option.map_eq_some_iff.1 found
  have mem := List.mem_of_find?_eq_some first
  have leads := List.find?_some first
  rw [mem_neighboursOf_iff] at mem
  exact ⟨link, mem.1, mem.2, by simpa using leads⟩

/-- An entity is a subtype of the generalization that it is found to be one of. -/
theorem mem_subtypeEnds_of_generalizationOf {entity generalization : Construct}
    (inNodes : entity ∈ d.nodes) (kind : entity.kind.isEntity = true)
    (found : d.generalizationOf? entity = some generalization) :
    ∃ link, (link, entity) ∈ d.subtypeEnds generalization := by
  obtain ⟨link, mem, _, leads⟩ := generalizationOf_spec found
  exact ⟨link, mem_subtypeEnds_iff.2 ⟨mem_neighbours_comm inNodes mem, kind, leads⟩⟩

/-- A subtype of some generalization is found to have one. -/
theorem generalizationOf_isSome_of_mem_subtypeEnds {entity generalization : Construct}
    {link : Link} (inNodes : generalization ∈ d.nodes)
    (kind : generalization.kind.isGeneralization = true)
    (mem : (link, entity) ∈ d.subtypeEnds generalization) :
    (d.generalizationOf? entity).isSome := by
  obtain ⟨next, _, leads⟩ := mem_subtypeEnds_iff.1 mem
  have back := mem_neighbours_comm inNodes next
  rw [generalizationOf?, Option.isSome_map, List.find?_isSome]
  exact ⟨(link, generalization), mem_neighboursOf_iff.2 ⟨back, kind⟩, by simpa using leads⟩

/-! ## Owners and participants -/

/-- A candidate is what stands behind a node next to a weak relationship of the entity; the entity
itself is passed over, however often it is linked. -/
theorem mem_ownerCandidates_iff {weak : Construct} {candidate : OwnerCandidate} :
    candidate ∈ d.ownerCandidates weak ↔
      ∃ link other, (link, candidate.relationship) ∈ d.neighboursOf weak.id (· == .weakRelationship) ∧
        (candidate.link, other) ∈ d.neighbours candidate.relationship.id ∧
        other.id ≠ weak.id ∧ d.ownerBehind? other = some candidate.owner := by
  obtain ⟨relationship, candidateLink, owner⟩ := candidate
  simp only [ownerCandidates, List.mem_flatMap, List.mem_filterMap, Prod.exists]
  constructor
  · rintro ⟨link, _, near, step, other, next, made⟩
    split at made
    · simp at made
    · rename_i apart
      obtain ⟨_, behind, same⟩ := Option.map_eq_some_iff.1 made
      injection same with sameRelationship sameLink sameOwner
      subst sameRelationship sameLink sameOwner
      exact ⟨link, other, near, next, apart, behind⟩
  · rintro ⟨link, other, near, next, apart, behind⟩
    exact ⟨link, relationship, near, candidateLink, other, next, by simp [apart, behind]⟩

theorem ownerBehind_spec {id : String} {link : Link} {other owner : Construct}
    (next : (link, other) ∈ d.neighbours id) (behind : d.ownerBehind? other = some owner) :
    owner ∈ d.nodes ∧ owner.kind.isEntity = true := by
  unfold ownerBehind? at behind
  split at behind
  · obtain ⟨⟨_, above⟩, found, rfl⟩ := Option.map_eq_some_iff.1 behind
    obtain ⟨mem, kind, _⟩ := superclassEnd_spec found
    exact ⟨mem_nodes_of_mem_neighbours mem, kind⟩
  · split at behind
    · rename_i kind
      rw [← Option.some.inj behind]
      exact ⟨mem_nodes_of_mem_neighbours next, kind⟩
    · simp at behind

theorem owner_spec {weak : Construct} {candidate : OwnerCandidate}
    (mem : candidate ∈ d.ownerCandidates weak) :
    candidate.owner ∈ d.nodes ∧ candidate.owner.kind.isEntity = true := by
  obtain ⟨_, _, _, next, _, behind⟩ := mem_ownerCandidates_iff.1 mem
  exact ownerBehind_spec next behind

theorem participant_spec {node : Construct} {neighbour : Link × Construct}
    (mem : neighbour ∈ d.participantEnds node) :
    neighbour.2 ∈ d.nodes ∧ neighbour.2.kind.isEntity = true := by
  have next := (List.mem_filter.1 mem).1
  exact ⟨mem_nodes_of_mem_neighboursOf next, (mem_neighboursOf_iff.1 next).2⟩

end EntitySchema.Classified
