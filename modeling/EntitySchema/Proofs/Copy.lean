/-
# EntitySchema.Proofs.Copy -- a diagram that stands in another under other ids

`Classified.Copy d e` says that `e` holds a copy of `d`: every node of `d` is in `e`
under the id that it is renamed to, and around it `e` has the copies of its
neighbours in their order and nothing else.  Links may be changed in any way that
keeps their kind and which nodes are neighbours.  The rest of `e`, and the order in
which `e` lists the copies, is left open.

What is read off the neighbours of a node is read off those of its copy: keys
that are declared, superclasses and roots, owner candidates and participants.  An id
matters only for being equal to another, so that no two nodes have one copy
(`Copy.rename_inj`) is all that is asked of the renaming.
-/
import EntitySchema.Proofs.Hierarchy
import EntitySchema.Proofs.Resolution

namespace EntitySchema

set_option autoImplicit false

def Node.renamed {κ : Type} (rename : String → String) (node : Node κ) : Node κ :=
  { node with id := rename node.id }

namespace Node

variable {κ : Type} (rename : String → String) (node : Node κ)

@[simp] theorem renamed_id : (node.renamed rename).id = rename node.id := rfl

@[simp] theorem renamed_label : (node.renamed rename).label = node.label := rfl

@[simp] theorem renamed_kind : (node.renamed rename).kind = node.kind := rfl

@[simp] theorem renamed_sqlType : (node.renamed rename).sqlType = node.sqlType := rfl

@[simp] theorem renamed_nullable : (node.renamed rename).nullable = node.nullable := rfl

@[simp] theorem renamed_sqlExpression :
    (node.renamed rename).sqlExpression = node.sqlExpression := rfl

end Node

/-! ## Links that are followed -/

/-- The link with the node that it leads to from the node with an id. -/
def Link.follow? (id : String) (link : Link) : Option (Link × Construct) :=
  (link.otherEnd? id).map fun other => (link, other)

theorem Link.touches_eq (link : Link) (id : String) :
    link.touches id = (link.otherEnd? id).isSome := by
  rw [touches, otherEnd?, Bool.beq_comm, Bool.beq_comm (a := id)]
  by_cases atA : link.a.id = id
  · simp [atA]
  · by_cases atB : link.b.id = id
    · simp [atA, atB]
    · simp [atA, atB]

/-- Where links are changed along with what they lead to, so are the neighbours. -/
theorem filterMap_follow_map {links : List Link} {f : Link → Link} {g : Construct → Construct}
    {id image : String}
    (ends : ∀ link ∈ links, (f link).otherEnd? image = (link.otherEnd? id).map g) :
    (links.map f).filterMap (Link.follow? image) =
      (links.filterMap (Link.follow? id)).map (Prod.map f g) := by
  rw [List.filterMap_map, List.map_filterMap]
  refine List.filterMap_congr fun link mem => ?_
  rw [Function.comp_apply, Link.follow?, ends link mem, Link.follow?, Option.map_map,
    Option.map_map]
  rfl

namespace Classified

theorem neighbours_eq (d : Classified) (id : String) :
    d.neighbours id = d.links.filterMap (Link.follow? id) := by
  rw [neighbours, linksOf]
  induction d.links with
  | nil => rfl
  | cons link rest ih =>
      have touches := link.touches_eq id
      cases led : link.otherEnd? id with
      | none => simpa [List.filter_cons, touches, led, Link.follow?] using ih
      | some other => simpa [List.filter_cons, touches, led, Link.follow?] using ih

theorem rootOf_mem_nodes {d : Classified} {entity : Construct} (inNodes : entity ∈ d.nodes) :
    d.rootOf entity ∈ d.nodes := by
  have onTheWay : ∀ unvisited, ∀ current ∈ d.nodes, d.rootFrom unvisited current ∈ d.nodes := by
    intro unvisited current currentIn
    fun_induction d.rootFrom unvisited current with
    | case1 => exact currentIn
    | case2 _ _ _ above _ ih => exact ih (Below.mem_nodes above)
    | case3 => exact currentIn
  exact onTheWay _ entity inNodes

/-- A copy of one diagram in another. -/
structure Copy (d e : Classified) where
  rename : String → String
  link : Link → Link
  renameLink : String → String
  rename_inj : ∀ first ∈ d.ids, ∀ second ∈ d.ids, rename first = rename second → first = second
  node_mem : ∀ node ∈ d.nodes, node.renamed rename ∈ e.nodes
  link_kind : ∀ item, (link item).kind = item.kind
  link_id : ∀ item, (link item).id = renameLink item.id
  neighbours : ∀ node ∈ d.nodes, e.neighbours (rename node.id) =
    (d.neighbours node.id).map (Prod.map link (·.renamed rename))

namespace Copy

/-- A copy under the same ids, around whose nodes nothing has changed. -/
def unchanged {d e : Classified} (node_mem : ∀ node ∈ d.nodes, node ∈ e.nodes)
    (neighbours : ∀ node ∈ d.nodes, e.neighbours node.id = d.neighbours node.id) : Copy d e where
  rename := id
  link := id
  renameLink := id
  rename_inj _ _ _ _ same := same
  node_mem := node_mem
  link_kind _ := rfl
  link_id _ := rfl
  neighbours node inNodes := (neighbours node inNodes).trans (List.map_id _).symm

def refl (d : Classified) : Copy d d := unchanged (fun _ inNodes => inNodes) fun _ _ => rfl

variable {d e : Classified} (copy : Copy d e)

attribute [simp] link_kind link_id

def node (node : Construct) : Construct := node.renamed copy.rename

@[simp] theorem node_id (node : Construct) : (copy.node node).id = copy.rename node.id := rfl

@[simp] theorem node_label (node : Construct) : (copy.node node).label = node.label := rfl

@[simp] theorem node_kind (node : Construct) : (copy.node node).kind = node.kind := rfl

@[simp] theorem node_sqlType (node : Construct) : (copy.node node).sqlType = node.sqlType := rfl

@[simp] theorem node_nullable (node : Construct) : (copy.node node).nullable = node.nullable := rfl

@[simp] theorem node_sqlExpression (node : Construct) :
    (copy.node node).sqlExpression = node.sqlExpression := rfl

def neighbour : Link × Construct → Link × Construct := Prod.map copy.link copy.node

@[simp] theorem neighbour_fst (neighbour : Link × Construct) :
    (copy.neighbour neighbour).1 = copy.link neighbour.1 := rfl

@[simp] theorem neighbour_snd (neighbour : Link × Construct) :
    (copy.neighbour neighbour).2 = copy.node neighbour.2 := rfl

/-- Nodes are told apart as their copies are. -/
theorem rename_eq_iff {first second : Construct} (firstIn : first ∈ d.nodes)
    (secondIn : second ∈ d.nodes) :
    copy.rename first.id = copy.rename second.id ↔ first.id = second.id :=
  ⟨copy.rename_inj _ (id_mem_ids firstIn) _ (id_mem_ids secondIn), congrArg copy.rename⟩

/-! ## Neighbours -/

theorem neighbours_node {item : Construct} (inNodes : item ∈ d.nodes) :
    e.neighbours (copy.node item).id = (d.neighbours item.id).map copy.neighbour :=
  copy.neighbours item inNodes

theorem neighboursOf_node {item : Construct} (inNodes : item ∈ d.nodes)
    (accepts : NodeKind → Bool) :
    e.neighboursOf (copy.node item).id accepts =
      (d.neighboursOf item.id accepts).map copy.neighbour := by
  rw [neighboursOf, copy.neighbours_node inNodes, List.filter_map]
  rfl

/-! ## Declared keys -/

variable {item : Construct} (inNodes : item ∈ d.nodes)

include inNodes

theorem keysOfKind_node (kind : NodeKind) :
    e.keysOfKind (copy.node item) kind = d.keysOfKind item kind := by
  rw [keysOfKind, copy.neighboursOf_node inNodes, List.map_map]
  rfl

theorem ownerKeys_node : e.ownerKeys (copy.node item) = d.ownerKeys item :=
  copy.keysOfKind_node inNodes _

theorem partialKey_node : e.partialKey? (copy.node item) = d.partialKey? item :=
  congrArg List.head? (copy.keysOfKind_node inNodes _)

theorem attributeColumns_node : e.attributeColumns (copy.node item) = d.attributeColumns item := by
  rw [attributeColumns, copy.neighboursOf_node inNodes, List.map_map]
  rfl

/-! ## Superclasses -/

theorem superclassEnd_node :
    e.superclassEnd? (copy.node item) = (d.superclassEnd? item).map copy.neighbour := by
  rw [superclassEnd?, copy.neighboursOf_node inNodes, List.find?_map]
  simp only [Function.comp_def, neighbour_fst, link_kind]
  rfl

theorem subtypeEnds_node :
    e.subtypeEnds (copy.node item) = (d.subtypeEnds item).map copy.neighbour := by
  rw [subtypeEnds, copy.neighboursOf_node inNodes, List.filter_map]
  simp only [Function.comp_def, neighbour_fst, link_kind]
  rfl

theorem isTotal_node : e.isTotal (copy.node item) = d.isTotal item := by
  rw [isTotal, copy.superclassEnd_node inNodes, Option.any_map]
  simp only [neighbour_fst, link_kind]
  rfl

theorem generalizationOf_node :
    e.generalizationOf? (copy.node item) = (d.generalizationOf? item).map copy.node := by
  rw [generalizationOf?, copy.neighboursOf_node inNodes, List.find?_map, Option.map_map]
  simp only [Function.comp_def, neighbour_fst, neighbour_snd, link_kind]
  rw [generalizationOf?, Option.map_map]
  rfl

theorem superclassOf_node :
    e.superclassOf? (copy.node item) = (d.superclassOf? item).map copy.node := by
  rw [superclassOf?, superclassOf?, copy.generalizationOf_node inNodes]
  cases found : d.generalizationOf? item with
  | none => rfl
  | some generalization =>
      obtain ⟨_, near, _⟩ := generalizationOf_spec found
      simp only [Option.map_some, Option.bind_some,
        copy.superclassEnd_node (mem_nodes_of_mem_neighbours near), Option.map_map]
      rfl

omit inNodes

/-! ### Ids that are left -/

/-- Two lists of ids, each without repetitions, hold the same nodes and copies. -/
structure Matches (available image : List String) : Prop where
  nodup : available.Nodup
  image_nodup : image.Nodup
  mem_iff : ∀ node ∈ d.nodes, copy.rename node.id ∈ image ↔ node.id ∈ available

variable {copy}

theorem matches_ids : copy.Matches d.ids e.ids where
  nodup := d.ids_nodup
  image_nodup := e.ids_nodup
  mem_iff node inNodes :=
    ⟨fun _ => id_mem_ids inNodes, fun _ => id_mem_ids (copy.node_mem node inNodes)⟩

theorem Matches.erase {available image : List String} (left : copy.Matches available image)
    (inNodes : item ∈ d.nodes) :
    copy.Matches (available.erase item.id) (image.erase (copy.rename item.id)) where
  nodup := left.nodup.erase _
  image_nodup := left.image_nodup.erase _
  mem_iff node nodeIn := by
    rw [left.image_nodup.mem_erase_iff, left.nodup.mem_erase_iff, left.mem_iff node nodeIn, ne_eq,
      ne_eq, copy.rename_eq_iff nodeIn inNodes]

/-- The walk up from a copy visits the copies of what the walk up visits. -/
theorem rootFrom_node {available image : List String} (left : copy.Matches available image)
    (inNodes : item ∈ d.nodes) :
    e.rootFrom image (copy.node item) = copy.node (d.rootFrom available item) := by
  fun_induction d.rootFrom available item generalizing image with
  | case1 _ _ top => rw [rootFrom, copy.superclassOf_node inNodes, top, Option.map_none]
  | case2 _ _ parent above fresh ih =>
      have parentIn := Below.mem_nodes above
      have copyFresh := (left.mem_iff parent parentIn).2 fresh
      rw [rootFrom, copy.superclassOf_node inNodes, above, Option.map_some]
      exact (dif_pos copyFresh).trans (ih (left.erase parentIn) parentIn)
  | case3 _ _ parent above visited =>
      have copyVisited := mt (left.mem_iff parent (Below.mem_nodes above)).1 visited
      rw [rootFrom, copy.superclassOf_node inNodes, above, Option.map_some]
      exact dif_neg copyVisited

variable (copy)

include inNodes

theorem rootOf_node : e.rootOf (copy.node item) = copy.node (d.rootOf item) :=
  rootFrom_node (matches_ids.erase inNodes) inNodes

theorem inheritedKey_node : e.inheritedKey (copy.node item) = d.inheritedKey item := by
  rw [inheritedKey, inheritedKey, copy.superclassOf_node inNodes, Option.isSome_map,
    copy.rootOf_node inNodes, copy.ownerKeys_node (rootOf_mem_nodes inNodes)]

theorem superclassKeys_node : e.superclassKeys (copy.node item) = d.superclassKeys item := by
  rw [superclassKeys, superclassKeys, copy.superclassEnd_node inNodes]
  cases found : d.superclassEnd? item with
  | none => rfl
  | some above =>
      have aboveIn := mem_nodes_of_mem_neighbours (superclassEnd_spec found).1
      simp only [Option.map_some, neighbour_snd, copy.rootOf_node aboveIn,
        copy.ownerKeys_node (rootOf_mem_nodes aboveIn)]

/-! ## Owners and participants -/

def candidate (candidate : OwnerCandidate) : OwnerCandidate :=
  { relationship := copy.node candidate.relationship, link := copy.link candidate.link,
    owner := copy.node candidate.owner }

theorem ownerBehind_node :
    e.ownerBehind? (copy.node item) = (d.ownerBehind? item).map copy.node := by
  unfold ownerBehind?
  rw [node_kind, copy.superclassEnd_node inNodes]
  split
  · rw [Option.map_map, Option.map_map]
    rfl
  · split <;> rfl

/-- A copy has the same candidates for an owner in the same order, so that the first one with a key
is the copy of the first one with a key. -/
theorem ownerCandidates_node :
    e.ownerCandidates (copy.node item) = (d.ownerCandidates item).map copy.candidate := by
  rw [ownerCandidates, ownerCandidates, copy.neighboursOf_node inNodes, List.flatMap_map,
    List.map_flatMap]
  refine List.flatMap_congr fun neighbour near => ?_
  have relationshipIn := mem_nodes_of_mem_neighboursOf near
  simp only [neighbour_snd, copy.neighbours_node relationshipIn, List.filterMap_map,
    List.map_filterMap]
  refine List.filterMap_congr fun neighbour next => ?_
  obtain ⟨link, other⟩ := neighbour
  have otherIn := mem_nodes_of_mem_neighbours next
  simp only [Function.comp_apply, neighbour_snd, neighbour_fst, node_id,
    copy.rename_eq_iff otherIn inNodes, copy.ownerBehind_node otherIn]
  split
  · rfl
  · rw [Option.map_map, Option.map_map]
    rfl

theorem participantEnds_node :
    e.participantEnds (copy.node item) = (d.participantEnds item).map copy.neighbour := by
  rw [participantEnds, participantEnds, copy.neighboursOf_node inNodes, List.filter_map]
  refine congrArg _ (List.filter_congr fun neighbour near => ?_)
  have otherIn := mem_nodes_of_mem_neighboursOf near
  simp only [Function.comp_apply, neighbour_snd, node_id, bne, beq_eq_decide,
    copy.rename_eq_iff otherIn inNodes]

theorem ownerOf_node : e.ownerOf? (copy.node item) = (d.ownerOf? item).map copy.node := by
  rw [ownerOf?, ownerOf?, copy.neighboursOf_node inNodes, List.head?_map, Option.map_map,
    Option.map_map]
  rfl

omit inNodes

/-! ## Ends and references -/

/-- The copy of an entity reached by a link; its keys are the same. -/
def place (place : KeyedEnd) : KeyedEnd :=
  { node := copy.node place.node, link := copy.link place.link, keys := place.keys }

@[simp] theorem place_node (place : KeyedEnd) :
    (copy.place place).node = copy.node place.node := rfl

@[simp] theorem place_link (place : KeyedEnd) :
    (copy.place place).link = copy.link place.link := rfl

@[simp] theorem place_keys (place : KeyedEnd) : (copy.place place).keys = place.keys := rfl

@[simp] theorem place_table (place : KeyedEnd) : (copy.place place).table = place.table := rfl

@[simp] theorem place_columns (place : KeyedEnd) : (copy.place place).columns = place.columns := rfl

/-- The copy of a reference; its columns are the same. -/
def reference (reference : Reference) : Reference :=
  { target := copy.place reference.target, columns := reference.columns }

@[simp] theorem reference_target (reference : Reference) :
    (copy.reference reference).target = copy.place reference.target := rfl

@[simp] theorem reference_columns (reference : Reference) :
    (copy.reference reference).columns = reference.columns := rfl

@[simp] theorem reference_refTable (reference : Reference) :
    (copy.reference reference).refTable = reference.refTable := rfl

@[simp] theorem reference_refColumns (reference : Reference) :
    (copy.reference reference).refColumns = reference.refColumns := rfl

@[simp] theorem reference_typedColumns (reference : Reference) :
    (copy.reference reference).typedColumns = reference.typedColumns := rfl

theorem planReferences_place (taken : List String) (ends : List KeyedEnd) :
    planReferences taken (ends.map copy.place) =
      (planReferences taken ends).map copy.reference := by
  induction ends generalizing taken with
  | nil => rfl
  | cons target rest ih =>
      by_cases keyless : target.keys.isEmpty
      · simp only [List.map_cons, planReferences, place_keys, if_pos keyless, ih]
      · simp only [List.map_cons, planReferences, place_keys, if_neg keyless, ih]
        rfl

theorem referencesOf_node {item : Construct} (inNodes : item ∈ d.nodes) (ends : List KeyedEnd) :
    e.referencesOf (copy.node item) (ends.map copy.place) =
      (d.referencesOf item ends).map copy.reference := by
  have keyless : (ends.map copy.place).any (·.keys.isEmpty) = ends.any (·.keys.isEmpty) := by
    rw [List.any_map]
    rfl
  rw [referencesOf, referencesOf, List.isEmpty_map, keyless, copy.attributeColumns_node inNodes,
    copy.planReferences_place]
  split <;> rfl

/-- References make the same key in the table of an entity and in that of its copy. -/
theorem associativeKeyOf_node (item : Construct) (references : List Reference) :
    associativeKeyOf (copy.node item) (references.map copy.reference) =
      associativeKeyOf item references := by
  simp [associativeKeyOf, List.flatMap_map]

end Copy

end Classified

end EntitySchema
