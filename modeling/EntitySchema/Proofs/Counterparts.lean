/-
# EntitySchema.Proofs.Counterparts -- a copy contributes what its original does

Where the table of a diagram and that of a diagram with a copy of it give the same
keys (`Copy.Carries`), a copied construct makes the same statements and the same
triggers as its original, and where the original is left out the copy is left out for the
same reason (`Copy.Copies`).  There is one lemma for each construct.

Relationships and views depend on the ones before them.  The columns that have been
reserved are related as memos are (`Copy.Tracks`), and the names of views that are in
use may be joined by any that no view of the diagram has
(`copies_viewSketches`).
-/
import EntitySchema.Proofs.Mirroring
import EntitySchema.Proofs.Rendition

namespace EntitySchema

set_option autoImplicit false

/-! ## Contents and omissions -/

/-- What becomes of a part: a statement, or a trigger. -/
def Part.content : Part → Statement ⊕ TriggerPlan
  | .plain statement => .inl statement
  | .reference _ _ key => .inl (.addForeignKey key)
  | .trigger plan => .inr plan

namespace Part

@[simp] theorem content_plain (statement : Statement) :
    (plain statement).content = .inl statement := rfl

@[simp] theorem content_reference (site : Site) (target : Construct) (key : ForeignKey) :
    (reference site target key).content = .inl (.addForeignKey key) := rfl

@[simp] theorem content_trigger (plan : TriggerPlan) : (trigger plan).content = .inr plan := rfl

@[simp] theorem content_of (site : Site) (target : Construct) (statement : Statement) :
    (of site target statement).content = .inl statement := by
  cases statement <;> rfl

theorem map_content_of (site : Site) (target : Construct) (statements : List Statement) :
    (statements.map (of site target)).map content = statements.map .inl := by
  simp [Function.comp_def]

end Part

/-- A generalization that an omission speaks of is one of the diagram, and a subtype that
it speaks of is next to it. -/
def Omission.Within (d : Classified) : Omission → Prop
  | .noSuperclass generalization | .noSubtypes generalization
  | .superclassWithoutKey generalization _ | .superclassKeyUnusable generalization =>
      generalization ∈ d.nodes ∧ generalization.kind.isGeneralization = true
  | .subtypeNotStrong generalization subtype link =>
      (generalization ∈ d.nodes ∧ generalization.kind.isGeneralization = true) ∧
        (link, subtype) ∈ d.neighbours generalization.id
  | _ => True

namespace Classified

/-- The columns that are reserved after some relationships. -/
def reservedAfter (d : Classified) (keys : KeyTable) (reserved : Reservations) :
    List Construct → Reservations
  | [] => reserved
  | node :: rest => d.reservedAfter keys (d.relationshipSketch keys reserved node).2 rest

theorem relationshipSketches_append (d : Classified) (keys : KeyTable) (reserved : Reservations)
    (items more : List Construct) :
    d.relationshipSketches keys reserved (items ++ more) =
      d.relationshipSketches keys reserved items ++
        d.relationshipSketches keys (d.reservedAfter keys reserved items) more := by
  induction items generalizing reserved with
  | nil => rfl
  | cons item rest ih =>
      rw [List.cons_append, relationshipSketches, relationshipSketches, reservedAfter, ih,
        List.cons_append]

/-- The names of views that are in use after some derived attributes. -/
def viewsAfter (d : Classified) (used : List String) : List Construct → List String
  | [] => used
  | item :: rest =>
      match d.ownerOf? item with
      | none => d.viewsAfter used rest
      | some owner =>
          match queryOf? item with
          | none => d.viewsAfter used rest
          | some _ => d.viewsAfter (viewName used item owner :: used) rest

theorem mem_viewsAfter_of_mem {d : Classified} {used : List String} {items : List Construct}
    {name : String} (mem : name ∈ used) : name ∈ d.viewsAfter used items := by
  fun_induction d.viewsAfter used items with
  | case1 => exact mem
  | case2 _ _ _ _ ih | case3 _ _ _ _ _ _ ih => exact ih mem
  | case4 _ _ _ _ _ _ _ ih => exact ih (List.mem_cons_of_mem _ mem)

theorem viewSketches_append (d : Classified) (used : List String) (items more : List Construct) :
    d.viewSketches used (items ++ more) =
      d.viewSketches used items ++ d.viewSketches (d.viewsAfter used items) more := by
  fun_induction d.viewsAfter used items with
  | case1 => rfl
  | case2 used item rest orphan ih => simp only [List.cons_append, viewSketches, orphan, ih]
  | case3 used item rest owner owned none ih =>
      simp only [List.cons_append, viewSketches, owned, none, ih]
  | case4 used item rest owner owned query asked ih =>
      simp only [List.cons_append, viewSketches, owned, asked, ih]

/-- A name that has come into use is that of a view. -/
theorem exists_of_mem_viewsAfter {d : Classified} {used : List String} {items : List Construct}
    {name : String} (mem : name ∈ d.viewsAfter used items) :
    name ∈ used ∨ ∃ query, ∃ sketch ∈ d.viewSketches used items,
      .plain (.createView name query) ∈ sketch.parts := by
  fun_induction d.viewsAfter used items with
  | case1 => exact .inl mem
  | case2 used item rest orphan ih =>
      refine (ih mem).imp_right fun ⟨query, sketch, inViews, made⟩ => ⟨query, sketch, ?_, made⟩
      simp only [viewSketches, orphan]
      exact List.mem_cons_of_mem _ inViews
  | case3 used item rest owner owned none ih =>
      refine (ih mem).imp_right fun ⟨query, sketch, inViews, made⟩ => ⟨query, sketch, ?_, made⟩
      simp only [viewSketches, owned, none]
      exact List.mem_cons_of_mem _ inViews
  | case4 used item rest owner owned query asked ih =>
      simp only [viewSketches, owned, asked]
      rcases ih mem with among | ⟨later, sketch, inViews, made⟩
      · rcases List.mem_cons.1 among with rfl | known
        · exact .inr ⟨query, _, List.mem_cons_self, List.mem_singleton.2 rfl⟩
        · exact .inl known
      · exact .inr ⟨later, sketch, List.mem_cons_of_mem _ inViews, made⟩

end Classified

namespace Classified.Copy

variable {d e : Classified} (copy : Copy d e)

def omission : Omission → Omission
  | .strongWithoutKey entity => .strongWithoutKey (copy.node entity)
  | .weakWithoutPartialKey entity => .weakWithoutPartialKey (copy.node entity)
  | .weakWithoutOwner entity => .weakWithoutOwner (copy.node entity)
  | .noSuperclass generalization => .noSuperclass (copy.node generalization)
  | .noSubtypes generalization => .noSubtypes (copy.node generalization)
  | .superclassWithoutKey generalization superclass =>
      .superclassWithoutKey (copy.node generalization) (copy.node superclass)
  | .subtypeNotStrong generalization subtype link =>
      .subtypeNotStrong (copy.node generalization) (copy.node subtype) (copy.link link)
  | .superclassKeyUnusable generalization => .superclassKeyUnusable (copy.node generalization)
  | .unsupportedCardinality relationship ends =>
      .unsupportedCardinality (copy.node relationship) ends
  | .participantsWithoutKey relationship tables =>
      .participantsWithoutKey (copy.node relationship) tables
  | .associativeWithoutKey entity => .associativeWithoutKey (copy.node entity)
  | .orphanMultivalued item => .orphanMultivalued (copy.node item)
  | .ownerWithoutKey item owner => .ownerWithoutKey (copy.node item) (copy.node owner)
  | .orphanDerived item => .orphanDerived (copy.node item)
  | .noExpression item => .noExpression (copy.node item)

/-- Two issues about the same omission, the second about copies. -/
def CopiesIssue (issue image : Issue) : Prop :=
  ∃ omission : Omission,
    omission.Within d ∧ omission.issue = issue ∧ (copy.omission omission).issue = image

/-- Every id is that of its copy. -/
structure KeepsIds : Prop where
  rename : ∀ id, copy.rename id = id
  renameLink : ∀ id, copy.renameLink id = id

variable {copy} in
theorem KeepsIds.node_eq (keeps : copy.KeepsIds) (node : Construct) : copy.node node = node := by
  rw [Copy.node, Node.renamed, keeps.rename]

variable {copy} in
/-- Where no id is changed an issue is its own copy. -/
theorem KeepsIds.issue_eq (keeps : copy.KeepsIds) {issue image : Issue}
    (copied : copy.CopiesIssue issue image) : image = issue := by
  obtain ⟨omission, _, rfl, rfl⟩ := copied
  cases omission with
  | subtypeNotStrong generalization subtype link =>
      simp only [Copy.omission, keeps.node_eq, Omission.issue, Omission.failure, link_id,
        keeps.renameLink]
  | _ => simp only [Copy.omission, keeps.node_eq]

variable {copy} in
theorem KeepsIds.issues_eq (keeps : copy.KeepsIds) {issues images : List Issue}
    (copied : List.Forall₂ copy.CopiesIssue issues images) : images = issues := by
  have same := copied.imp fun _ _ copiesIssue => (keeps.issue_eq copiesIssue).symm
  exact (List.forall₂_eq_eq_eq ▸ same).symm

/-- The image has the same content, and issues about the same omissions. -/
structure Copies (sketch image : Sketch) : Prop where
  content : image.parts.map Part.content = sketch.parts.map Part.content
  issues : List.Forall₂ copy.CopiesIssue sketch.issues image.issues

variable {copy}

theorem copies_of_parts {parts image : List Part}
    (same : image.map Part.content = parts.map Part.content) :
    copy.Copies { parts } { parts := image } := ⟨same, .nil⟩

theorem copies_of_statements {statements : List Statement} {site imageSite : Site}
    {target imageTarget : Construct} :
    copy.Copies { parts := statements.map (.of site target) }
      { parts := statements.map (.of imageSite imageTarget) } :=
  copies_of_parts (by rw [Part.map_content_of, Part.map_content_of])

theorem copies_omission (omission : Omission) (inDiagram : omission.Within d) :
    copy.Copies omission.sketch (copy.omission omission).sketch :=
  ⟨rfl, .cons ⟨omission, inDiagram, rfl, rfl⟩ .nil⟩

theorem copies_concat {sketches images : List Sketch}
    (copied : List.Forall₂ copy.Copies sketches images) :
    copy.Copies (.concat sketches) (.concat images) := by
  induction copied with
  | nil => exact ⟨rfl, .nil⟩
  | cons head _ ih =>
      constructor
      · simp only [Sketch.concat, List.flatMap_cons, List.map_append] at ih ⊢
        rw [head.content, ih.content]
      · exact List.rel_append head.issues ih.issues

theorem copies_map {nodes : List Construct} {draw image : Construct → Sketch}
    (each : ∀ node ∈ nodes, copy.Copies (draw node) (image (copy.node node))) :
    List.Forall₂ copy.Copies (nodes.map draw) ((nodes.map copy.node).map image) := by
  rw [List.map_map, List.forall₂_map_left_iff, List.forall₂_map_right_iff]
  exact List.forall₂_same.2 each

/-! ## Keys and ends -/

variable (copy) in
/-- The second table gives the copies the keys of the originals. -/
def Carries (keys image : KeyTable) : Prop := ∀ node ∈ d.nodes, image (copy.node node) = keys node

theorem referenceColumns_reference (references : List Reference) :
    referenceColumns (references.map copy.reference) = referenceColumns references := by
  rw [referenceColumns, List.flatMap_map]
  rfl

theorem content_junctionParts_reference (site imageSite : Site) (table : String)
    (references : List Reference) :
    (junctionParts imageSite table (references.map copy.reference)).map Part.content =
      (junctionParts site table references).map Part.content := by
  simp only [junctionParts, List.mapIdx_eq_zipIdx_map, List.zipIdx_map, List.map_append,
    List.map_map, List.flatMap_map]
  rfl

section Reading

variable {keys image : KeyTable} (carries : copy.Carries keys image)

include carries

theorem endAt_neighbour {neighbour : Link × Construct} (inNodes : neighbour.2 ∈ d.nodes) :
    image.endAt (copy.neighbour neighbour) = copy.place (keys.endAt neighbour) := by
  rw [KeyTable.endAt, neighbour_snd, carries _ inNodes]
  rfl

/-- When the second table gives copies the keys of the originals, the search for an owner stops at
the same candidate. -/
theorem firstOwner_candidate {candidates : List OwnerCandidate}
    (inNodes : ∀ candidate ∈ candidates, candidate.owner ∈ d.nodes) :
    image.firstOwner (candidates.map copy.candidate) =
      (keys.firstOwner candidates).map copy.place := by
  induction candidates with
  | nil => rfl
  | cons candidate rest ih =>
      have others := ih fun other mem => inNodes other (List.mem_cons_of_mem candidate mem)
      have ownerIn := inNodes candidate List.mem_cons_self
      have same : image (copy.candidate candidate).owner = keys candidate.owner :=
        carries _ ownerIn
      rw [List.map_cons, KeyTable.firstOwner, KeyTable.firstOwner, same]
      split
      · exact others
      · have reached : image.endAt (copy.neighbour (candidate.link, candidate.owner)) =
            copy.place (keys.endAt (candidate.link, candidate.owner)) :=
          endAt_neighbour carries ownerIn
        exact congrArg some reached

variable {item : Construct} (inNodes : item ∈ d.nodes)

include inNodes

theorem ownerIn_node :
    e.ownerIn image (copy.node item) = (d.ownerIn keys item).map copy.place := by
  rw [ownerIn, copy.ownerCandidates_node inNodes]
  exact firstOwner_candidate carries fun candidate mem => (owner_spec mem).1

theorem participantsIn_node :
    e.participantsIn image (copy.node item) = (d.participantsIn keys item).map copy.place := by
  rw [participantsIn, participantsIn, copy.participantEnds_node inNodes, List.map_map, List.map_map]
  exact List.map_congr_left fun neighbour mem => endAt_neighbour carries (participant_spec mem).1

theorem referencesIn_node :
    e.referencesIn image (copy.node item) = (d.referencesIn keys item).map copy.reference := by
  rw [referencesIn, participantsIn_node carries inNodes, copy.referencesOf_node inNodes]
  rfl

theorem relationshipEnds_node :
    e.relationshipEnds image (copy.node item) =
      (d.relationshipEnds keys item).map copy.place := by
  rw [relationshipEnds, participantsIn_node carries inNodes, List.filter_map]
  simp only [Function.comp_def, place_link, link_kind]
  rfl

omit carries

theorem storedColumns_node : e.storedColumns (copy.node item) = d.storedColumns item := by
  rw [storedColumns, copy.neighboursOf_node inNodes, List.map_map]
  rfl

/-! ## Entities -/

theorem copies_tableSketch : copy.Copies (d.tableSketch item) (e.tableSketch (copy.node item)) := by
  refine copies_of_parts ?_
  rw [tableStatement, storedColumns_node inNodes]
  rfl

include carries

theorem copies_strongKeySketch :
    copy.Copies (d.strongKeySketch keys item) (e.strongKeySketch image (copy.node item)) := by
  rw [strongKeySketch, strongKeySketch, copy.generalizationOf_node inNodes, Option.isSome_map,
    carries item inNodes]
  split
  · exact copies_of_parts rfl
  · split
    · exact copies_omission (.strongWithoutKey item) trivial
    · exact copies_of_parts rfl

theorem copies_weakKeySketch :
    copy.Copies (d.weakKeySketch keys item) (e.weakKeySketch image (copy.node item)) := by
  rw [weakKeySketch, weakKeySketch, copy.partialKey_node inNodes, ownerIn_node carries inNodes,
    carries item inNodes]
  cases d.partialKey? item with
  | none => exact copies_omission (.weakWithoutPartialKey item) trivial
  | some partialKey =>
      cases d.ownerIn keys item with
      | none => exact copies_omission (.weakWithoutOwner item) trivial
      | some owner => exact copies_of_statements

theorem copies_associativeSketch :
    copy.Copies (d.associativeSketch keys item) (e.associativeSketch image (copy.node item)) := by
  rw [associativeSketch, associativeSketch, referencesIn_node carries inNodes, List.isEmpty_map]
  split
  · exact copies_omission (.associativeWithoutKey item) trivial
  · exact copies_of_parts (by
      simp only [List.map_append, referenceColumns_reference,
        content_junctionParts_reference (.associativeEntity item)]
      rfl)

theorem copies_multivaluedSketch (surrogateType : String) :
    copy.Copies (d.multivaluedSketch keys surrogateType item)
      (e.multivaluedSketch image surrogateType (copy.node item)) := by
  rw [multivaluedSketch, multivaluedSketch, copy.ownerOf_node inNodes]
  cases found : d.ownerOf? item with
  | none => exact copies_omission (.orphanMultivalued item) trivial
  | some owner =>
      dsimp only [Option.map_some]
      rw [carries owner (ownerOf_mem_nodes found).1]
      split
      · exact copies_omission (.ownerWithoutKey item owner) trivial
      · exact copies_of_statements

/-! ## Generalizations -/

omit carries

theorem strongSubtypes_node :
    e.strongSubtypes (copy.node item) = (d.strongSubtypes item).map copy.place := by
  rw [strongSubtypes, strongSubtypes, copy.subtypeEnds_node inNodes,
    copy.superclassKeys_node inNodes, List.filter_map, List.map_map, List.map_map]
  rfl

omit inNodes

theorem holderCounts_place (tables : List KeyedEnd) (references : List String) :
    holderCounts (tables.map copy.place) references = holderCounts tables references := by
  simp only [holderCounts, List.mapIdx_eq_zipIdx_map, List.zipIdx_map, List.map_map]
  rfl

theorem siblingsOf_place {subtypes : List KeyedEnd} {subtype : KeyedEnd}
    (subtypesIn : ∀ other ∈ subtypes, other.node ∈ d.nodes) (subtypeIn : subtype.node ∈ d.nodes) :
    siblingsOf (subtypes.map copy.place) (copy.place subtype) =
      (siblingsOf subtypes subtype).map copy.place := by
  rw [siblingsOf, siblingsOf, List.filter_map]
  refine congrArg _ (List.filter_congr fun other mem => ?_)
  simp only [Function.comp_apply, place_node, node_id, bne, beq_eq_decide,
    copy.rename_eq_iff (subtypesIn other mem) subtypeIn]

theorem subtypePlan_place (superclass subtype : KeyedEnd) (siblings : List KeyedEnd)
    (disjoint total : Bool) :
    subtypePlan? (copy.place superclass) (copy.place subtype) (siblings.map copy.place) disjoint
        total = subtypePlan? superclass subtype siblings disjoint total := by
  have apart : disjointRules (copy.place subtype) (siblings.map copy.place) =
      disjointRules subtype siblings := by
    simp only [disjointRules, holderCounts_place, List.length_map, place_columns]
  have kept : totalRule (copy.place superclass) (copy.place subtype) (siblings.map copy.place) =
      totalRule superclass subtype siblings := by
    simp only [totalRule, holderCounts_place, List.length_map, place_table, place_columns]
  rw [subtypePlan?, subtypePlan?, apart, kept, List.isEmpty_map, List.length_map]
  rfl

theorem hierarchyPlans_place (superclass : KeyedEnd) {subtypes : List KeyedEnd}
    (inNodes : ∀ subtype ∈ subtypes, subtype.node ∈ d.nodes) (disjoint total : Bool) :
    hierarchyPlans (copy.place superclass) (subtypes.map copy.place) disjoint total =
      hierarchyPlans superclass subtypes disjoint total := by
  have above : superclassPlan (copy.place superclass) (subtypes.map copy.place) =
      superclassPlan superclass subtypes := by
    simp only [superclassPlan, holderCounts_place, List.length_map, place_table, place_columns]
  rw [hierarchyPlans, hierarchyPlans, above, List.filterMap_map]
  refine congrArg _ (List.filterMap_congr fun subtype mem => ?_)
  rw [Function.comp_apply, siblingsOf_place inNodes (inNodes subtype mem), subtypePlan_place]

include inNodes

theorem content_hierarchyParts_node (superclass : KeyedEnd) :
    (e.hierarchyParts (copy.node item) (copy.place superclass)).map Part.content =
      (d.hierarchyParts item superclass).map Part.content := by
  have subtypesIn : ∀ subtype ∈ d.strongSubtypes item, subtype.node ∈ d.nodes := by
    intro subtype mem
    obtain ⟨neighbour, near, rfl⟩ := List.mem_map.1 mem
    exact mem_nodes_of_mem_neighbours (mem_subtypeEnds_iff.1 (List.mem_filter.1 near).1).1
  simp only [hierarchyParts, strongSubtypes_node inNodes, copy.isTotal_node inNodes,
    hierarchyPlans_place superclass subtypesIn, List.map_append, List.map_flatMap,
    List.flatMap_map, Part.map_content_of]
  rfl

theorem copies_otherSubtypeIssues (isGeneralization : item.kind.isGeneralization = true) :
    List.Forall₂ copy.CopiesIssue (d.otherSubtypeIssues item)
      (e.otherSubtypeIssues (copy.node item)) := by
  rw [otherSubtypeIssues, otherSubtypeIssues, copy.subtypeEnds_node inNodes, List.filter_map,
    List.map_map, List.forall₂_map_left_iff, List.forall₂_map_right_iff]
  refine List.forall₂_same.2 fun neighbour mem => ?_
  have near := (mem_subtypeEnds_iff.1 (List.mem_filter.1 mem).1).1
  exact ⟨.subtypeNotStrong item neighbour.2 neighbour.1, ⟨⟨inNodes, isGeneralization⟩, near⟩, rfl,
    rfl⟩

include carries

/-- A generalization and its copy make the same statements, and leave the same subtypes out under
their own ids. -/
theorem copies_generalizationSketch (isGeneralization : item.kind.isGeneralization = true) :
    copy.Copies (d.generalizationSketch keys item)
      (e.generalizationSketch image (copy.node item)) := by
  have known := And.intro inNodes isGeneralization
  rw [generalizationSketch, generalizationSketch, copy.superclassEnd_node inNodes]
  cases found : d.superclassEnd? item with
  | none => exact copies_omission (.noSuperclass item) known
  | some above =>
      have aboveIn := mem_nodes_of_mem_neighbours (superclassEnd_spec found).1
      have others : List.Forall₂ copy.CopiesIssue (d.otherSubtypeIssues item)
          (e.otherSubtypeIssues (copy.node item)) :=
        copies_otherSubtypeIssues inNodes isGeneralization
      simp only [Option.map_some, copy.subtypeEnds_node inNodes, List.isEmpty_map,
        copy.superclassKeys_node inNodes, neighbour_snd, carries _ aboveIn,
        strongSubtypes_node inNodes, endAt_neighbour carries aboveIn]
      split
      · exact copies_omission (.noSubtypes item) known
      split
      · exact copies_omission (.superclassWithoutKey item above.2) known
      split
      · refine ⟨?_, others⟩
        dsimp only
        split
        · rfl
        · exact content_hierarchyParts_node inNodes _
      · have unusable : copy.CopiesIssue _ _ := ⟨.superclassKeyUnusable item, known, rfl, rfl⟩
        exact ⟨rfl, List.rel_append others (.cons unusable .nil)⟩

/-! ## Relationships -/

omit carries inNodes

variable (copy) in
def embedding (how : Embedding) : Embedding :=
  { how with holder := copy.place how.holder, target := copy.place how.target }

theorem ofPair_place (first second : KeyedEnd) (cardinality : Cardinality) :
    Embedding.ofPair (copy.place first) (copy.place second) cardinality =
      copy.embedding (.ofPair first second cardinality) := by
  have double : ∀ place, (copy.place place).isDouble = place.isDouble := fun place => by
    rw [KeyedEnd.isDouble, place_link, link_kind, KeyedEnd.isDouble]
  cases cardinality with
  | oneToOne =>
      simp only [Embedding.ofPair, double, embedding]
      split <;> rfl
  | oneToMany | manyToMany =>
      simp only [Embedding.ofPair, embedding, place_link, link_kind]
      split <;> simp only [double]

theorem copies_junctionSketch {item : Construct} (inNodes : item ∈ d.nodes) (ends : List KeyedEnd) :
    copy.Copies (d.junctionSketch item ends)
      (e.junctionSketch (copy.node item) (ends.map copy.place)) := by
  have table : junctionTable (ends.map copy.place) = junctionTable ends := by
    rw [junctionTable, List.map_map]
    rfl
  refine copies_of_parts ?_
  rw [table, storedColumns_node inNodes, copy.planReferences_place, referenceColumns_reference,
    List.map_cons, List.map_cons, content_junctionParts_reference (.relationship item)]

theorem copies_embeddingSketch {item : Construct} (inNodes : item ∈ d.nodes) (how : Embedding)
    (taken : List String) :
    copy.Copies (d.embeddingSketch item how (embeddedReference taken how))
      (e.embeddingSketch (copy.node item) (copy.embedding how)
        (embeddedReference taken (copy.embedding how))) := by
  have statements : embeddingStatements e (copy.node item) (copy.embedding how)
      (embeddedReference taken (copy.embedding how)) =
        embeddingStatements d item how (embeddedReference taken how) := by
    rw [embeddingStatements, storedColumns_node inNodes]
    rfl
  refine copies_of_parts ?_
  rw [statements, List.map_append, List.map_append, Part.map_content_of, Part.map_content_of]
  rfl

section Reserved

variable {S : Reservations → Reservations → Prop} (tracks : copy.Tracks S)

include carries tracks

theorem takenIn_node {reserved known : Reservations} (related : S reserved known)
    {item : Construct} (inNodes : item ∈ d.nodes) :
    e.takenIn image known (copy.node item) = d.takenIn keys reserved item := by
  have same : known.lookup (copy.node item).id = reserved.lookup item.id :=
    tracks.lookup related item inNodes
  rw [takenIn, takenIn, same, copy.attributeColumns_node inNodes, carries item inNodes]

/-- The encoding of a relationship is copied, and the columns that it reserves are. -/
theorem copies_relationshipSketch {reserved known : Reservations} (related : S reserved known)
    {item : Construct} (inNodes : item ∈ d.nodes) :
    copy.Copies (d.relationshipSketch keys reserved item).1
        (e.relationshipSketch image known (copy.node item)).1 ∧
      S (d.relationshipSketch keys reserved item).2
        (e.relationshipSketch image known (copy.node item)).2 := by
  have endsIn : ∀ place ∈ d.relationshipEnds keys item, place.node ∈ d.nodes := by
    rw [relationshipEnds_eq, List.forall_mem_map]
    exact fun neighbour mem => (participant_spec (List.mem_filter.1 mem).1).1
  rw [relationshipSketch, relationshipSketch, relationshipEnds_node carries inNodes]
  generalize d.relationshipEnds keys item = ends at endsIn
  have kinds : (ends.map copy.place).map (·.link.kind) = ends.map (·.link.kind) := by
    simp only [List.map_map, Function.comp_def, place_link, link_kind]
  have keyless : ((ends.map copy.place).filter (·.keys.isEmpty)).map (·.table) =
      (ends.filter (·.keys.isEmpty)).map (·.table) := by
    rw [List.filter_map, List.map_map]
    rfl
  simp only [kinds, keyless]
  cases Cardinality.ofEnds? (ends.map (·.link.kind)) with
  | none => exact ⟨copies_omission (.unsupportedCardinality item _) trivial, related⟩
  | some cardinality =>
      dsimp only
      split
      · exact ⟨copies_omission (.participantsWithoutKey item _) trivial, related⟩
      split
      · exact ⟨copies_junctionSketch inNodes ends, related⟩
      rcases ends with _ | ⟨first, _ | ⟨second, _ | ⟨third, others⟩⟩⟩
      · exact ⟨copies_of_parts rfl, related⟩
      · exact ⟨copies_of_parts rfl, related⟩
      · let how := Embedding.ofPair first second cardinality
        have holderIn : how.holder.node ∈ d.nodes :=
          endsIn _ (mem_ofPair first second cardinality).1
        have taken : e.takenIn image known (copy.embedding how).holder.node =
            d.takenIn keys reserved how.holder.node :=
          takenIn_node carries tracks related holderIn
        simp only [List.map_cons, List.map_nil, ofPair_place]
        rw [taken]
        exact ⟨copies_embeddingSketch inNodes how _, tracks.cons related _ holderIn _⟩
      · exact ⟨copies_of_parts rfl, related⟩

/-- Relationships are copied one after the other. -/
theorem copies_relationshipSketches {reserved known : Reservations} (related : S reserved known)
    {items : List Construct} (inNodes : ∀ item ∈ items, item ∈ d.nodes) :
    List.Forall₂ copy.Copies (d.relationshipSketches keys reserved items)
        (e.relationshipSketches image known (items.map copy.node)) ∧
      S (d.reservedAfter keys reserved items)
        (e.reservedAfter image known (items.map copy.node)) := by
  induction items generalizing reserved known with
  | nil => exact ⟨.nil, related⟩
  | cons item rest ih =>
      obtain ⟨here, onward⟩ :=
        copies_relationshipSketch carries tracks related (inNodes item List.mem_cons_self)
      obtain ⟨there, last⟩ := ih onward fun other mem =>
        inNodes other (List.mem_cons_of_mem item mem)
      exact ⟨.cons here there, last⟩

end Reserved

end Reading

/-! ## Views -/

/-- A view has the same name while other names are in use, unless it would be among them. -/
theorem viewName_node {used known others : List String} {item owner : Construct}
    (joined : ∀ name, name ∈ known ↔ name ∈ used ∨ name ∈ others)
    (apart : viewName used item owner ∈ used ∨ viewName used item owner ∉ others) :
    viewName known (copy.node item) (copy.node owner) = viewName used item owner := by
  have same : "VW_" ++ tableName owner.label ∈ known ↔ "VW_" ++ tableName owner.label ∈ used := by
    refine (joined _).trans (or_iff_left_of_imp fun foreign => ?_)
    by_contra fresh
    have own : viewName used item owner = "VW_" ++ tableName owner.label := by
      rw [viewName, if_neg fresh]
    rw [own] at apart
    exact apart.elim fresh fun notForeign => notForeign foreign
  simp only [viewName, node_label, same]

/-- Views are copied one after the other, while the names that are in use may be joined
by others that no view of the diagram has. -/
theorem copies_viewSketches {used known : List String} (others : List String)
    {items : List Construct} (inNodes : ∀ item ∈ items, item ∈ d.nodes)
    (joined : ∀ name, name ∈ known ↔ name ∈ used ∨ name ∈ others)
    (apart : ∀ name ∈ d.viewsAfter used items, name ∈ used ∨ name ∉ others) :
    List.Forall₂ copy.Copies (d.viewSketches used items)
        (e.viewSketches known (items.map copy.node)) ∧
      ∀ name, name ∈ e.viewsAfter known (items.map copy.node) ↔
        name ∈ d.viewsAfter used items ∨ name ∈ others := by
  induction items generalizing used known with
  | nil => exact ⟨.nil, joined⟩
  | cons item rest ih =>
      have restIn := fun other mem => inNodes other (List.mem_cons_of_mem item mem)
      have query : queryOf? (copy.node item) = queryOf? item := rfl
      rw [List.map_cons, viewSketches, viewSketches, viewsAfter, viewsAfter,
        copy.ownerOf_node (inNodes item List.mem_cons_self), query]
      cases hasOwner : d.ownerOf? item with
      | none =>
          rw [viewsAfter, hasOwner] at apart
          obtain ⟨copied, after⟩ := ih restIn joined apart
          exact ⟨.cons (copies_omission (.orphanDerived item) trivial) copied, after⟩
      | some owner =>
          cases asked : queryOf? item with
          | none =>
              simp only [viewsAfter, hasOwner, asked] at apart
              obtain ⟨copied, after⟩ := ih restIn joined apart
              exact ⟨.cons (copies_omission (.noExpression item) trivial) copied, after⟩
          | some query =>
              simp only [viewsAfter, hasOwner, asked] at apart
              have named : viewName known (copy.node item) (copy.node owner) =
                  viewName used item owner :=
                viewName_node joined (apart _ (mem_viewsAfter_of_mem List.mem_cons_self))
              simp only [Option.map_some, named]
              have joinedOn : ∀ name, name ∈ viewName used item owner :: known ↔
                  name ∈ viewName used item owner :: used ∨ name ∈ others := fun name => by
                rw [List.mem_cons, List.mem_cons, joined, or_assoc]
              obtain ⟨copied, after⟩ := ih restIn joinedOn fun name mem =>
                (apart name mem).imp_left (List.mem_cons_of_mem _)
              exact ⟨.cons (copies_of_parts rfl) copied, after⟩

end Classified.Copy

end EntitySchema
