/-
# EntitySchema.Proofs.PrimaryKeys -- the primary keys of strong entities

Two passes give strong entities their primary keys: one all those that are no
subtypes, the other the subtypes of each generalization, one for each link.
`primary_key_unique_exactly` says when an entity that has a key gets exactly that
one: it is no subtype, or a single generalization writes its key, by a single link
and with the right columns (`Classified.keyWriters`).

The other primary keys of a script belong to other tables, if tables have names
of their own (`Classified.TablesDistinct`).
-/
import EntitySchema.Proofs.Integrity

namespace EntitySchema

set_option autoImplicit false

/-! ## Primary keys on a table -/

/-- The columns of a primary key on the table. -/
def Statement.primaryKeyOn? (table : String) : Statement → Option (List String)
  | .addPrimaryKey made _ columns => if made = table then some columns else none
  | _ => none

/-- The columns of each primary key on the table, in the order of the script. -/
def primaryKeysOn (table : String) (statements : List Statement) : List (List String) :=
  statements.filterMap (·.primaryKeyOn? table)

section PrimaryKeysOn

variable {table : String}

def Part.primaryKeyOn? (table : String) (part : Part) : Option (List String) :=
  part.statement?.bind (·.primaryKeyOn? table)

def Sketch.primaryKeysOn (table : String) (sketch : Sketch) : List (List String) :=
  sketch.parts.filterMap (·.primaryKeyOn? table)

/-- Primary keys can be read off the parts, which say all about them that their statements do. -/
theorem primaryKeysOn_of_fits {parts : List Part} {statements : List Statement}
    (fits : List.Forall₂ Part.Fits parts statements) :
    primaryKeysOn table statements = parts.filterMap (·.primaryKeyOn? table) := by
  induction fits with
  | nil => rfl
  | @cons part statement _ _ here _ ih =>
      have same : statement.primaryKeyOn? table = part.primaryKeyOn? table := by
        cases part with
        | plain | reference =>
            rw [← Option.some.inj here]
            rfl
        | trigger =>
            obtain ⟨trigger, rfl, _⟩ := here
            rfl
      rw [primaryKeysOn] at ih ⊢
      rw [List.filterMap_cons, List.filterMap_cons, same, ih]

theorem primaryKeysOn_outline {settings : Settings} {d : Classified} {keys : KeyTable} :
    (outline settings d keys).filterMap (·.primaryKeyOn? table) =
      Phase.all.flatMap fun phase =>
        (phase.sketches settings d keys).flatMap (·.primaryKeysOn table) := by
  simp only [outline, Phase.sketch, Sketch.concat, List.filterMap_flatMap]
  rfl

theorem primaryKeysOn_map_of (site : Site) (target : Construct) (statements : List Statement) :
    (statements.map (Part.of site target)).filterMap (·.primaryKeyOn? table) =
      primaryKeysOn table statements := by
  simp [List.filterMap_map, primaryKeysOn, Part.primaryKeyOn?]

theorem primaryKeysOn_append (first second : List Statement) :
    primaryKeysOn table (first ++ second) =
      primaryKeysOn table first ++ primaryKeysOn table second := List.filterMap_append

theorem primaryKeysOn_addKeyColumns (made : String) (keys : List Key) :
    primaryKeysOn table (addKeyColumns made keys) = [] := by
  simp [primaryKeysOn, addKeyColumns, Statement.primaryKeyOn?]

theorem primaryKeysOn_triggers (plans : List TriggerPlan) :
    (plans.map Part.trigger).filterMap (·.primaryKeyOn? table) = [] := by
  simp [Part.primaryKeyOn?, Part.statement?]

end PrimaryKeysOn

namespace Classified

variable {d : Classified} {keys : KeyTable} {table : String}

/-! ## Names of tables -/

/-- The name of a junction table or of the table of a multivalued attribute. -/
inductive Generates (d : Classified) (keys : KeyTable) : String → Prop
  | junction {node : Construct} :
      node ∈ d.ofKind .relationship →
        Cardinality.ofEnds? ((d.relationshipEnds keys node).map (·.link.kind)) =
          some .manyToMany →
        (∀ place ∈ d.relationshipEnds keys node, place.keys ≠ []) →
          Generates d keys (junctionTable (d.relationshipEnds keys node))
  | multivaluedAttribute {item owner : Construct} :
      item ∈ d.ofKind .multivaluedAttribute → d.ownerOf? item = some owner → keys owner ≠ [] →
        Generates d keys (tableName owner.label ++ "_" ++ tableName item.label)

/-- Entities have tables with names of their own. -/
structure TablesDistinct (d : Classified) (keys : KeyTable) : Prop where
  entities : ((d.ofKinds (·.isEntity)).map (tableName ·.label)).Nodup
  generated : ∀ name, d.Generates keys name →
    ∀ entity ∈ d.ofKinds (·.isEntity), tableName entity.label ≠ name

theorem TablesDistinct.eq_of_table_eq (distinct : d.TablesDistinct keys)
    {first second : Construct} (firstIn : first ∈ d.nodes) (secondIn : second ∈ d.nodes)
    (firstEntity : first.kind.isEntity = true) (secondEntity : second.kind.isEntity = true)
    (same : tableName first.label = tableName second.label) : first = second :=
  List.inj_on_of_nodup_map distinct.entities (mem_ofKinds_iff.2 ⟨firstIn, firstEntity⟩)
    (mem_ofKinds_iff.2 ⟨secondIn, secondEntity⟩) same

/-! ## Sketches that key other tables -/

theorem primaryKeysOn_junctionParts {site : Site} {made : String} {references : List Reference}
    (other : made ≠ table) :
    (junctionParts site made references).filterMap (·.primaryKeyOn? table) = [] := by
  rw [List.filterMap_eq_nil_iff]
  intro part mem
  obtain inKeys | inPrimary := List.mem_append.1 mem
  · obtain ⟨position, _, rfl⟩ := List.mem_mapIdx.1 inKeys
    rfl
  · obtain rfl := List.mem_singleton.1 inPrimary
    simp [Part.primaryKeyOn?, Part.statement?, primaryKey, Statement.primaryKeyOn?, other]

theorem primaryKeysOn_weakKeySketch {weak : Construct} (other : tableName weak.label ≠ table) :
    (d.weakKeySketch keys weak).primaryKeysOn table = [] := by
  unfold weakKeySketch
  split
  · rfl
  · split
    · rfl
    · rw [Sketch.primaryKeysOn, primaryKeysOn_map_of, weakKeyStatements, primaryKeysOn_append,
        primaryKeysOn_addKeyColumns]
      simp [primaryKeysOn, primaryKey, Statement.primaryKeyOn?, other]

theorem primaryKeysOn_associativeSketch {entity : Construct}
    (other : tableName entity.label ≠ table) :
    (d.associativeSketch keys entity).primaryKeysOn table = [] := by
  unfold associativeSketch
  dsimp only
  split
  · rfl
  · rw [Sketch.primaryKeysOn, List.filterMap_append, primaryKeysOn_junctionParts other]
    simp [Part.primaryKeyOn?, Part.statement?, Statement.primaryKeyOn?]

theorem primaryKeysOn_relationshipSketch {reserved : Reservations} {node : Construct}
    (inKind : node ∈ d.ofKind .relationship) (other : ∀ name, d.Generates keys name → name ≠ table) :
    (d.relationshipSketch keys reserved node).1.primaryKeysOn table = [] := by
  obtain none | ⟨many, keyed, same⟩ | ⟨how, _, _, _, same⟩ :=
    relationshipSketch_cases d keys reserved node
  · rw [Sketch.primaryKeysOn, none]
    rfl
  · rw [same, Sketch.primaryKeysOn, junctionSketch, List.filterMap_cons_none rfl]
    exact primaryKeysOn_junctionParts (other _ (.junction inKind many keyed))
  · rw [same, Sketch.primaryKeysOn, embeddingSketch, List.filterMap_append, primaryKeysOn_map_of,
      primaryKeysOn_triggers]
    simp [primaryKeysOn, embeddingStatements, Statement.primaryKeyOn?]

/-- A child table is the only one that its attribute keys. -/
theorem primaryKeysOn_multivaluedSketch {surrogateType : String} {item : Construct}
    (inKind : item ∈ d.ofKind .multivaluedAttribute)
    (other : ∀ name, d.Generates keys name → name ≠ table) :
    (d.multivaluedSketch keys surrogateType item).primaryKeysOn table = [] := by
  unfold multivaluedSketch
  split
  · rfl
  · rename_i owner found
    split
    · rfl
    · rename_i keyed
      have apart := other _ (.multivaluedAttribute inKind found (by simpa using keyed))
      rw [Sketch.primaryKeysOn, primaryKeysOn_map_of]
      simp [primaryKeysOn, childTableStatements, primaryKey, Statement.primaryKeyOn?, apart]

theorem primaryKeysOn_viewSketch {used : List String} {items : List Construct} {sketch : Sketch}
    (inViews : sketch ∈ d.viewSketches used items) : sketch.primaryKeysOn table = [] := by
  obtain none | ⟨name, query, view⟩ := parts_of_mem_viewSketches inViews
  · rw [Sketch.primaryKeysOn, none]
    rfl
  · rw [Sketch.primaryKeysOn, view]
    rfl

/-! ## Sketches that key strong entities -/

/-- Whether a generalization writes the keys of its strong subtypes. -/
def writesKeys (d : Classified) (keys : KeyTable) (generalization : Construct) : Bool :=
  match d.superclassEnd? generalization with
  | none => false
  | some above =>
      !(d.superclassKeys generalization).isEmpty
        && (keys above.2).length == (d.superclassKeys generalization).length

theorem exists_of_writesKeys {generalization : Construct}
    (writes : d.writesKeys keys generalization = true) :
    ∃ above, d.superclassEnd? generalization = some above ∧
      d.superclassKeys generalization ≠ [] ∧
      (keys above.2).length = (d.superclassKeys generalization).length := by
  unfold writesKeys at writes
  split at writes
  · cases writes
  · rename_i above found
    obtain ⟨rootKeyed, usable⟩ := Bool.and_eq_true_iff.1 writes
    exact ⟨above, found, by simpa using rootKeyed, by simpa using usable⟩

/-- The generalizations that write a key for a strong entity, each as often as it
has links to it. -/
def keyWriters (d : Classified) (keys : KeyTable) (entity : Construct) : List Construct :=
  (d.ofKinds (·.isGeneralization)).flatMap fun generalization =>
    if d.writesKeys keys generalization then
      ((d.subtypeEnds generalization).filter (·.2 = entity)).map fun _ => generalization
    else []

/-- A strong entity is keyed here only if no generalization has it for a subtype, whether or not
that generalization will write a key for it. -/
theorem primaryKeysOn_strongKeySketch (entity : Construct) :
    (d.strongKeySketch keys entity).primaryKeysOn table =
      if tableName entity.label = table ∧ d.generalizationOf? entity = none ∧ keys entity ≠ [] then
        [(keys entity).map (·.column)]
      else [] := by
  unfold strongKeySketch
  cases d.generalizationOf? entity with
  | some generalization => simp [Sketch.primaryKeysOn]
  | none =>
      by_cases keyless : keys entity = []
      · simp [keyless, Sketch.primaryKeysOn, Omission.sketch]
      · by_cases here : tableName entity.label = table <;>
          simp [keyless, here, Sketch.primaryKeysOn, Part.primaryKeyOn?, Part.statement?,
            primaryKey, Statement.primaryKeyOn?]

theorem primaryKeysOn_subtypeKeyStatements (superclass subtype : KeyedEnd) :
    primaryKeysOn table (subtypeKeyStatements superclass subtype) =
      if subtype.table = table then [subtype.columns] else [] := by
  rw [subtypeKeyStatements, primaryKeysOn_append, primaryKeysOn_addKeyColumns]
  by_cases here : subtype.table = table <;>
    simp [primaryKeysOn, primaryKey, Statement.primaryKeyOn?, here]

/-- The items that are chosen contribute, the others do not. -/
theorem flatMap_filter {α β : Type} (items : List α) (chosen : α → Prop) [DecidablePred chosen]
    (contribution : α → List β) :
    (items.filter fun item => chosen item).flatMap contribution =
      items.flatMap fun item => if chosen item then contribution item else [] := by
  induction items with
  | nil => rfl
  | cons item rest ih =>
      by_cases here : chosen item
      · simp [here, ih]
      · simp [here, ih]

theorem flatMap_if_eq_map_filter {α β : Type} (items : List α) (chosen : α → Prop)
    [DecidablePred chosen] (b : β) :
    (items.flatMap fun item => if chosen item then [b] else []) =
      (items.filter fun item => chosen item).map fun _ => b := by
  rw [List.map_eq_flatMap, flatMap_filter]

/-- The primary keys that a generalization gives its strong subtypes. -/
theorem primaryKeysOn_hierarchyParts (generalization : Construct) (superclass : KeyedEnd) :
    (d.hierarchyParts generalization superclass).filterMap (·.primaryKeyOn? table) =
      ((d.subtypeEnds generalization).filter fun neighbour =>
        tableName neighbour.2.label = table ∧ neighbour.2.kind = .strongEntity).map fun _ =>
          (d.superclassKeys generalization).map (·.foreignColumn) := by
  have each : ∀ subtype : KeyedEnd,
      ((subtypeKeyStatements superclass subtype).map
          (Part.of (.subtype generalization subtype.node) superclass.node)).filterMap
            (·.primaryKeyOn? table) =
        if subtype.table = table then [subtype.columns] else [] := by
    intro subtype
    rw [primaryKeysOn_map_of, primaryKeysOn_subtypeKeyStatements]
  rw [hierarchyParts, List.filterMap_append, primaryKeysOn_triggers, List.append_nil,
    List.filterMap_flatMap]
  have chosen : ((d.subtypeEnds generalization).filter (·.2.kind == .strongEntity)).filter
      (fun neighbour => tableName neighbour.2.label = table) =
        (d.subtypeEnds generalization).filter fun neighbour =>
          tableName neighbour.2.label = table ∧ neighbour.2.kind = .strongEntity := by
    rw [List.filter_filter]
    refine List.filter_congr fun neighbour _ => ?_
    by_cases strong : neighbour.2.kind = .strongEntity <;> simp [strong]
  rw [← chosen]
  simp only [each, strongSubtypes, List.flatMap_map, heirOf_table, heirOf_columns,
    flatMap_if_eq_map_filter]

/-- A generalization that writes keys does so once for each link to a strong subtype, and so twice
for a subtype that is linked twice. -/
theorem primaryKeysOn_generalizationSketch (generalization : Construct) :
    (d.generalizationSketch keys generalization).primaryKeysOn table =
      if d.writesKeys keys generalization then
        ((d.subtypeEnds generalization).filter fun neighbour =>
          tableName neighbour.2.label = table ∧ neighbour.2.kind = .strongEntity).map fun _ =>
            (d.superclassKeys generalization).map (·.foreignColumn)
      else [] := by
  unfold generalizationSketch writesKeys
  cases d.superclassEnd? generalization with
  | none => rfl
  | some above =>
      dsimp only
      by_cases childless : (d.subtypeEnds generalization).isEmpty
      · simp [List.isEmpty_iff.1 childless, Sketch.primaryKeysOn, Omission.sketch]
      by_cases keyless : (d.superclassKeys generalization).isEmpty
      · simp [childless, keyless, Sketch.primaryKeysOn, Omission.sketch]
      by_cases usable : (keys above.2).length = (d.superclassKeys generalization).length
      · have written : (!(d.superclassKeys generalization).isEmpty
            && (keys above.2).length == (d.superclassKeys generalization).length) = true := by
          simp [keyless, usable]
        rw [if_neg childless, if_neg keyless, if_pos usable, if_pos written, Sketch.primaryKeysOn,
          ← primaryKeysOn_hierarchyParts generalization (keys.endAt above)]
        -- Without strong subtypes the sketch is empty, and so are the parts.
        split
        · rename_i none
          rw [hierarchyParts, List.isEmpty_iff.1 none, List.flatMap_nil, List.nil_append,
            primaryKeysOn_triggers, List.filterMap_nil]
        · rfl
      · simp [childless, keyless, usable, Sketch.primaryKeysOn]

/-! ## The primary keys of one strong entity -/

/-- If only one item contributes, its contribution is all there is. -/
theorem flatMap_eq_of_only {α β : Type} {items : List α} {item : α} {contribution : α → List β}
    (distinct : items.Nodup) (mem : item ∈ items)
    (others : ∀ other ∈ items, other ≠ item → contribution other = []) :
    items.flatMap contribution = contribution item := by
  induction items with
  | nil => simp at mem
  | cons first rest ih =>
      obtain ⟨apart, distinct⟩ := List.nodup_cons.1 distinct
      rw [List.flatMap_cons]
      rcases List.mem_cons.1 mem with rfl | later
      · have none : rest.flatMap contribution = [] := List.flatMap_eq_nil_iff.2 fun other inRest =>
          others other (List.mem_cons_of_mem item inRest) fun same => apart (same ▸ inRest)
        rw [none, List.append_nil]
      · have skipped := others first List.mem_cons_self fun same => apart (same ▸ later)
        rw [skipped, List.nil_append]
        exact ih distinct later fun other inRest => others other (List.mem_cons_of_mem first inRest)

theorem nodes_nodup (d : Classified) : d.nodes.Nodup := d.ids_nodup.of_map

section Entity

variable {settings : Settings} {entity : Construct}

theorem TablesDistinct.table_ne (distinct : d.TablesDistinct keys)
    (inKind : entity ∈ d.ofKind .strongEntity) {other : Construct} (inNodes : other ∈ d.nodes)
    (isEntity : other.kind.isEntity = true) (apart : other ≠ entity) :
    tableName other.label ≠ tableName entity.label := by
  obtain ⟨entityIn, kind⟩ := mem_ofKind_iff.1 inKind
  intro same
  exact apart (distinct.eq_of_table_eq inNodes entityIn isEntity
    (by simp [kind, NodeKind.isEntity]) same)

/-- An entity of another kind has another table. -/
theorem TablesDistinct.table_ne_of_kind (distinct : d.TablesDistinct keys)
    (inKind : entity ∈ d.ofKind .strongEntity) {kind : NodeKind} (isEntity : kind.isEntity = true)
    (apart : kind ≠ .strongEntity) {other : Construct} (otherIn : other ∈ d.ofKind kind) :
    tableName other.label ≠ tableName entity.label := by
  obtain ⟨inNodes, rfl⟩ := mem_ofKind_iff.1 otherIn
  refine distinct.table_ne inKind inNodes isEntity fun same => apart ?_
  rw [same]
  exact (mem_ofKind_iff.1 inKind).2

theorem TablesDistinct.generated_ne (distinct : d.TablesDistinct keys)
    (inKind : entity ∈ d.ofKind .strongEntity) :
    ∀ name, d.Generates keys name → name ≠ tableName entity.label := by
  obtain ⟨inNodes, kind⟩ := mem_ofKind_iff.1 inKind
  intro name generates same
  exact distinct.generated name generates entity
    (mem_ofKinds_iff.2 ⟨inNodes, by simp [kind, NodeKind.isEntity]⟩) same.symm

/-- The first pass keys the entity if it is no subtype. -/
theorem primaryKeysOn_strongKeySketches (distinct : d.TablesDistinct keys)
    (inKind : entity ∈ d.ofKind .strongEntity) (keyed : keys entity ≠ []) :
    ((d.ofKind .strongEntity).map (d.strongKeySketch keys)).flatMap
        (·.primaryKeysOn (tableName entity.label)) =
      if d.generalizationOf? entity = none then [(keys entity).map (·.column)] else [] := by
  have once : (d.ofKind .strongEntity).Nodup := d.nodes_nodup.filter _
  rw [List.flatMap_map, flatMap_eq_of_only once inKind]
  · simp [primaryKeysOn_strongKeySketch, keyed]
  · intro other otherIn apart
    obtain ⟨inNodes, kind⟩ := mem_ofKind_iff.1 otherIn
    have elsewhere := distinct.table_ne inKind inNodes (by simp [kind, NodeKind.isEntity]) apart
    rw [primaryKeysOn_strongKeySketch, if_neg fun here => elsewhere here.1]

/-- The second pass keys the entity once for each of its links to a generalization
that writes keys. -/
theorem primaryKeysOn_generalizationSketches (distinct : d.TablesDistinct keys)
    (inKind : entity ∈ d.ofKind .strongEntity) :
    ((d.ofKinds (·.isGeneralization)).map (d.generalizationSketch keys)).flatMap
        (·.primaryKeysOn (tableName entity.label)) =
      (d.keyWriters keys entity).map fun generalization =>
        (d.superclassKeys generalization).map (·.foreignColumn) := by
  have links : ∀ generalization : Construct,
      ((d.subtypeEnds generalization).filter fun neighbour =>
          tableName neighbour.2.label = tableName entity.label ∧
            neighbour.2.kind = .strongEntity) =
        (d.subtypeEnds generalization).filter (·.2 = entity) := by
    intro generalization
    refine List.filter_congr fun neighbour near => ?_
    obtain ⟨next, isEntity, _⟩ := mem_subtypeEnds_iff.1 near
    by_cases itself : neighbour.2 = entity
    · simp [itself, (mem_ofKind_iff.1 inKind).2]
    · have elsewhere := distinct.table_ne inKind (mem_nodes_of_mem_neighbours next) isEntity itself
      simp [itself, elsewhere]
  rw [List.flatMap_map, keyWriters, List.map_flatMap]
  refine List.flatMap_congr fun generalization _ => ?_
  rw [primaryKeysOn_generalizationSketch, links]
  split <;> simp

/-- The other phases make no primary key on the table of the entity. -/
theorem TablesDistinct.primaryKeysOn_eq_nil (distinct : d.TablesDistinct keys)
    (inKind : entity ∈ d.ofKind .strongEntity) {phase : Phase} (notFirst : phase ≠ .primaryKeys)
    (notSecond : phase ≠ .generalizations) {sketch : Sketch}
    (inPhase : sketch ∈ phase.sketches settings d keys) :
    sketch.primaryKeysOn (tableName entity.label) = [] := by
  have generated := distinct.generated_ne inKind
  cases phase with
  | tables | associativeEntities =>
      obtain ⟨_, _, rfl⟩ := List.mem_map.1 inPhase
      rfl
  | primaryKeys => exact absurd rfl notFirst
  | partialKeys =>
      obtain ⟨weak, weakIn, rfl⟩ := List.mem_map.1 inPhase
      exact primaryKeysOn_weakKeySketch (distinct.table_ne_of_kind inKind rfl (by decide) weakIn)
  | generalizations => exact absurd rfl notSecond
  | relationships =>
      obtain encoded | associative := List.mem_append.1 inPhase
      · obtain ⟨node, nodeIn, _, rfl⟩ := mem_relationshipSketches encoded
        exact primaryKeysOn_relationshipSketch nodeIn generated
      · obtain ⟨other, otherIn, rfl⟩ := List.mem_map.1 associative
        exact primaryKeysOn_associativeSketch
          (distinct.table_ne_of_kind inKind rfl (by decide) otherIn)
  | multivaluedAttributes =>
      obtain ⟨item, itemIn, rfl⟩ := List.mem_map.1 inPhase
      exact primaryKeysOn_multivaluedSketch itemIn generated
  | derivedAttributes => exact primaryKeysOn_viewSketch inPhase

/-- All primary keys on the table of a strong entity that has a key. -/
theorem primaryKeysOn_outline_strong (distinct : d.TablesDistinct keys)
    (inKind : entity ∈ d.ofKind .strongEntity) (keyed : keys entity ≠ []) :
    (outline settings d keys).filterMap (·.primaryKeyOn? (tableName entity.label)) =
      (if d.generalizationOf? entity = none then [(keys entity).map (·.column)] else []) ++
        (d.keyWriters keys entity).map fun generalization =>
          (d.superclassKeys generalization).map (·.foreignColumn) := by
  have nothing : ∀ phase : Phase, phase ≠ .primaryKeys → phase ≠ .generalizations →
      (phase.sketches settings d keys).flatMap (·.primaryKeysOn (tableName entity.label)) = [] :=
    fun _ notFirst notSecond => List.flatMap_eq_nil_iff.2 fun _ inPhase =>
      distinct.primaryKeysOn_eq_nil inKind notFirst notSecond inPhase
  have first := primaryKeysOn_strongKeySketches distinct inKind keyed
  have second := primaryKeysOn_generalizationSketches distinct inKind
  rw [primaryKeysOn_outline, ← first, ← second]
  simp only [Phase.all, List.flatMap_cons, List.flatMap_nil, List.append_nil]
  rw [nothing .tables (by decide) (by decide), nothing .partialKeys (by decide) (by decide),
    nothing .associativeEntities (by decide) (by decide),
    nothing .relationships (by decide) (by decide),
    nothing .multivaluedAttributes (by decide) (by decide),
    nothing .derivedAttributes (by decide) (by decide)]
  simp only [Phase.sketches, List.nil_append, List.append_nil]

theorem keyWriters_of_none (none : d.generalizationOf? entity = none) :
    d.keyWriters keys entity = [] := by
  refine List.flatMap_eq_nil_iff.2 fun generalization inKinds => ?_
  obtain ⟨inNodes, kind⟩ := mem_ofKinds_iff.1 inKinds
  have noLink : (d.subtypeEnds generalization).filter (·.2 = entity) = [] := by
    refine List.filter_eq_nil_iff.2 fun neighbour near itself => ?_
    obtain rfl : neighbour.2 = entity := of_decide_eq_true itself
    simpa [none] using generalizationOf_isSome_of_mem_subtypeEnds inNodes kind near
  simp [noLink]

end Entity

/-! ## Subtypes of one generalization -/

/-- At most one link makes the entity a subtype. -/
def SubtypeOnce (d : Classified) (entity : Construct) : Prop :=
  ∀ first ∈ d.ofKinds (·.isGeneralization), ∀ second ∈ d.ofKinds (·.isGeneralization),
    ∀ firstLink secondLink, (firstLink, entity) ∈ d.subtypeEnds first →
      (secondLink, entity) ∈ d.subtypeEnds second → first = second ∧ firstLink = secondLink

theorem neighbours_nodup (d : Classified) (id : String) : (d.neighbours id).Nodup := by
  have links : d.links.Nodup := d.link_ids_nodup.of_map
  refine (links.filter _).filterMap fun first second neighbour firstEnd secondEnd => ?_
  obtain ⟨_, _, rfl⟩ := Option.map_eq_some_iff.1 firstEnd
  obtain ⟨_, _, same⟩ := Option.map_eq_some_iff.1 secondEnd
  exact (Prod.ext_iff.1 same).1.symm

theorem subtypeEnds_nodup (generalization : Construct) : (d.subtypeEnds generalization).Nodup :=
  ((d.neighbours_nodup generalization.id).filter _).filter _

theorem eq_singleton_of_nodup {α : Type} {items : List α} {item : α} (distinct : items.Nodup)
    (mem : item ∈ items) (only : ∀ other ∈ items, other = item) : items = [item] := by
  have same : (items.flatMap fun other => [other]) = [item] :=
    flatMap_eq_of_only distinct mem fun other otherIn apart => absurd (only other otherIn) apart
  simpa using same

/-- If a single link makes an entity a subtype and the generalization at its other end writes keys,
this generalization is the only writer, and writes once. -/
theorem keyWriters_of_subtypeOnce {entity generalization : Construct} {link : Link}
    (once : d.SubtypeOnce entity) (inKinds : generalization ∈ d.ofKinds (·.isGeneralization))
    (inEnds : (link, entity) ∈ d.subtypeEnds generalization)
    (writes : d.writesKeys keys generalization = true) :
    d.keyWriters keys entity = [generalization] := by
  have distinct : (d.ofKinds (·.isGeneralization)).Nodup := d.nodes_nodup.filter _
  rw [keyWriters, flatMap_eq_of_only distinct inKinds]
  · have here : (d.subtypeEnds generalization).filter (·.2 = entity) = [(link, entity)] := by
      refine eq_singleton_of_nodup ((subtypeEnds_nodup generalization).filter _)
        (List.mem_filter.2 ⟨inEnds, by simp⟩) fun neighbour mem => ?_
      obtain ⟨near, itself⟩ := List.mem_filter.1 mem
      obtain ⟨otherLink, other⟩ := neighbour
      obtain rfl : other = entity := of_decide_eq_true itself
      rw [(once _ inKinds _ inKinds _ _ near inEnds).2]
    rw [if_pos writes, here]
    rfl
  · intro other otherIn apart
    have elsewhere : (d.subtypeEnds other).filter (·.2 = entity) = [] := by
      refine List.filter_eq_nil_iff.2 fun neighbour near itself => apart ?_
      obtain ⟨otherLink, node⟩ := neighbour
      obtain rfl : node = entity := of_decide_eq_true itself
      exact (once _ otherIn _ inKinds _ _ near inEnds).1
    simp [elsewhere]

/-- In complete hierarchies without a cycle one generalization writes the key of an
entity that is a subtype once. -/
theorem Settled.keyWriters_eq (settled : d.Settled keys) (hierarchies : d.StrongHierarchies)
    (acyclic : d.SuperclassesAcyclic) {entity generalization : Construct}
    (inKind : entity ∈ d.ofKind .strongEntity) (keyed : keys entity ≠ [])
    (once : d.SubtypeOnce entity) (above : d.generalizationOf? entity = some generalization) :
    d.keyWriters keys entity = [generalization] ∧
      (d.superclassKeys generalization).map (·.foreignColumn) = (keys entity).map (·.column) := by
  obtain ⟨inNodes, kind⟩ := mem_ofKind_iff.1 inKind
  obtain ⟨inKinds, link, top, inEnds, found, rootKeyed, usable, heir⟩ :=
    settled.heir hierarchies acyclic inNodes kind keyed above
  constructor
  · refine keyWriters_of_subtypeOnce once inKinds inEnds ?_
    simp [writesKeys, found, rootKeyed, usable]
  · rw [heir, ← heirOf_columns (d.superclassKeys generalization) (link, entity)]
    rfl

/-- Entities have tables of their own if no other tables are generated. -/
theorem tablesDistinct_of_none (entities : ((d.ofKinds (·.isEntity)).map (tableName ·.label)).Nodup)
    (relationships : d.ofKind .relationship = [])
    (multivalued : d.ofKind .multivaluedAttribute = []) : d.TablesDistinct keys := by
  refine ⟨entities, fun name generates => ?_⟩
  cases generates with
  | junction mem => simp [relationships] at mem
  | multivaluedAttribute mem => simp [multivalued] at mem

end Classified

/-! ## Scripts -/

open Classified

/-- A strong entity that has a key gets exactly that as its primary key if it is no
subtype, or if just one link to a generalization writes a key for it and writes
that one; and only then.  In complete hierarchies without a cycle, being a subtype at
most once is enough. -/
theorem primary_key_unique_exactly {settings : Settings} {diagram : Diagram} {d : Classified}
    {result : CompileResult} (read : diagram.classify = .ok d)
    (compiled : compile settings diagram = .ok result)
    (distinct : d.TablesDistinct (keysAfter settings diagram d)) {entity : Construct}
    (inKind : entity ∈ d.ofKind .strongEntity) (keyed : keysAfter settings diagram d entity ≠ []) :
    (primaryKeysOn (tableName entity.label) result.statements =
          [(keysAfter settings diagram d entity).map (·.column)] ↔
        d.generalizationOf? entity = none ∨
          ∃ generalization,
            d.keyWriters (keysAfter settings diagram d) entity = [generalization] ∧
              (d.superclassKeys generalization).map (·.foreignColumn) =
                (keysAfter settings diagram d entity).map (·.column)) ∧
      (d.StrongHierarchies → d.SuperclassesAcyclic → d.SubtypeOnce entity →
        primaryKeysOn (tableName entity.label) result.statements =
          [(keysAfter settings diagram d entity).map (·.column)]) := by
  have exactly : primaryKeysOn (tableName entity.label) result.statements =
        [(keysAfter settings diagram d entity).map (·.column)] ↔
      d.generalizationOf? entity = none ∨
        ∃ generalization,
          d.keyWriters (keysAfter settings diagram d) entity = [generalization] ∧
            (d.superclassKeys generalization).map (·.foreignColumn) =
              (keysAfter settings diagram d entity).map (·.column) := by
    rw [primaryKeysOn_of_fits (statements_fit_outline read compiled),
      primaryKeysOn_outline_strong distinct inKind keyed]
    by_cases top : d.generalizationOf? entity = none
    · simp [top, keyWriters_of_none top]
    · rw [if_neg top, List.nil_append, List.map_eq_singleton_iff]
      simp [top]
  refine ⟨exactly, fun hierarchies acyclic once => exactly.2 ?_⟩
  cases above : d.generalizationOf? entity with
  | none => exact .inl rfl
  | some generalization =>
      have settled := settled_keysAfter settings read
      exact .inr ⟨generalization,
        settled.keyWriters_eq hierarchies acyclic inKind keyed once above⟩

/-- A subtype with a key of its own and a generalization without a superclass. -/
def orphanSubtype : Diagram :=
  { nodes :=
      [.drawn "e" "E" "StrongEntity", .drawn "k" "k" "KeyAttribute",
       .drawn "g" "G" "GeneralizationDisjoint"]
    connections := [.drawn "1" "e" "k", .drawn "2" "g" "e" "GeneralizationToSubtype"]
    node_ids_nodup := by decide
    connection_ids_nodup := by decide }

def orphan : Construct := { id := "e", label := "E", kind := .strongEntity }

/-- A strong entity may go without the primary key that is found for it.  The phase of primary keys
leaves it to its generalization, which is left out itself because it has no superclass. -/
theorem orphanSubtype_without_primary_key :
    ¬∀ (settings : Settings) (diagram : Diagram) (d : Classified) (result : CompileResult),
      diagram.classify = .ok d → compile settings diagram = .ok result →
        d.TablesDistinct (keysAfter settings diagram d) →
          ∀ entity ∈ d.ofKind .strongEntity, keysAfter settings diagram d entity ≠ [] →
            primaryKeysOn (tableName entity.label) result.statements =
              [(keysAfter settings diagram d entity).map (·.column)] := by
  intro unique
  have checked : classifiesTo orphanSubtype (fun d => decide
      (((d.ofKinds (·.isEntity)).map (tableName ·.label)).Nodup ∧
        d.ofKind .relationship = [] ∧ d.ofKind .multivaluedAttribute = [] ∧
        orphan ∈ d.ofKind .strongEntity ∧ d.strongKeyOf orphan ≠ [])) = true := by decide +kernel
  have unkeyed : compilesTo {} orphanSubtype (fun statements => decide
      (primaryKeysOn "E" statements = [])) = true := by decide +kernel
  obtain ⟨d, read, holds⟩ := exists_of_classifiesTo checked
  obtain ⟨entities, relationships, multivalued, inKind, keyed⟩ := of_decide_eq_true holds
  obtain ⟨result, compiled, none⟩ := exists_of_compilesTo unkeyed
  obtain ⟨inNodes, kind⟩ := mem_ofKind_iff.1 inKind
  have computed := (settled_keysAfter {} read).strong inNodes kind
  have one := unique {} orphanSubtype d result read compiled
    (tablesDistinct_of_none entities relationships multivalued) orphan inKind (computed ▸ keyed)
  have table : tableName orphan.label = "E" := by decide +kernel
  rw [table, of_decide_eq_true none] at one
  simp at one

/-- A superclass and a subtype. -/
def subtypePair : Diagram :=
  { nodes :=
      [.drawn "p" "P" "StrongEntity", .drawn "k" "k" "KeyAttribute",
       .drawn "g" "G" "GeneralizationDisjoint", .drawn "e" "E" "StrongEntity"]
    connections :=
      [.drawn "1" "p" "k", .drawn "2" "g" "p" "SingleLineGeneralization",
       .drawn "3" "g" "e" "GeneralizationToSubtype"]
    node_ids_nodup := by decide
    connection_ids_nodup := by decide }

/-- A subtype below a superclass with a key: its one primary key is written by the generalization.
-/
theorem subtypePair_primary_key_unique :
    ∃ d result, subtypePair.classify = .ok d ∧ compile {} subtypePair = .ok result ∧
      d.TablesDistinct (keysAfter {} subtypePair d) ∧
      orphan ∈ d.ofKind .strongEntity ∧ keysAfter {} subtypePair d orphan ≠ [] ∧
      d.generalizationOf? orphan ≠ none ∧
      primaryKeysOn "E" result.statements = [["k-p"]] ∧
      ∃ generalization, d.keyWriters (keysAfter {} subtypePair d) orphan = [generalization] := by
  have checked : classifiesTo subtypePair (fun d => decide
      (((d.ofKinds (·.isEntity)).map (tableName ·.label)).Nodup ∧
        d.ofKind .relationship = [] ∧ d.ofKind .multivaluedAttribute = [] ∧
        orphan ∈ d.ofKind .strongEntity ∧ (d.strongKeyOf orphan).map (·.column) = ["k-p"] ∧
        d.generalizationOf? orphan ≠ none)) = true := by decide +kernel
  have keyedOnce : compilesTo {} subtypePair (fun statements => decide
      (primaryKeysOn "E" statements = [["k-p"]])) = true := by decide +kernel
  obtain ⟨d, read, holds⟩ := exists_of_classifiesTo checked
  obtain ⟨entities, relationships, multivalued, inKind, columns, below⟩ := of_decide_eq_true holds
  obtain ⟨result, compiled, once⟩ := exists_of_compilesTo keyedOnce
  obtain ⟨inNodes, kind⟩ := mem_ofKind_iff.1 inKind
  have distinct : d.TablesDistinct (keysAfter {} subtypePair d) :=
    tablesDistinct_of_none entities relationships multivalued
  rw [← (settled_keysAfter {} read).strong inNodes kind] at columns
  have keyed : keysAfter {} subtypePair d orphan ≠ [] := by
    intro none
    simp [none] at columns
  have table : tableName orphan.label = "E" := by decide +kernel
  obtain ⟨exactly, _⟩ := primary_key_unique_exactly read compiled distinct inKind keyed
  rw [table, columns] at exactly
  obtain top | ⟨generalization, writers, _⟩ := exactly.1 (of_decide_eq_true once)
  · exact absurd top below
  · exact ⟨d, result, read, compiled, distinct, inKind, keyed, below, of_decide_eq_true once,
      generalization, writers⟩

end EntitySchema
