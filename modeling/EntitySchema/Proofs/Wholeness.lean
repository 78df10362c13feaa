/-
# EntitySchema.Proofs.Wholeness -- constructs are encoded whole or reported

Half of a construct is worse than none: a foreign key without its columns, or a table whose
primary key is missing.  `Classified.Whole` lists the groups of statements that the constructs
are encoded by, one constructor for each kind, and `WholeOrReported` says of what a construct
contributed that it is such a group, or nothing but one issue that names the construct.

A generalization is no construct with a single group: it has one for each of its strong
subtypes, and an issue for each of the others (`HierarchyWholeOrReported`).

There is one lemma for each kind, about its sketch; `constructs_whole_or_reported` is the
statement about a result.
-/
import EntitySchema.Proofs.Shares
import EntitySchema.Proofs.TableColumns

namespace EntitySchema

set_option autoImplicit false

/-! ## Groups of statements -/

structure ForeignKey.Joins (key : ForeignKey) (table : String) (place : KeyedEnd) : Prop where
  table : key.table = table
  refTable : key.refTable = place.table
  refColumns : key.refColumns = place.columns

/-- Foreign keys of a table to some entities, in order, and the columns that they are made of:
one for each key column referred to, and of its type. -/
structure RefersTo (table : String) (places : List KeyedEnd) (columns : List Column)
    (foreign : List ForeignKey) : Prop where
  joins : List.Forall₂ (fun place key =>
    key.Joins table place ∧ key.columns.length = place.columns.length) places foreign
  names : columns.map (·.name) = foreign.flatMap (·.columns)
  types : columns.map (·.sqlType) = places.flatMap fun place => place.keys.map (·.sqlType)

def Key.asColumn (key : Key) : Column := keyColumn key.column key.sqlType

theorem addKeyColumns_eq (table : String) (keys : List Key) :
    addKeyColumns table keys = (keys.map Key.asColumn).map (.addColumn table) := by
  rw [List.map_map]
  rfl

theorem map_name_asColumn (keys : List Key) :
    (keys.map Key.asColumn).map (·.name) = keys.map (·.column) := by
  rw [List.map_map]
  rfl

/-- The foreign keys of a table and its primary key. -/
def tableKeys (table : String) (foreign : List ForeignKey) (primary : List String) :
    List Statement :=
  foreign.map .addForeignKey ++ [.addPrimaryKey table ("PK_" ++ table) primary]

/-- As many columns as keys have the types of the keys. -/
theorem map_snd_typedColumns {reference : Reference}
    (long : reference.columns.length = reference.target.keys.length) :
    reference.typedColumns.map (·.2) = reference.sqlTypes := by
  rw [Reference.typedColumns, List.map_snd_zip]
  simp [Reference.sqlTypes, long]

/-- The foreign keys that references make. -/
def foreignKeysOf (table : String) (references : List Reference) : List ForeignKey :=
  references.mapIdx fun position reference =>
    { table, constraint := foreignKeyName table position, columns := reference.columns,
      refTable := reference.refTable, refColumns := reference.refColumns }

theorem flatMap_columns_foreignKeysOf (table : String) (references : List Reference) :
    (foreignKeysOf table references).flatMap (·.columns) = references.flatMap (·.columns) := by
  rw [List.flatMap_def, List.flatMap_def]
  exact congrArg List.flatten
    (List.ext_getElem (by simp [foreignKeysOf]) (by simp [foreignKeysOf]))

theorem junctionKeys_eq (table : String) (references : List Reference) :
    junctionKeys table references =
      tableKeys table (foreignKeysOf table references)
        ((foreignKeysOf table references).flatMap (·.columns)) := by
  rw [flatMap_columns_foreignKeysOf]
  simp [junctionKeys, tableKeys, referenceKeys, foreignKeysOf, primaryKey,
    List.mapIdx_eq_zipIdx_map]

theorem notNull_of_mem_referenceColumns {references : List Reference} {column : Column}
    (mem : column ∈ referenceColumns references) : column.notNull = true := by
  obtain ⟨reference, _, typed⟩ := List.mem_flatMap.1 mem
  obtain ⟨_, _, rfl⟩ := List.mem_map.1 typed
  rfl

theorem map_target_planReferences {ends : List KeyedEnd} (keyed : ∀ place ∈ ends, place.keys ≠ [])
    (taken : List String) : (planReferences taken ends).map (·.target) = ends := by
  induction ends generalizing taken with
  | nil => rfl
  | cons place rest ih =>
      have here : place.keys.isEmpty = false := by simpa using keyed place List.mem_cons_self
      have others := ih fun other mem => keyed other (List.mem_cons_of_mem place mem)
      rw [planReferences, here]
      simp [others]

/-- Items are related one by one to what is made of them and of their positions. -/
theorem forall₂_mapIdx {α β : Type} {R : α → β → Prop} {items : List α} {make : Nat → α → β}
    (related : ∀ item ∈ items, ∀ position, R item (make position item)) :
    List.Forall₂ R items (items.mapIdx make) := by
  induction items generalizing make with
  | nil => exact .nil
  | cons item rest ih =>
      rw [List.mapIdx_cons]
      exact .cons (related item List.mem_cons_self 0)
        (ih fun other mem position => related other (List.mem_cons_of_mem item mem) (position + 1))

/-- The references to entities that all have keys. -/
theorem refersTo_planReferences {ends : List KeyedEnd} (keyed : ∀ place ∈ ends, place.keys ≠ [])
    (taken : List String) (table : String) :
    RefersTo table ends (referenceColumns (planReferences taken ends))
      (foreignKeysOf table (planReferences taken ends)) := by
  have targets := map_target_planReferences keyed taken
  generalize planned : planReferences taken ends = references at targets ⊢
  have long : ∀ reference ∈ references,
      reference.columns.length = reference.target.keys.length := by
    rw [← planned]
    exact fun _ => length_columns_of_planned
  subst targets
  refine ⟨?_, ?_, ?_⟩
  · refine List.forall₂_map_left_iff.2 (forall₂_mapIdx fun reference mem position => ?_)
    exact ⟨⟨rfl, rfl, rfl⟩, by simp [long reference mem, KeyedEnd.columns]⟩
  · rw [map_name_referenceColumns long, flatMap_columns_foreignKeysOf]
  · rw [referenceColumns, List.map_flatMap, List.flatMap_map]
    refine List.flatMap_congr fun reference mem => ?_
    refine Eq.trans ?_ (map_snd_typedColumns (long reference mem))
    rw [List.map_map]
    rfl

/-- The encoding of a construct in a phase, as the group of its statements. -/
inductive Classified.Whole (settings : Settings) (d : Classified) (keys : KeyTable) :
    Phase → Construct → List Statement → Prop
  | strongKey {entity : Construct} :
      keys entity ≠ [] →
        Whole settings d keys .primaryKeys entity
          (tableKeys (tableName entity.label) [] ((keys entity).map (·.column)))
  | weakKey {weak : Construct} {partialKey : Key} {owner : KeyedEnd} {key : ForeignKey}
      {columns : List Column} :
      d.partialKey? weak = some partialKey → d.ownerIn keys weak = some owner →
        columns = ((keys weak).drop 1).map Key.asColumn →
        key.Joins (tableName weak.label) owner → key.columns = columns.map (·.name) →
          Whole settings d keys .partialKeys weak
            (columns.map (.addColumn (tableName weak.label))
              ++ tableKeys (tableName weak.label) [key] (partialKey.column :: key.columns))
  | junction {node : Construct} {ends : List KeyedEnd} {columns : List Column}
      {foreign : List ForeignKey} :
      d.encodingIn keys node = .junction ends →
        RefersTo (junctionTable ends) ends columns foreign →
        (∀ column ∈ columns, column.notNull = true) →
          Whole settings d keys .relationships node
            (.createTable (junctionTable ends) (columns ++ d.storedColumns node)
              :: tableKeys (junctionTable ends) foreign (foreign.flatMap (·.columns)))
  | embedding {node : Construct} {how : Embedding} {reference : Reference}
      {columns : List Column} {key : ForeignKey} {triggers : List Trigger} :
      d.encodingIn keys node = .embedding how →
        RefersTo how.holder.table [how.target] columns [key] →
        (∀ column ∈ columns, column.notNull = how.notNull) → key.deferrable = how.guarded →
        reference = { target := how.target, columns := key.columns } →
        List.Forall₂ (TriggerPlan.IssuedAs settings.violationMessage)
          (embeddingPlans node how reference) triggers →
          Whole settings d keys .relationships node
            ((columns ++ d.storedColumns node).map (.addColumn how.holder.table)
              ++ [.addForeignKey key] ++ triggers.map .createTrigger)
  | associativeEntity {entity : Construct} {columns : List Column} {foreign : List ForeignKey} :
      d.participantEnds entity ≠ [] →
        RefersTo (tableName entity.label) (d.participantsIn keys entity) columns foreign →
        (∀ column ∈ columns, column.notNull = true) →
          Whole settings d keys .relationships entity
            (columns.map (.addColumn (tableName entity.label))
              ++ tableKeys (tableName entity.label) foreign (foreign.flatMap (·.columns)))
  | childTable {item owner : Construct} {columns : List Column} {surrogate value : Column}
      {key : ForeignKey} :
      d.ownerOf? item = some owner → keys owner ≠ [] →
        columns = (keys owner).map Key.asColumn →
        surrogate = keyColumn ("pk-" ++ value.name) (some settings.surrogateKeyType) →
        value = { name := Text.lowerString (columnName item.label), sqlType := item.sqlType,
                  notNull := !item.nullable } →
        key.table = childTable item owner → key.refTable = tableName owner.label →
        key.columns = columns.map (·.name) → key.refColumns = columns.map (·.name) →
          Whole settings d keys .multivaluedAttributes item
            [.createTable (childTable item owner) (columns ++ [surrogate, value]),
              .addPrimaryKey (childTable item owner) ("PK_" ++ childTable item owner)
                [surrogate.name],
              .addForeignKey key]
  | view {item owner : Construct} {used : List String} {query : String} :
      d.ownerOf? item = some owner → queryOf? item = some query →
        Whole settings d keys .derivedAttributes item
          [.createView (viewName used item owner) query]

/-- A construct contributed a whole group and no issue, or no statement and one issue that
names it. -/
inductive WholeOrReported (whole : List Statement → Prop) (node : Construct) : Output → Prop
  | whole {statements : List Statement} :
      whole statements → WholeOrReported whole node ⟨statements, []⟩
  | reported {issue : Issue} :
      issue.nodeId = some node.id → WholeOrReported whole node ⟨[], [issue]⟩

theorem WholeOrReported.nodeId_of_mem {whole : List Statement → Prop} {node : Construct}
    {output : Output} (settled : WholeOrReported whole node output) {issue : Issue}
    (mem : issue ∈ output.issues) : issue.nodeId = some node.id := by
  cases settled with
  | whole _ => exact absurd mem List.not_mem_nil
  | reported named =>
      rw [List.mem_singleton.1 mem]
      exact named

namespace Classified

variable {settings : Settings} {d : Classified} {keys : KeyTable}

/-! ## Entities and attributes -/

theorem generalizationOf_eq_none {entity : Construct} (mem : entity ∈ d.ofKind .strongEntity)
    (noSubtype : ∀ generalization ∈ d.ofKinds (·.isGeneralization), ∀ link,
      (link, entity) ∉ d.subtypeEnds generalization) : d.generalizationOf? entity = none := by
  obtain ⟨inNodes, kind⟩ := mem_ofKind_iff.1 mem
  refine Option.eq_none_iff_forall_ne_some.2 fun generalization found => ?_
  obtain ⟨link, isSubtype⟩ := mem_subtypeEnds_of_generalizationOf inNodes (by rw [kind]; rfl) found
  obtain ⟨_, near, isGeneralization, _⟩ := generalizationOf_spec found
  have inKinds := mem_ofKinds_iff.2 ⟨mem_nodes_of_mem_neighbours near, isGeneralization⟩
  exact noSubtype generalization inKinds link isSubtype

theorem wholeOrReported_strongKey {entity : Construct} (root : d.generalizationOf? entity = none)
    (code : Int) :
    WholeOrReported (d.Whole settings keys .primaryKeys entity) entity
      ((d.strongKeySketch keys entity).numbered settings.violationMessage code) := by
  unfold strongKeySketch
  rw [root, Option.isSome_none, if_neg Bool.false_ne_true]
  by_cases keyless : keys entity = []
  · rw [if_pos (by simp [keyless])]
    exact .reported rfl
  · rw [if_neg (by simpa using keyless)]
    exact .whole (.strongKey keyless)

/-- A weak entity gets all of its key or is reported once, for its missing partial key or else for
its missing owner. -/
theorem wholeOrReported_weakKey {weak : Construct} (code : Int) :
    WholeOrReported (d.Whole settings keys .partialKeys weak) weak
      ((d.weakKeySketch keys weak).numbered settings.violationMessage code) := by
  unfold weakKeySketch
  cases declared : d.partialKey? weak with
  | none => exact .reported rfl
  | some partialKey =>
      dsimp only
      cases owned : d.ownerIn keys weak with
      | none => exact .reported rfl
      | some owner =>
          dsimp only
          rw [numbered_of_statements]
          have columns := map_name_asColumn ((keys weak).drop 1)
          rw [weakKeyStatements, addKeyColumns_eq, ← columns]
          exact .whole (.weakKey declared owned rfl ⟨rfl, rfl, rfl⟩ rfl)

/-- An associative entity with references has one to each of its participants. -/
theorem referencesIn_spec {entity : Construct} (referring : d.referencesIn keys entity ≠ []) :
    d.participantEnds entity ≠ [] ∧ (∀ place ∈ d.participantsIn keys entity, place.keys ≠ []) ∧
      d.referencesIn keys entity =
        planReferences (d.attributeColumns entity) (d.participantsIn keys entity) := by
  unfold referencesIn referencesOf at referring ⊢
  split at referring
  · exact absurd rfl referring
  · rename_i complete
    rw [if_neg complete]
    simp only [Bool.or_eq_true, not_or, List.isEmpty_iff, participantsIn, List.map_eq_nil_iff,
      List.any_eq_true, not_exists, not_and] at complete
    exact ⟨complete.1, complete.2, rfl⟩

/-- The output of an associative entity with references: its columns and its keys. -/
theorem numbered_associativeSketch {entity : Construct} (referring : d.referencesIn keys entity ≠ [])
    (message : String) (code : Int) :
    (d.associativeSketch keys entity).numbered message code =
      ⟨associativeStatements (tableName entity.label) (d.referencesIn keys entity), []⟩ := by
  have statements := statements_associativeSketch d keys entity
  have issues : (d.associativeSketch keys entity).issues = [] := by
    simp [associativeSketch, referring]
  have unplanned : ∀ plan, .trigger plan ∉ (d.associativeSketch keys entity).parts :=
    fun plan mem => not_triggers_of_associativeSketch mem trivial
  rw [if_neg referring] at statements
  rw [numbered_of_unplanned _ unplanned, issues, statements]

theorem wholeOrReported_associativeEntity {entity : Construct} (code : Int) :
    WholeOrReported (d.Whole settings keys .relationships entity) entity
      ((d.associativeSketch keys entity).numbered settings.violationMessage code) := by
  by_cases none : d.referencesIn keys entity = []
  · have left : d.associativeSketch keys entity =
        (Omission.associativeWithoutKey entity).sketch := by simp [associativeSketch, none]
    rw [left]
    exact .reported rfl
  · obtain ⟨some, keyed, planned⟩ := referencesIn_spec none
    rw [numbered_associativeSketch none, planned, associativeStatements, junctionKeys_eq]
    exact .whole (.associativeEntity some (refersTo_planReferences keyed _ _)
      fun _ => notNull_of_mem_referenceColumns)

/-- A multivalued attribute has a whole child table, or is reported for its missing owner or for the
key that its owner lacks. -/
theorem wholeOrReported_multivaluedAttribute {item : Construct} (code : Int) :
    WholeOrReported (d.Whole settings keys .multivaluedAttributes item) item
      ((d.multivaluedSketch keys settings.surrogateKeyType item).numbered
        settings.violationMessage code) := by
  unfold multivaluedSketch
  cases owned : d.ownerOf? item with
  | none => exact .reported rfl
  | some owner =>
      dsimp only
      split
      · exact .reported rfl
      rename_i keyed
      have columns := map_name_asColumn (keys owner)
      rw [numbered_of_statements, childTableStatements, ← columns]
      exact .whole (.childTable owned (by simpa using keyed) rfl rfl rfl rfl rfl rfl rfl)

/-- A derived attribute has its view or is reported; which name the view has depends on those before
it, and whether there is one does not. -/
theorem wholeOrReported_derivedAttribute {item : Construct} {used : List String} {sketch : Sketch}
    (views : d.viewSketches used [item] = [sketch]) (code : Int) :
    WholeOrReported (d.Whole settings keys .derivedAttributes item) item
      (sketch.numbered settings.violationMessage code) := by
  simp only [viewSketches] at views
  cases owned : d.ownerOf? item with
  | none =>
      rw [owned] at views
      obtain rfl := List.singleton_inj.1 views
      exact .reported rfl
  | some owner =>
      rw [owned] at views
      dsimp only at views
      cases asked : queryOf? item with
      | none =>
          rw [asked] at views
          obtain rfl := List.singleton_inj.1 views
          exact .reported rfl
      | some query =>
          rw [asked] at views
          obtain rfl := List.singleton_inj.1 views
          exact .whole (.view owned asked)

/-! ## Relationships -/

/-- A relationship is left out with an issue that names it, or drafted by its encoding. -/
theorem relationshipSketch_spec (d : Classified) (keys : KeyTable) (reserved : Reservations)
    (node : Construct) :
    match d.encodingIn keys node with
    | .leftOut => ∃ omission : Omission, omission.issue.nodeId = some node.id ∧
        (d.relationshipSketch keys reserved node).1 = omission.sketch
    | .junction ends => (∀ place ∈ ends, place.keys ≠ []) ∧
        (d.relationshipSketch keys reserved node).1 = d.junctionSketch node ends
    | .embedding how => (d.relationshipSketch keys reserved node).1 =
        d.embeddingSketch node how (d.referenceAfter keys reserved how) := by
  unfold relationshipSketch encodingIn Encoding.ofEnds
  generalize d.relationshipEnds keys node = ends
  dsimp only
  cases matched : Cardinality.ofEnds? (ends.map (·.link.kind)) with
  | none => exact ⟨_, rfl, rfl⟩
  | some cardinality =>
      dsimp only
      by_cases keyless : ends.any (·.keys.isEmpty) = true
      · have named : (!((ends.filter (·.keys.isEmpty)).map (·.table)).isEmpty) = true := by
          simpa using keyless
        rw [if_pos keyless, if_pos named]
        exact ⟨_, rfl, rfl⟩
      have named : ¬(!((ends.filter (·.keys.isEmpty)).map (·.table)).isEmpty) = true := by
        simpa using keyless
      rw [if_neg keyless, if_neg named]
      by_cases many : cardinality = .manyToMany
      · rw [if_pos many, if_pos many]
        exact ⟨by simpa using keyless, rfl⟩
      · rw [if_neg many, if_neg many]
        -- only many to many relationships have more than two ends
        have two := Cardinality.length_of_ofEnds matched many
        rw [List.length_map] at two
        obtain ⟨first, second, rfl⟩ := List.length_eq_two.1 two
        rfl

/-- The output of a junction table, which has no triggers. -/
theorem numbered_junctionSketch (d : Classified) (node : Construct) (ends : List KeyedEnd)
    (message : String) (code : Int) :
    (d.junctionSketch node ends).numbered message code = ⟨junctionStatements d node ends, []⟩ := by
  have unplanned : ∀ plan, .trigger plan ∉ (d.junctionSketch node ends).parts :=
    fun _ mem => Part.not_triggers_of_mem_junctionSketch mem trivial
  rw [numbered_of_unplanned _ unplanned, statements_junctionSketch]
  rfl

/-- The output of an embedding: its statements, then its triggers. -/
theorem numbered_embeddingSketch (d : Classified) (node : Construct) (how : Embedding)
    (reference : Reference) (message : String) (code : Int) :
    (d.embeddingSketch node how reference).numbered message code =
      ⟨embeddingStatements d node how reference
        ++ (issuedFrom message code (embeddingPlans node how reference)).map .createTrigger, []⟩ := by
  have unplanned := Part.trigger_not_mem_map_of (.relationship node) how.target.node
    (embeddingStatements d node how reference)
  rw [embeddingSketch, numbered_of_plans message unplanned, Sketch.statements_of_map]

theorem whole_junction {node : Construct} {ends : List KeyedEnd}
    (encoded : d.encodingIn keys node = .junction ends)
    (keyed : ∀ place ∈ ends, place.keys ≠ []) :
    d.Whole settings keys .relationships node (junctionStatements d node ends) := by
  rw [junctionStatements, junctionKeys_eq]
  exact .junction encoded (refersTo_planReferences keyed [] _)
    fun _ => notNull_of_mem_referenceColumns

/-- The statements of an embedding: columns that refer to the target, the attributes of the
relationship, and the foreign key. -/
theorem embeddingStatements_spec (d : Classified) (node : Construct) (how : Embedding)
    (taken : List String) :
    ∃ columns key, RefersTo how.holder.table [how.target] columns [key] ∧
      (∀ column ∈ columns, column.notNull = how.notNull) ∧ key.deferrable = how.guarded ∧
      embeddedReference taken how = { target := how.target, columns := key.columns } ∧
      embeddingStatements d node how (embeddedReference taken how) =
        (columns ++ d.storedColumns node).map (.addColumn how.holder.table)
          ++ [.addForeignKey key] := by
  have long : (embeddedReference taken how).columns.length = how.target.keys.length :=
    length_foreignColumns taken how.target.keys
  refine ⟨_,
    { table := how.holder.table
      constraint := "FK_" ++ how.holder.table ++ "_" ++ tableName node.label
      columns := (embeddedReference taken how).columns, refTable := how.target.table
      refColumns := how.target.columns, deferrable := how.guarded },
    ⟨.cons ⟨⟨rfl, rfl, rfl⟩, ?_⟩ .nil, ?_, ?_⟩, ?_, rfl, rfl, embeddingStatements_eq d node how _⟩
  · rw [KeyedEnd.columns, List.length_map]
    exact long
  · rw [List.map_map, List.flatMap_singleton]
    exact map_fst_typedColumns long
  · rw [List.map_map, List.flatMap_singleton]
    exact map_snd_typedColumns long
  · intro column mem
    obtain ⟨_, _, rfl⟩ := List.mem_map.1 mem
    rfl

theorem whole_embedding {node : Construct} {how : Embedding}
    (encoded : d.encodingIn keys node = .embedding how) {reference : Reference}
    {taken : List String} (planned : reference = embeddedReference taken how)
    {triggers : List Trigger}
    (issued : List.Forall₂ (TriggerPlan.IssuedAs settings.violationMessage)
      (embeddingPlans node how reference) triggers) :
    d.Whole settings keys .relationships node
      (embeddingStatements d node how reference ++ triggers.map .createTrigger) := by
  subst planned
  obtain ⟨columns, key, refers, notNull, deferrable, reference, statements⟩ :=
    embeddingStatements_spec d node how taken
  rw [statements]
  exact .embedding encoded refers notNull deferrable reference issued

/-- A relationship is encoded whole, whichever way, or reported once.  No column is added for one
that is left out halfway, because the ends are checked first. -/
theorem wholeOrReported_relationship {node : Construct} (reserved : Reservations) (code : Int) :
    WholeOrReported (d.Whole settings keys .relationships node) node
      ((d.relationshipSketch keys reserved node).1.numbered settings.violationMessage code) := by
  have spec := relationshipSketch_spec d keys reserved node
  cases encoded : d.encodingIn keys node with
  | leftOut =>
      rw [encoded] at spec
      obtain ⟨omission, named, left⟩ := spec
      rw [left]
      exact .reported named
  | junction ends =>
      rw [encoded] at spec
      obtain ⟨keyed, drafted⟩ := spec
      rw [drafted, numbered_junctionSketch]
      exact .whole (whole_junction encoded keyed)
  | embedding how =>
      rw [encoded] at spec
      rw [spec, numbered_embeddingSketch]
      exact .whole (whole_embedding encoded rfl (forall₂_issuedFrom _ _ _))

/-! ## Generalizations -/

/-- The group of a strong subtype: the key columns of the root, a foreign key to the superclass
and the primary key. -/
def KeysSubtype (d : Classified) (generalization : Construct) (superclass : KeyedEnd)
    (neighbour : Link × Construct) (statements : List Statement) : Prop :=
  let table := tableName neighbour.2.label
  let columns := (d.superclassKeys generalization).map fun key =>
    keyColumn key.foreignColumn key.sqlType
  ∃ key : ForeignKey, key.Joins table superclass ∧ key.columns = columns.map (·.name) ∧
    key.columns.length = key.refColumns.length ∧ key.onDelete = some "CASCADE" ∧
    statements = columns.map (.addColumn table) ++ tableKeys table [key] key.columns

theorem map_asColumn_heirOf (rootKeys : List Key) (neighbour : Link × Construct) :
    (heirOf rootKeys neighbour).keys.map Key.asColumn =
      rootKeys.map fun key => keyColumn key.foreignColumn key.sqlType := by
  simp [heirOf, Key.asColumn, Key.carriedTo, Function.comp_def]

/-- The statements for a strong subtype are as many columns as the root has keys, one foreign key
over them and the primary key. -/
theorem keysSubtype {generalization : Construct} {superclass : KeyedEnd}
    (usable : superclass.keys.length = (d.superclassKeys generalization).length)
    (neighbour : Link × Construct) :
    d.KeysSubtype generalization superclass neighbour
      (subtypeKeyStatements superclass
        (heirOf (d.superclassKeys generalization) neighbour)) := by
  unfold KeysSubtype
  generalize d.superclassKeys generalization = rootKeys at usable ⊢
  have columns := map_asColumn_heirOf rootKeys neighbour
  have names := map_name_asColumn (heirOf rootKeys neighbour).keys
  rw [columns] at names
  refine ⟨{ table := tableName neighbour.2.label
            constraint := "FK_" ++ tableName neighbour.2.label
            columns := (heirOf rootKeys neighbour).columns, refTable := superclass.table
            refColumns := superclass.columns, onDelete := some "CASCADE" },
    ⟨rfl, rfl, rfl⟩, names.symm, ?_, rfl, ?_⟩
  · rw [heirOf_columns, KeyedEnd.columns, List.length_map, List.length_map, usable]
  · rw [subtypeKeyStatements, addKeyColumns_eq, columns]
    rfl

/-- The issue about a subtype that is not a strong entity. -/
structure ReportsSubtype (neighbour : Link × Construct) (issue : Issue) : Prop where
  kind : issue.kind = "unsupported_subtype"
  nodeId : issue.nodeId = some neighbour.2.id
  connectionId : issue.connectionId = some neighbour.1.id

/-- A generalization contributed the group of each of its strong subtypes, its triggers and an
issue for each other subtype, or nothing but issues. -/
inductive HierarchyWholeOrReported (message : String) (d : Classified) (keys : KeyTable)
    (generalization : Construct) : Output → Prop
  | whole {above : Link × Construct} {groups : List (List Statement)} {triggers : List Trigger}
      {issues : List Issue} :
      d.superclassEnd? generalization = some above →
        d.strongSubtypes generalization ≠ [] →
        List.Forall₂ (d.KeysSubtype generalization (keys.endAt above))
          ((d.subtypeEnds generalization).filter (·.2.kind == .strongEntity)) groups →
        List.Forall₂ (TriggerPlan.IssuedAs message)
          (hierarchyPlans (keys.endAt above) (d.strongSubtypes generalization)
            (generalization.kind == .generalizationDisjoint) (d.isTotal generalization)) triggers →
        List.Forall₂ ReportsSubtype
          ((d.subtypeEnds generalization).filter (·.2.kind != .strongEntity)) issues →
          HierarchyWholeOrReported message d keys generalization
            ⟨groups.flatten ++ triggers.map .createTrigger, issues⟩
  | reported {issues : List Issue} :
      issues ≠ [] → HierarchyWholeOrReported message d keys generalization ⟨[], issues⟩

/-- The keys of strong subtypes, one group for each. -/
theorem map_unnumbered_subtypeKeys (generalization : Construct) (superclass : KeyedEnd) :
    ((d.strongSubtypes generalization).flatMap fun subtype =>
        (subtypeKeyStatements superclass subtype).map
          (Part.of (.subtype generalization subtype.node) superclass.node)).map Part.unnumbered =
      (((d.subtypeEnds generalization).filter (·.2.kind == .strongEntity)).map fun neighbour =>
        subtypeKeyStatements superclass
          (heirOf (d.superclassKeys generalization) neighbour)).flatten := by
  rw [← List.flatMap_def, strongSubtypes]
  simp only [List.map_flatMap, Sketch.statements_of_map, List.flatMap_map]

/-- The parts about the keys of subtypes are no triggers. -/
theorem unplanned_subtypeKeys (generalization : Construct) (superclass : KeyedEnd) :
    ∀ plan, .trigger plan ∉ (d.strongSubtypes generalization).flatMap fun subtype =>
      (subtypeKeyStatements superclass subtype).map
        (Part.of (.subtype generalization subtype.node) superclass.node) := by
  intro plan mem
  obtain ⟨subtype, _, inStatements⟩ := List.mem_flatMap.1 mem
  exact Part.trigger_not_mem_map_of _ _ _ plan inStatements

/-- The output of a hierarchy: the keys of its subtypes, then its triggers. -/
theorem numbered_hierarchyParts (generalization : Construct) (superclass : KeyedEnd)
    (issues : List Issue) (message : String) (code : Int) :
    (Sketch.mk (d.hierarchyParts generalization superclass) issues).numbered message code =
      ⟨(((d.subtypeEnds generalization).filter (·.2.kind == .strongEntity)).map fun neighbour =>
          subtypeKeyStatements superclass
            (heirOf (d.superclassKeys generalization) neighbour)).flatten
        ++ (issuedFrom message code (hierarchyPlans superclass (d.strongSubtypes generalization)
            (generalization.kind == .generalizationDisjoint) (d.isTotal generalization))).map
              .createTrigger, issues⟩ := by
  rw [hierarchyParts, numbered_of_plans message (unplanned_subtypeKeys generalization superclass),
    map_unnumbered_subtypeKeys]

theorem hierarchyWhole {generalization : Construct} {above : Link × Construct}
    (found : d.superclassEnd? generalization = some above)
    (usable : (keys above.2).length = (d.superclassKeys generalization).length)
    (some : d.strongSubtypes generalization ≠ []) (message : String) (code : Int) :
    HierarchyWholeOrReported message d keys generalization
      ((Sketch.mk (d.hierarchyParts generalization (keys.endAt above))
        (d.otherSubtypeIssues generalization)).numbered message code) := by
  rw [numbered_hierarchyParts]
  refine .whole found some ?_ (forall₂_issuedFrom _ _ _) ?_
  · exact List.forall₂_map_right_iff.2 (List.forall₂_same.2 fun neighbour _ =>
      keysSubtype usable neighbour)
  · exact List.forall₂_map_right_iff.2 (List.forall₂_same.2 fun _ _ => ⟨rfl, rfl, rfl⟩)

/-- If none of the subtypes is strong, there is an issue about each. -/
theorem otherSubtypeIssues_ne_nil {generalization : Construct}
    (some : d.subtypeEnds generalization ≠ []) (none : d.strongSubtypes generalization = []) :
    d.otherSubtypeIssues generalization ≠ [] := by
  obtain ⟨neighbour, mem⟩ := List.exists_mem_of_ne_nil _ some
  have other : (neighbour.2.kind != .strongEntity) = true := by
    simp only [strongSubtypes, List.map_eq_nil_iff, List.filter_eq_nil_iff] at none
    simpa using none neighbour mem
  exact List.ne_nil_of_mem (List.mem_map_of_mem (List.mem_filter.2 ⟨mem, other⟩))

/-- A generalization is encoded for all its strong subtypes, with one issue for each of the others,
or it makes no statement and is reported. -/
theorem hierarchyWholeOrReported {generalization : Construct} (message : String) (code : Int) :
    HierarchyWholeOrReported message d keys generalization
      ((d.generalizationSketch keys generalization).numbered message code) := by
  unfold generalizationSketch
  cases found : d.superclassEnd? generalization with
  | none => exact .reported (List.cons_ne_nil _ _)
  | some above =>
      dsimp only
      split
      · exact .reported (List.cons_ne_nil _ _)
      rename_i someSubtype
      split
      · exact .reported (List.cons_ne_nil _ _)
      rename_i rootKeyed
      split
      · rename_i usable
        by_cases none : d.strongSubtypes generalization = []
        · rw [if_pos (by simp [none])]
          exact .reported (otherSubtypeIssues_ne_nil (by simpa using someSubtype) none)
        · rw [if_neg (by simpa using none)]
          exact hierarchyWhole found usable none message code
      · exact .reported (by simp)

/-! ## All constructs -/

/-- The phases whose constructs have one group of statements each. -/
def settlingPhases : List Phase :=
  [.primaryKeys, .partialKeys, .relationships, .multivaluedAttributes, .derivedAttributes]

theorem Drafts.wholeOrReported {phase : Phase} {node : Construct} {sketch : Sketch}
    (drafts : Drafts settings d keys phase node sketch) (settling : phase ∈ settlingPhases)
    (root : phase = .primaryKeys → d.generalizationOf? node = none) (code : Int) :
    WholeOrReported (d.Whole settings keys phase node) node
      (sketch.numbered settings.violationMessage code) := by
  cases drafts with
  | ownedTable | associativeTable | generalization => exact absurd settling (by decide)
  | strongKey => exact wholeOrReported_strongKey (root rfl) code
  | weakKey => exact wholeOrReported_weakKey code
  | relationship _ => exact wholeOrReported_relationship _ code
  | associativeEntity _ => exact wholeOrReported_associativeEntity code
  | multivaluedAttribute => exact wholeOrReported_multivaluedAttribute code
  | derivedAttribute views => exact wholeOrReported_derivedAttribute views code

end Classified

/-! ## Results -/

open Classified

/-- What the constructs of a diagram contributed, each in the phase that handles it. -/
structure WholeShares (settings : Settings) (d : Classified) (keys : KeyTable)
    (share : Phase → Construct → Output) : Prop where
  strongEntities : ∀ entity ∈ d.ofKind .strongEntity,
    (∀ generalization ∈ d.ofKinds (·.isGeneralization), ∀ link,
      (link, entity) ∉ d.subtypeEnds generalization) →
    WholeOrReported (d.Whole settings keys .primaryKeys entity) entity (share .primaryKeys entity)
  weakEntities : ∀ weak ∈ d.ofKind .weakEntity,
    WholeOrReported (d.Whole settings keys .partialKeys weak) weak (share .partialKeys weak)
  relationships : ∀ node ∈ d.ofKind .relationship,
    WholeOrReported (d.Whole settings keys .relationships node) node (share .relationships node)
  associativeEntities : ∀ entity ∈ d.ofKind .associativeEntity,
    WholeOrReported (d.Whole settings keys .relationships entity) entity
      (share .relationships entity)
  multivaluedAttributes : ∀ item ∈ d.ofKind .multivaluedAttribute,
    WholeOrReported (d.Whole settings keys .multivaluedAttributes item) item
      (share .multivaluedAttributes item)
  derivedAttributes : ∀ item ∈ d.ofKind .derivedAttribute,
    WholeOrReported (d.Whole settings keys .derivedAttributes item) item
      (share .derivedAttributes item)
  generalizations : ∀ generalization ∈ d.ofKinds (·.isGeneralization),
    d.HierarchyWholeOrReported settings.violationMessage keys generalization
      (share .generalizations generalization)

/-- A result divides into shares of the constructs, each a whole group or a report. -/
theorem constructs_whole_or_reported {settings : Settings} {diagram : Diagram} {d : Classified}
    {result : CompileResult} (read : diagram.classify = .ok d)
    (compiled : compile settings diagram = .ok result) :
    ∃ share, result.DividesInto d share ∧
      WholeShares settings d (keysAfter settings diagram d) share := by
  obtain ⟨share, divides, drafted⟩ := exists_shares read compiled
  have settled : ∀ phase ∈ settlingPhases, ∀ node ∈ d.handledIn phase,
      (phase = .primaryKeys → d.generalizationOf? node = none) →
        WholeOrReported (d.Whole settings (keysAfter settings diagram d) phase node) node
          (share phase node) := by
    intro phase settling node mem root
    obtain ⟨sketch, code, drafts, same⟩ := drafted phase node mem
    exact same ▸ drafts.wholeOrReported settling root code
  refine ⟨share, divides, ?_, ?_, ?_, ?_, ?_, ?_, ?_⟩
  · exact fun entity mem noSubtype =>
      settled .primaryKeys (by decide) entity mem fun _ => generalizationOf_eq_none mem noSubtype
  · exact fun weak mem => settled .partialKeys (by decide) weak mem nofun
  · exact fun node mem =>
      settled .relationships (by decide) node (List.mem_append_left _ mem) nofun
  · exact fun entity mem =>
      settled .relationships (by decide) entity (List.mem_append_right _ mem) nofun
  · exact fun item mem => settled .multivaluedAttributes (by decide) item mem nofun
  · exact fun item mem => settled .derivedAttributes (by decide) item mem nofun
  · intro generalization mem
    obtain ⟨sketch, code, drafts, same⟩ := drafted .generalizations generalization mem
    cases drafts
    exact same ▸ hierarchyWholeOrReported _ code

/-- Two entities, one of them without a key, and a relationship between them. -/
def keylessEnd : Diagram :=
  { nodes :=
      [.drawn "a" "A" "StrongEntity", .drawn "k" "k" "KeyAttribute", .drawn "b" "B" "StrongEntity",
       .drawn "r" "R" "Relationship"]
    connections :=
      [.drawn "1" "a" "k", .drawn "2" "r" "a" "SingleLineToMany",
       .drawn "3" "r" "b" "SingleLineToMany"]
    node_ids_nodup := by decide
    connection_ids_nodup := by decide }

/-- The entity with a key is encoded; the other entity and the relationship are reported. -/
theorem keylessEnd_whole_or_reported :
    ∃ d result, keylessEnd.classify = .ok d ∧ compile {} keylessEnd = .ok result ∧
      result.issues.map (·.nodeId) = [some "b", some "r"] ∧
      ∃ share, result.DividesInto d share ∧
        WholeShares {} d (keysAfter {} keylessEnd d) share := by
  have checked : (compile {} keylessEnd).toOption.map (·.issues.map (·.nodeId)) =
      some [some "b", some "r"] := by decide +kernel
  obtain ⟨result, found, reported⟩ := Option.map_eq_some_iff.1 checked
  have compiled := eq_ok_of_toOption found
  obtain ⟨d, read⟩ := exists_classified compiled
  exact ⟨d, result, read, compiled, reported, constructs_whole_or_reported read compiled⟩

end EntitySchema
