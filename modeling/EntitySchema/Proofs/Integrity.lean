/-
# EntitySchema.Proofs.Integrity -- every foreign key refers to a primary key

An entity whose key is not empty has it written out (`Written`): some statement
makes it the primary key of the entity's table, and every column of it is declared
there with its type.  Weak and associative entities write their keys themselves; a
subtype has its written by the generalization above it, which needs hierarchies
that are complete and without a cycle.

A foreign key refers to the whole key of its target and declares a column of the
same type for each column of it (`Refers.declares`).
-/
import EntitySchema.Proofs.Alignment
import EntitySchema.Proofs.Hierarchy

namespace EntitySchema

set_option autoImplicit false

/-! ## Declared columns -/

/-- A statement that gives a table a column. -/
def Statement.Declares (table name : String) (sqlType : Option String) : Statement → Prop
  | .createTable made columns =>
      made = table ∧ ∃ column ∈ columns, column.name = name ∧ column.sqlType = sqlType
  | .addColumn made column => made = table ∧ column.name = name ∧ column.sqlType = sqlType
  | _ => False

/-- Some part gives a table a column. -/
def Introduces (parts : List Part) (table name : String) (sqlType : Option String) : Prop :=
  ∃ statement, Part.plain statement ∈ parts ∧ statement.Declares table name sqlType

theorem Introduces.mono {parts others : List Part} {table name : String}
    {sqlType : Option String} (introduces : Introduces parts table name sqlType)
    (within : parts ⊆ others) : Introduces others table name sqlType := by
  obtain ⟨statement, mem, declares⟩ := introduces
  exact ⟨statement, within mem, declares⟩

namespace Classified

variable {settings : Settings} {d : Classified} {keys : KeyTable}

/-- Some statement gives a table a column. -/
def Declared (settings : Settings) (d : Classified) (keys : KeyTable) (table name : String)
    (sqlType : Option String) : Prop :=
  ∃ statement, Emits settings d keys statement ∧ statement.Declares table name sqlType

/-- What a sketch introduces is declared. -/
theorem declared_of_introduces {phase : Phase} {sketch : Sketch} {table name : String}
    {sqlType : Option String} (inPhase : sketch ∈ phase.sketches settings d keys)
    (introduces : Introduces sketch.parts table name sqlType) :
    Declared settings d keys table name sqlType := by
  obtain ⟨statement, mem, declares⟩ := introduces
  exact ⟨statement, ⟨phase, sketch, inPhase, .plain statement, mem, rfl⟩, declares⟩

/-- The key of an entity is the primary key of its table, and its columns are declared. -/
structure Written (settings : Settings) (d : Classified) (keys : KeyTable) (entity : Construct) :
    Prop where
  primaryKey : Emits settings d keys
    (EntitySchema.primaryKey (tableName entity.label) ((keys entity).map (·.column)))
  declared : ∀ key ∈ keys entity,
    Declared settings d keys (tableName entity.label) key.column key.sqlType

/-! ## Tables of entities -/

/-- The tables of associative entities come after those of the others. -/
theorem tableSketch_mem_sketches {entity : Construct} (inNodes : entity ∈ d.nodes)
    (isEntity : entity.kind.isEntity = true) :
    d.tableSketch entity ∈ Phase.sketches settings d keys
      (if entity.kind = .associativeEntity then .associativeEntities else .tables) := by
  cases kind : entity.kind with
  | strongEntity | weakEntity | associativeEntity =>
      exact List.mem_map_of_mem (mem_ofKinds_iff.2 ⟨inNodes, by rw [kind]; decide⟩)
  | _ => simp [kind, NodeKind.isEntity] at isEntity

/-- The columns of stored attributes are introduced in the table of their entity. -/
theorem introduces_of_attribute {entity item : Construct} {link : Link}
    (near : (link, item) ∈ d.neighbours entity.id) (stored : item.kind.isStored = true) :
    Introduces (d.tableSketch entity).parts (tableName entity.label) (columnName item.label)
      item.sqlType := by
  have column : attributeColumn item ∈ d.storedColumns entity :=
    List.mem_map.2 ⟨(link, item), mem_neighboursOf_iff.2 ⟨near, stored⟩, rfl⟩
  exact ⟨_, List.mem_singleton_self _, rfl, attributeColumn item, column, rfl, rfl⟩

theorem introduces_of_mem_keysOfKind {entity : Construct} {kind : NodeKind} {key : Key}
    (stored : kind.isStored = true) (mem : key ∈ d.keysOfKind entity kind) :
    Introduces (d.tableSketch entity).parts (tableName entity.label) key.column key.sqlType := by
  obtain ⟨⟨link, item⟩, near, rfl⟩ := List.mem_map.1 mem
  obtain ⟨near, itemKind⟩ := mem_neighboursOf_iff.1 near
  have itemStored : item.kind.isStored = true := by
    rw [beq_iff_eq.1 itemKind]
    exact stored
  exact introduces_of_attribute near itemStored

/-- The key of a strong entity without a superclass is introduced with its table. -/
theorem Settled.introduces_strong (settled : d.Settled keys) {entity : Construct}
    (inNodes : entity ∈ d.nodes) (kind : entity.kind = .strongEntity)
    (top : d.superclassOf? entity = none) {key : Key} (mem : key ∈ keys entity) :
    Introduces (d.tableSketch entity).parts (tableName entity.label) key.column key.sqlType := by
  rw [settled.strong inNodes kind, strongKeyOf, top] at mem
  exact introduces_of_mem_keysOfKind rfl mem

/-! ## Keys that entities write themselves -/

/-- The columns that a weak entity takes over. -/
def takenOver (keys : KeyTable) (weak : Construct) : List Part :=
  (addKeyColumns (tableName weak.label) ((keys weak).drop 1)).map .plain

theorem takenOver_subset {weak : Construct} {partialKey : Key} {owner : KeyedEnd}
    (declared : d.partialKey? weak = some partialKey) (owned : d.ownerIn keys weak = some owner) :
    takenOver keys weak ⊆ (d.weakKeySketch keys weak).parts := by
  intro part mem
  obtain ⟨statement, added, rfl⟩ := List.mem_map.1 mem
  obtain ⟨key, _, rfl⟩ := List.mem_map.1 added
  exact mem_weakKeySketch declared owned (List.mem_append_left _ added)

theorem introduces_of_mem_inherited {weak : Construct} {key : Key}
    (mem : key ∈ (keys weak).drop 1) :
    Introduces (takenOver keys weak) (tableName weak.label) key.column key.sqlType :=
  ⟨_, List.mem_map_of_mem (List.mem_map_of_mem mem), rfl, rfl, rfl⟩

/-- The key of a weak entity is introduced with its table or taken over. -/
theorem Settled.introduces_weak (settled : d.Settled keys) {weak : Construct}
    (inNodes : weak ∈ d.nodes) (kind : weak.kind = .weakEntity) {key : Key}
    (mem : key ∈ keys weak) :
    Introduces (d.tableSketch weak).parts (tableName weak.label) key.column key.sqlType ∨
      Introduces (takenOver keys weak) (tableName weak.label) key.column key.sqlType := by
  obtain ⟨partialKey, owner, declared, owned, split⟩ :=
    settled.weak inNodes kind (List.ne_nil_of_mem mem)
  rw [split] at mem
  rcases List.mem_cons.1 mem with rfl | inherited
  · exact .inl (introduces_of_mem_keysOfKind rfl (List.mem_of_mem_head? declared))
  · exact .inr (introduces_of_mem_inherited inherited)

/-- The partial key of a weak entity comes with its table, and the columns that it takes over are
added just before the primary key that they belong to. -/
theorem Settled.written_weak (settled : d.Settled keys) {weak : Construct}
    (inKind : weak ∈ d.ofKind .weakEntity) (keyed : keys weak ≠ []) :
    Written settings d keys weak := by
  obtain ⟨inNodes, kind⟩ := mem_ofKind_iff.1 inKind
  have isEntity : weak.kind.isEntity = true := by simp [kind, NodeKind.isEntity]
  have inPhase : d.weakKeySketch keys weak ∈ Phase.sketches settings d keys .partialKeys :=
    List.mem_map_of_mem inKind
  obtain ⟨partialKey, owner, declared, owned, split⟩ := settled.weak inNodes kind keyed
  constructor
  · refine ⟨.partialKeys, _, inPhase, _, mem_weakKeySketch declared owned ?_, Part.statement?_of _ _ _⟩
    rw [split]
    simp [weakKeyStatements]
  · intro key mem
    obtain inTable | inKey := settled.introduces_weak inNodes kind mem
    · exact declared_of_introduces (tableSketch_mem_sketches inNodes isEntity) inTable
    · exact declared_of_introduces inPhase (inKey.mono (takenOver_subset declared owned))

theorem parts_associativeSketch {entity : Construct} {reference : Reference}
    (mem : reference ∈ d.referencesIn keys entity) :
    (d.associativeSketch keys entity).parts =
      (referenceColumns (d.referencesIn keys entity)).map
          (.plain ∘ .addColumn (tableName entity.label))
        ++ junctionParts (.associativeEntity entity) (tableName entity.label)
          (d.referencesIn keys entity) := by
  have some : ¬(d.referencesIn keys entity).isEmpty = true := by
    intro none
    simp [List.isEmpty_iff.1 none] at mem
  simp only [associativeSketch, if_neg some]

/-- The columns that an associative entity takes for its participants are introduced. -/
theorem introduces_of_mem_typedColumns {entity : Construct} {reference : Reference}
    (mem : reference ∈ d.referencesIn keys entity) {column : String × Option String}
    (typed : column ∈ reference.typedColumns) :
    Introduces (d.associativeSketch keys entity).parts (tableName entity.label) column.1
      column.2 := by
  have inColumns : keyColumn column.1 column.2 ∈ referenceColumns (d.referencesIn keys entity) :=
    List.mem_flatMap.2 ⟨reference, mem, List.mem_map.2 ⟨column, typed, rfl⟩⟩
  refine ⟨.addColumn (tableName entity.label) (keyColumn column.1 column.2), ?_, rfl, rfl, rfl⟩
  rw [parts_associativeSketch mem]
  exact List.mem_append_left _ (List.mem_map.2 ⟨_, inColumns, rfl⟩)

/-- The key of an associative entity is introduced with its references. -/
theorem Settled.introduces_associative (settled : d.Settled keys) {entity : Construct}
    (inNodes : entity ∈ d.nodes) (kind : entity.kind = .associativeEntity) {key : Key}
    (mem : key ∈ keys entity) :
    Introduces (d.associativeSketch keys entity).parts (tableName entity.label) key.column
      key.sqlType := by
  rw [settled.associative inNodes kind (List.ne_nil_of_mem mem)] at mem
  obtain ⟨reference, planned, made⟩ := List.mem_flatMap.1 mem
  obtain ⟨column, typed, rfl⟩ := List.mem_map.1 made
  exact introduces_of_mem_typedColumns planned typed

/-- The columns of the key of an associative entity are those of its references. -/
theorem map_column_associativeKeyOf {entity : Construct} {references : List Reference}
    (full : ∀ reference ∈ references, reference.columns.length = reference.target.keys.length) :
    (associativeKeyOf entity references).map (·.column) = references.flatMap (·.columns) := by
  induction references with
  | nil => rfl
  | cons reference rest ih =>
      have others := ih fun other mem => full other (List.mem_cons_of_mem reference mem)
      have long := full reference List.mem_cons_self
      rw [associativeKeyOf] at others ⊢
      rw [List.flatMap_cons, List.map_append, others, List.flatMap_cons]
      congr 1
      simp only [Reference.typedColumns, Reference.sqlTypes, List.map_map]
      exact List.map_fst_zip (by simp [long])

/-- The key of an associative entity is all that it refers to, and the columns are added before the
primary key that they make up. -/
theorem Settled.written_associative (settled : d.Settled keys) {entity : Construct}
    (inKind : entity ∈ d.ofKind .associativeEntity) (keyed : keys entity ≠ []) :
    Written settings d keys entity := by
  obtain ⟨inNodes, kind⟩ := mem_ofKind_iff.1 inKind
  have inPhase : d.associativeSketch keys entity ∈ Phase.sketches settings d keys .relationships :=
    List.mem_append_right _ (List.mem_map_of_mem inKind)
  constructor
  · have computed := settled.associative inNodes kind keyed
    obtain ⟨reference, planned⟩ := settled.exists_reference inNodes kind keyed
    have columns : (keys entity).map (·.column) =
        (d.referencesIn keys entity).flatMap (·.columns) := by
      rw [computed]
      exact map_column_associativeKeyOf fun reference mem =>
        length_columns_of_planned (mem_referencesIn mem)
    rw [columns]
    refine ⟨.relationships, _, inPhase, .plain _, ?_, rfl⟩
    rw [parts_associativeSketch planned]
    exact List.mem_append_right _ (List.mem_append_right _ (List.mem_singleton_self _))
  · exact fun key mem => declared_of_introduces inPhase
      (settled.introduces_associative inNodes kind mem)

/-! ## Keys that generalizations write -/

/-- The key of a strong entity has the length and the types of its root's. -/
theorem map_sqlType_strongKeyOf (entity : Construct) :
    (d.strongKeyOf entity).map (·.sqlType) = (d.ownerKeys (d.rootOf entity)).map (·.sqlType) := by
  unfold strongKeyOf
  split
  · rename_i below
    simp [inheritedKey, below, Key.carriedTo, Function.comp_def]
  · rename_i top
    rw [rootOf_of_none (by simpa using top)]

theorem length_strongKeyOf (entity : Construct) :
    (d.strongKeyOf entity).length = (d.ownerKeys (d.rootOf entity)).length := by
  simpa using congrArg List.length (map_sqlType_strongKeyOf (d := d) entity)

theorem superclassKeys_of_superclassEnd {generalization : Construct} {above : Link × Construct}
    (found : d.superclassEnd? generalization = some above) :
    d.superclassKeys generalization = d.ownerKeys (d.rootOf above.2) := by
  rw [superclassKeys, found]

/-- A generalization whose root has a key makes the key of each of its strong subtypes. -/
theorem subtypeKeyParts_subset {generalization : Construct} {above neighbour : Link × Construct}
    (found : d.superclassEnd? generalization = some above)
    (inEnds : neighbour ∈ d.subtypeEnds generalization) (strong : neighbour.2.kind = .strongEntity)
    (rootKeyed : d.superclassKeys generalization ≠ [])
    (usable : (keys above.2).length = (d.superclassKeys generalization).length) :
    (subtypeKeyStatements (keys.endAt above)
        (heirOf (d.superclassKeys generalization) neighbour)).map
          (.of (.subtype generalization neighbour.2) above.2) ⊆
      (d.generalizationSketch keys generalization).parts := by
  have heir : heirOf (d.superclassKeys generalization) neighbour ∈
      d.strongSubtypes generalization :=
    List.mem_map_of_mem (List.mem_filter.2 ⟨inEnds, by simp [strong]⟩)
  have someEnd : ¬(d.subtypeEnds generalization).isEmpty = true := by
    intro none
    simp [List.isEmpty_iff.1 none] at inEnds
  have someHeir : ¬(d.strongSubtypes generalization).isEmpty = true := by
    intro none
    simp [List.isEmpty_iff.1 none] at heir
  have keyed : ¬(d.superclassKeys generalization).isEmpty = true := by simpa using rootKeyed
  intro part mem
  simp only [generalizationSketch, found, if_neg someEnd, if_neg keyed, if_pos usable,
    if_neg someHeir]
  exact List.mem_append_left _ (List.mem_flatMap.2 ⟨_, heir, mem⟩)

theorem emits_of_mem_subtypeKeyStatements {generalization : Construct}
    {above neighbour : Link × Construct} {statement : Statement}
    (inKinds : generalization ∈ d.ofKinds (·.isGeneralization))
    (found : d.superclassEnd? generalization = some above)
    (inEnds : neighbour ∈ d.subtypeEnds generalization) (strong : neighbour.2.kind = .strongEntity)
    (rootKeyed : d.superclassKeys generalization ≠ [])
    (usable : (keys above.2).length = (d.superclassKeys generalization).length)
    (mem : statement ∈ subtypeKeyStatements (keys.endAt above)
      (heirOf (d.superclassKeys generalization) neighbour)) : Emits settings d keys statement :=
  ⟨.generalizations, _, List.mem_map_of_mem inKinds, _,
    subtypeKeyParts_subset found inEnds strong rootKeyed usable (List.mem_map_of_mem mem),
    Part.statement?_of _ _ _⟩

/-- Every generalization with a strong subtype has a strong superclass. -/
def StrongHierarchies (d : Classified) : Prop :=
  ∀ generalization ∈ d.ofKinds (·.isGeneralization),
    (∃ neighbour ∈ d.subtypeEnds generalization, neighbour.2.kind = .strongEntity) →
      ∃ above, d.superclassEnd? generalization = some above ∧ above.2.kind = .strongEntity

instance (d : Classified) : Decidable d.StrongHierarchies :=
  decidable_of_iff (∀ generalization ∈ d.ofKinds (·.isGeneralization),
      (∃ neighbour ∈ d.subtypeEnds generalization, neighbour.2.kind = .strongEntity) →
        ∃ above ∈ d.superclassEnd? generalization, above.2.kind = .strongEntity) Iff.rfl

/-- A strong subtype that has a key has that of its root, and the generalization
that it is found to be a subtype of writes keys. -/
theorem Settled.heir (settled : d.Settled keys) (hierarchies : d.StrongHierarchies)
    (acyclic : d.SuperclassesAcyclic) {entity generalization : Construct}
    (inNodes : entity ∈ d.nodes) (kind : entity.kind = .strongEntity) (keyed : keys entity ≠ [])
    (above : d.generalizationOf? entity = some generalization) :
    generalization ∈ d.ofKinds (·.isGeneralization) ∧
      ∃ link top, (link, entity) ∈ d.subtypeEnds generalization ∧
        d.superclassEnd? generalization = some top ∧ d.superclassKeys generalization ≠ [] ∧
        (keys top.2).length = (d.superclassKeys generalization).length ∧
        keys entity = (heirOf (d.superclassKeys generalization) (link, entity)).keys := by
  have isEntity : entity.kind.isEntity = true := by simp [kind, NodeKind.isEntity]
  obtain ⟨near, next, isGeneralization, _⟩ := generalizationOf_spec above
  have inKinds : generalization ∈ d.ofKinds (·.isGeneralization) :=
    mem_ofKinds_iff.2 ⟨mem_nodes_of_mem_neighbours next, isGeneralization⟩
  obtain ⟨link, inEnds⟩ := mem_subtypeEnds_of_generalizationOf inNodes isEntity above
  obtain ⟨top, found, strong⟩ := hierarchies generalization inKinds ⟨_, inEnds, kind⟩
  have below : d.superclassOf? entity = some top.2 := by simp [superclassOf?, above, found]
  have topIn : top.2 ∈ d.nodes := Below.mem_nodes below
  have heir : keys entity = (heirOf (d.superclassKeys generalization) (link, entity)).keys := by
    rw [settled.strong inNodes kind, strongKeyOf, below, inheritedKey, below,
      rootOf_of_superclass acyclic inNodes below, superclassKeys_of_superclassEnd found]
    rfl
  have rootKeyed : d.superclassKeys generalization ≠ [] := by
    intro none
    rw [heir, heirOf, none] at keyed
    exact keyed rfl
  have usable : (keys top.2).length = (d.superclassKeys generalization).length := by
    rw [settled.strong topIn strong, length_strongKeyOf, superclassKeys_of_superclassEnd found]
  exact ⟨inKinds, link, top, inEnds, found, rootKeyed, usable, heir⟩

/-- The key of a strong entity is declared with its table, or handed down by the generalization
above it.  That generalization writes it because its superclass is strong and the way up ends at the
same root. -/
theorem Settled.written_strong (settled : d.Settled keys) (hierarchies : d.StrongHierarchies)
    (acyclic : d.SuperclassesAcyclic) {entity : Construct} (inNodes : entity ∈ d.nodes)
    (kind : entity.kind = .strongEntity) (keyed : keys entity ≠ []) :
    Written settings d keys entity := by
  have isEntity : entity.kind.isEntity = true := by simp [kind, NodeKind.isEntity]
  cases above : d.generalizationOf? entity with
  | none =>
      have top : d.superclassOf? entity = none := by simp [superclassOf?, above]
      constructor
      · refine ⟨.primaryKeys, _, List.mem_map_of_mem (mem_ofKind_iff.2 ⟨inNodes, kind⟩), .plain _, ?_,
          rfl⟩
        simp [strongKeySketch, above, keyed]
      · exact fun key mem => declared_of_introduces (tableSketch_mem_sketches inNodes isEntity)
          (settled.introduces_strong inNodes kind top mem)
  | some generalization =>
      obtain ⟨inKinds, link, top, inEnds, found, rootKeyed, usable, heir⟩ :=
        settled.heir hierarchies acyclic inNodes kind keyed above
      have emits : ∀ statement ∈ subtypeKeyStatements (keys.endAt top)
          (heirOf (d.superclassKeys generalization) (link, entity)),
          Emits settings d keys statement := fun _ mem =>
        emits_of_mem_subtypeKeyStatements inKinds found inEnds kind rootKeyed usable mem
      constructor
      · refine emits _ ?_
        rw [heir]
        simp [subtypeKeyStatements, KeyedEnd.columns]
      · intro key mem
        rw [heir] at mem
        refine ⟨.addColumn (tableName entity.label) (keyColumn key.column key.sqlType),
          emits _ ?_, rfl, rfl, rfl⟩
        exact List.mem_append_left _ (List.mem_map_of_mem mem)

/-- Every entity that has a key has it written, where hierarchies are complete and
have no cycle. -/
theorem Settled.written (settled : d.Settled keys) (hierarchies : d.StrongHierarchies)
    (acyclic : d.SuperclassesAcyclic) {entity : Construct} (inNodes : entity ∈ d.nodes)
    (isEntity : entity.kind.isEntity = true) (keyed : keys entity ≠ []) :
    Written settings d keys entity := by
  cases kind : entity.kind with
  | strongEntity => exact settled.written_strong hierarchies acyclic inNodes kind keyed
  | weakEntity => exact settled.written_weak (mem_ofKind_iff.2 ⟨inNodes, kind⟩) keyed
  | associativeEntity => exact settled.written_associative (mem_ofKind_iff.2 ⟨inNodes, kind⟩) keyed
  | _ => simp [kind, NodeKind.isEntity] at isEntity

/-! ## Columns of foreign keys -/

/-- Columns that are paired with the types of some keys. -/
theorem forall₂_of_zip {Holds : String → Option String → Prop} {columns : List String}
    {targets : List Key} (long : columns.length = targets.length)
    (each : ∀ column ∈ columns.zip (targets.map (·.sqlType)), Holds column.1 column.2) :
    List.Forall₂ (fun column target => Holds column target.sqlType) columns targets := by
  induction columns generalizing targets with
  | nil =>
      obtain rfl : targets = [] := List.length_eq_zero_iff.1 long.symm
      exact .nil
  | cons column rest ih =>
      cases targets with
      | nil => simp at long
      | cons target others =>
          rw [List.map_cons, List.zip_cons_cons] at each
          exact .cons (each _ List.mem_cons_self)
            (ih (by simpa using long) fun other mem => each other (List.mem_cons_of_mem _ mem))

/-- The columns of keys that have the types of other keys. -/
theorem forall₂_of_types {Holds : String → Option String → Prop} {own targets : List Key}
    (types : own.map (·.sqlType) = targets.map (·.sqlType))
    (each : ∀ key ∈ own, Holds key.column key.sqlType) :
    List.Forall₂ (fun column target => Holds column target.sqlType) (own.map (·.column))
      targets := by
  refine forall₂_of_zip (by simpa using congrArg List.length types) fun column mem => ?_
  rw [← types, List.zip_map'] at mem
  obtain ⟨key, inOwn, rfl⟩ := List.mem_map.1 mem
  exact each key inOwn

/-- The columns of a planned reference are declared if its typed columns are. -/
theorem forall₂_of_planned {Holds : String → Option String → Prop} {taken : List String}
    {ends : List KeyedEnd} {reference : Reference} (mem : reference ∈ planReferences taken ends)
    (placed : d.Placed keys reference.target)
    (each : ∀ column ∈ reference.typedColumns, Holds column.1 column.2) :
    List.Forall₂ (fun column target => Holds column target.sqlType) reference.columns
      (keys reference.target.node) := by
  rw [← placed.keys_eq]
  exact forall₂_of_zip (length_columns_of_planned mem) each

/-- The columns that a strong subtype inherits are declared with the types of its superclass. -/
theorem forall₂_declared_of_subtype (settled : d.Settled keys) (hierarchies : d.StrongHierarchies)
    {generalization : Construct} {above neighbour : Link × Construct}
    (inKinds : generalization ∈ d.ofKinds (·.isGeneralization))
    (found : d.superclassEnd? generalization = some above)
    (inEnds : neighbour ∈ d.subtypeEnds generalization) (strong : neighbour.2.kind = .strongEntity)
    (rootKeyed : d.superclassKeys generalization ≠ [])
    (usable : (keys above.2).length = (d.superclassKeys generalization).length) :
    List.Forall₂
      (fun column part => Declared settings d keys (tableName neighbour.2.label) column part.sqlType)
      ((d.superclassKeys generalization).map (·.foreignColumn)) (keys above.2) := by
  have aboveStrong : above.2.kind = .strongEntity := by
    obtain ⟨other, foundOther, kind⟩ := hierarchies generalization inKinds ⟨_, inEnds, strong⟩
    exact Option.some.inj (found.symm.trans foundOther) ▸ kind
  have aboveIn := mem_nodes_of_mem_neighbours (superclassEnd_spec found).1
  have types : (heirOf (d.superclassKeys generalization) neighbour).keys.map (·.sqlType) =
      (keys above.2).map (·.sqlType) := by
    rw [settled.strong aboveIn aboveStrong, map_sqlType_strongKeyOf,
      superclassKeys_of_superclassEnd found]
    simp [heirOf, Key.carriedTo, Function.comp_def]
  rw [← heirOf_columns (d.superclassKeys generalization) neighbour]
  refine forall₂_of_types types fun key mem => ?_
  refine ⟨.addColumn (tableName neighbour.2.label) (keyColumn key.column key.sqlType),
    emits_of_mem_subtypeKeyStatements inKinds found inEnds strong rootKeyed usable ?_, rfl, rfl, rfl⟩
  exact List.mem_append_left _ (List.mem_map_of_mem mem)

/-- The columns of an embedding are introduced with the types of the embedded end. -/
theorem forall₂_introduces_of_embedding {node : Construct} {how : Embedding} {taken : List String} :
    List.Forall₂
      (fun column part => Introduces
        (d.embeddingSketch node how (embeddedReference taken how)).parts how.holder.table column
          part.sqlType)
      (foreignColumns taken how.target.keys) how.target.keys := by
  refine forall₂_of_zip (length_foreignColumns _ _) fun column typed => ?_
  have added : Statement.addColumn how.holder.table
      { name := column.1, sqlType := column.2, notNull := how.notNull } ∈
        embeddingStatements d node how (embeddedReference taken how) :=
    List.mem_append_left _ (List.mem_append_left _ (List.mem_map.2 ⟨column, typed, rfl⟩))
  exact ⟨_, List.mem_append_left _ (List.mem_map_of_mem added), rfl, rfl, rfl⟩

/-- The owner's key columns are introduced in the child table of a multivalued attribute. -/
theorem introduces_of_multivaluedAttribute {item owner : Construct} {surrogateType : String}
    (found : d.ownerOf? item = some owner) {key : Key} (mem : key ∈ keys owner) :
    Introduces (d.multivaluedSketch keys surrogateType item).parts
      (tableName owner.label ++ "_" ++ tableName item.label) key.column key.sqlType := by
  have parts : (d.multivaluedSketch keys surrogateType item).parts =
      (childTableStatements surrogateType item owner (keys owner)).map
        (.of (.multivaluedAttribute item) owner) := by
    simp [multivaluedSketch, found, List.ne_nil_of_mem mem]
  unfold Introduces
  rw [parts, childTableStatements, List.map_cons]
  refine ⟨_, List.mem_cons_self, rfl, keyColumn key.column key.sqlType, ?_, rfl, rfl⟩
  exact List.mem_append_left _ (List.mem_map.2 ⟨key, mem, rfl⟩)

/-- A foreign key declares a column of the same type for each column it refers to. -/
theorem Refers.declares {phase : Phase} {sketch : Sketch} {site : Site} {target : Construct}
    {key : ForeignKey} (inPhase : sketch ∈ phase.sketches settings d keys)
    (refers : d.Refers keys sketch site target key) (exactly : d.Exact keys)
    (hierarchies : d.StrongHierarchies) :
    List.Forall₂ (fun column part => Declared settings d keys key.table column part.sqlType)
      key.columns (keys target) := by
  cases refers with
  | @weakEntity weak partialKey owner _ inKind declared owned =>
      obtain ⟨inNodes, kind⟩ := mem_ofKind_iff.1 inKind
      have inherited : (keys weak).drop 1 =
          owner.keys.map (·.carriedTo (tableName weak.label)) := by
        rw [exactly.weak inNodes kind, owned]
        simp [weakKeyOf, declared]
      rw [← (places_of_ownerIn owned).1.keys_eq]
      refine forall₂_of_types ?_ fun key mem => declared_of_introduces inPhase
        ((introduces_of_mem_inherited mem).mono (takenOver_subset declared owned))
      simp [inherited, Key.carriedTo, Function.comp_def]
  | subtype inKinds found inEnds strong rootKeyed usable =>
      exact forall₂_declared_of_subtype exactly.settled hierarchies inKinds found inEnds strong
        rootKeyed usable
  | @junction node reference _ inKind keyed planned =>
      refine forall₂_of_planned planned
        (places_of_mem_relationshipEnds (mem_planReferences planned).1) fun column typed => ?_
      refine declared_of_introduces inPhase ⟨_, List.mem_cons_self, rfl,
        keyColumn column.1 column.2, List.mem_append_left _ ?_, rfl, rfl⟩
      exact List.mem_flatMap.2 ⟨reference, planned, List.mem_map.2 ⟨column, typed, rfl⟩⟩
  | embedding inKind holderIn targetIn keyed =>
      rw [← (places_of_mem_relationshipEnds targetIn).keys_eq]
      exact forall₂_introduces_of_embedding.imp fun _ _ introduces =>
        declared_of_introduces inPhase introduces
  | associativeEntity inKind planned =>
      have among := mem_referencesIn planned
      exact forall₂_of_planned among (places_of_mem_participantsIn (mem_planReferences among).1)
        fun column typed => declared_of_introduces inPhase
          (introduces_of_mem_typedColumns planned typed)
  | multivaluedAttribute inKind found keyed =>
      exact forall₂_of_types rfl fun key mem =>
        declared_of_introduces inPhase (introduces_of_multivaluedAttribute found mem)

end Classified

/-! ## Scripts -/

open Classified

/-- Where hierarchies are complete and no hierarchy and no key is circular, every
foreign key refers to a primary key, is aligned, and has columns of the types of
those it refers to. -/
theorem foreign_key_refers_to_primary_key {settings : Settings} {diagram : Diagram}
    {d : Classified} {result : CompileResult} (read : diagram.classify = .ok d)
    (compiled : compile settings diagram = .ok result) (hierarchies : d.StrongHierarchies)
    (superclasses : d.SuperclassesAcyclic) (acyclic : d.KeysAcyclic) {key : ForeignKey}
    (mem : .addForeignKey key ∈ result.statements) :
    (∃ constraint, .addPrimaryKey key.refTable constraint key.refColumns ∈ result.statements) ∧
      key.Aligned ∧
      ∀ (i : Nat) (column refColumn : String), key.columns[i]? = some column →
        key.refColumns[i]? = some refColumn →
          ∃ sqlType,
            (∃ statement ∈ result.statements, statement.Declares key.table column sqlType) ∧
              ∃ statement ∈ result.statements,
                statement.Declares key.refTable refColumn sqlType := by
  have exactly := exact_keysAfter settings read acyclic
  obtain ⟨phase, sketch, inPhase, site, target, _, refers⟩ :=
    exists_refers_of_mem_statements read compiled mem
  obtain ⟨inNodes, isEntity, keyed, refTable, refColumns⟩ := refers.target_spec
  have written : Written settings d (keysAfter settings diagram d) target :=
    exactly.settled.written hierarchies superclasses inNodes isEntity keyed
  refine ⟨⟨"PK_" ++ tableName target.label, ?_⟩, refers.aligned exactly.weakKeysComplete, ?_⟩
  · rw [refTable, refColumns]
    exact written.primaryKey.mem_statements read compiled
  · intro i column refColumn atColumn atRef
    rw [refColumns, List.getElem?_map] at atRef
    obtain ⟨part, atPart, rfl⟩ := Option.map_eq_some_iff.1 atRef
    obtain ⟨own, ownEmits, ownDeclares⟩ : Declared settings d (keysAfter settings diagram d)
        key.table column part.sqlType := by
      have declares := refers.declares inPhase exactly hierarchies
      obtain ⟨inside, rfl⟩ := List.getElem?_eq_some_iff.1 atColumn
      obtain ⟨insideKeys, rfl⟩ := List.getElem?_eq_some_iff.1 atPart
      exact declares.get inside insideKeys
    obtain ⟨other, otherEmits, otherDeclares⟩ :=
      written.declared part (List.mem_of_getElem? atPart)
    refine ⟨part.sqlType, ⟨own, ownEmits.mem_statements read compiled, ownDeclares⟩, other,
      otherEmits.mem_statements read compiled, ?_⟩
    rw [refTable]
    exact otherDeclares

/-- A strong entity, a subtype of it, a weak entity that it owns, and an
associative entity between the latter two. -/
def ownedPair : Diagram :=
  { nodes :=
      [.drawn "s" "S" "StrongEntity", .drawn "k" "k" "KeyAttribute",
       .drawn "t" "T" "StrongEntity", .drawn "g" "G" "GeneralizationDisjoint",
       .drawn "w" "W" "WeakEntity", .drawn "p" "p" "PartialKeyAttribute",
       .drawn "r" "R" "WeakRelationship", .drawn "a" "A" "AssociativeEntity"]
    connections :=
      [.drawn "1" "s" "k", .drawn "2" "g" "s" "SingleLineGeneralization",
       .drawn "3" "g" "t" "GeneralizationToSubtype", .drawn "4" "w" "p", .drawn "5" "w" "r",
       .drawn "6" "r" "s", .drawn "7" "a" "t" "SingleLineToMany",
       .drawn "8" "a" "w" "SingleLineToMany"]
    node_ids_nodup := by decide
    connection_ids_nodup := by decide }

/-- The foreign key of the associative entity of `ownedPair` to the weak one. -/
def ownedPairKey : ForeignKey :=
  { table := "A", constraint := "FK2_A", columns := ["p-w", "k-s-w"], refTable := "W"
    refColumns := ["p", "k-s"] }

theorem ownedPair_refers_to_primary_key :
    ∃ d result, ownedPair.classify = .ok d ∧ compile {} ownedPair = .ok result ∧
      d.StrongHierarchies ∧ d.SuperclassesAcyclic ∧ d.KeysAcyclic ∧
      .addForeignKey ownedPairKey ∈ result.statements ∧
      (∃ constraint, .addPrimaryKey "W" constraint ["p", "k-s"] ∈ result.statements) ∧
      ownedPairKey.Aligned ∧
      ∀ (i : Nat) (column refColumn : String), ownedPairKey.columns[i]? = some column →
        ownedPairKey.refColumns[i]? = some refColumn →
          ∃ sqlType,
            (∃ statement ∈ result.statements, statement.Declares "A" column sqlType) ∧
              ∃ statement ∈ result.statements, statement.Declares "W" refColumn sqlType := by
  have found : scriptHolds {} ownedPair (.addForeignKey ownedPairKey) = true := by decide +kernel
  obtain ⟨result, compiled, made⟩ := mem_of_scriptHolds found
  have checked : classifiesTo ownedPair (fun d => decide
      (d.StrongHierarchies ∧
        (∀ entity ∈ d.nodes, ∀ upper ∈ d.superclassOf? entity,
          d.nodes.idxOf upper < d.nodes.idxOf entity) ∧
        ∀ entity ∈ d.nodes, ∀ source ∈ d.keySources entity,
          d.nodes.idxOf source < d.nodes.idxOf entity)) = true := by decide +kernel
  obtain ⟨d, read, holds⟩ := exists_of_classifiesTo checked
  obtain ⟨hierarchies, superclasses, sources⟩ := of_decide_eq_true holds
  have acyclicSuperclasses := superclassesAcyclic_of_order superclasses
  have acyclic := keysAcyclic_of_order sources
  exact ⟨d, result, read, compiled, hierarchies, acyclicSuperclasses, acyclic, made,
    foreign_key_refers_to_primary_key read compiled hierarchies acyclicSuperclasses acyclic made⟩

end EntitySchema
