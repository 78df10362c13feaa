/-
# EntitySchema.Proofs.ProperKeys -- primary keys without repetitions

Names of key columns are made by joining names, along chains of any length, so
different columns need not get different names.  They do if the attributes of each
entity have different names without a hyphen (`Classified.PlainAttributes`), which
only names that are carried over have.

The invariant is that the keys of an entity all belong to its table and have different
columns (`ProperKey`).  Since they have one owner, what is carried over is as
different as it was (`ProperKey.carriedTo`).  The invariant is kept wherever a key is
computed from others (`proper_of_computed`), so it holds of the keys of a run, even
of those that depend on each other in a circle.
-/
import EntitySchema.Proofs.FreshNames
import EntitySchema.Proofs.Wholeness

namespace EntitySchema

set_option autoImplicit false

/-! ## Names carried over -/

theorem hyphen_mem_foreignColumn (key owner : String) : '-' ∈ (foreignColumn key owner).toList := by
  simp [foreignColumn]

theorem foreignColumn_injective (owner : String) :
    Function.Injective fun key => foreignColumn key owner := by
  intro first second same
  have letters := congrArg String.toList same
  simp only [foreignColumn, String.toList_append, List.append_assoc, List.append_cancel_right_eq]
    at letters
  exact String.toList_injective letters

/-- Key columns of one table, all different. -/
structure ProperKey (table : String) (keys : List Key) : Prop where
  owner : ∀ key ∈ keys, key.owner = table
  distinct : (keys.map (·.column)).Nodup

namespace ProperKey

variable {table : String} {keys : List Key}

theorem nil (table : String) : ProperKey table [] := ⟨by simp, by simp⟩

/-- Columns of one table are carried over under different names. -/
theorem nodup_foreignColumns (proper : ProperKey table keys) :
    (keys.map (·.foreignColumn)).Nodup := by
  have same : keys.map (·.foreignColumn) =
      (keys.map (·.column)).map fun column => foreignColumn column table := by
    rw [List.map_map]
    refine List.map_congr_left fun key mem => ?_
    rw [Function.comp_apply, Key.foreignColumn, proper.owner key mem]
  rw [same]
  exact proper.distinct.map (foreignColumn_injective table)

theorem carriedTo (proper : ProperKey table keys) (other : String) :
    ProperKey other (keys.map (·.carriedTo other)) where
  owner key mem := by
    obtain ⟨_, _, rfl⟩ := List.mem_map.1 mem
    rfl
  distinct := by
    rw [List.map_map]
    exact proper.nodup_foreignColumns

end ProperKey

namespace Classified

/-- The attributes of an entity have different names, and none has the separator of
names that are carried over. -/
structure PlainAttributes (d : Classified) : Prop where
  distinct : ∀ entity ∈ d.ofKinds (·.isEntity), (d.attributeColumns entity).Nodup
  unseparated : ∀ entity ∈ d.ofKinds (·.isEntity), ∀ name ∈ d.attributeColumns entity,
    '-' ∉ name.toList

variable {d : Classified}

/-! ## Keys -/

section Keys

variable {entity : Construct}

theorem map_column_keysOfKind_sublist (entity : Construct) {kind : NodeKind}
    (stored : kind.isStored = true) :
    ((d.keysOfKind entity kind).map (·.column)).Sublist (d.attributeColumns entity) := by
  have same : (d.keysOfKind entity kind).map (·.column) =
      (d.neighboursOf entity.id (· == kind)).map fun neighbour => columnName neighbour.2.label := by
    rw [keysOfKind, List.map_map]
    rfl
  rw [same, attributeColumns]
  refine List.Sublist.map _ (List.monotone_filter_right _ fun neighbour here => ?_)
  exact (beq_iff_eq.1 here).symm ▸ stored

theorem PlainAttributes.proper_keysOfKind (plain : d.PlainAttributes)
    (inKinds : entity ∈ d.ofKinds (·.isEntity)) {kind : NodeKind} (stored : kind.isStored = true) :
    ProperKey (tableName entity.label) (d.keysOfKind entity kind) where
  owner key mem := by
    obtain ⟨_, _, rfl⟩ := List.mem_map.1 mem
    rfl
  distinct := (plain.distinct entity inKinds).sublist (map_column_keysOfKind_sublist entity stored)

/-- The way up from an entity leads from entity to entity. -/
theorem rootFrom_mem_ofKinds (unvisited : List String) (inKinds : entity ∈ d.ofKinds (·.isEntity)) :
    d.rootFrom unvisited entity ∈ d.ofKinds (·.isEntity) := by
  fun_induction rootFrom d unvisited entity with
  | case1 => exact inKinds
  | case2 unvisited current parent above fresh ih =>
      obtain ⟨_, _, _, superclass⟩ := superclassOf_spec above
      obtain ⟨near, isEntity, _⟩ := superclassEnd_spec superclass
      exact ih (mem_ofKinds_iff.2 ⟨mem_nodes_of_mem_neighbours near, isEntity⟩)
  | case3 => exact inKinds

theorem PlainAttributes.proper_rootKeys (plain : d.PlainAttributes)
    (inKinds : entity ∈ d.ofKinds (·.isEntity)) :
    ∃ table, ProperKey table (d.ownerKeys (d.rootOf entity)) :=
  ⟨_, plain.proper_keysOfKind (rootFrom_mem_ofKinds _ inKinds) rfl⟩

theorem PlainAttributes.proper_strongKeyOf (plain : d.PlainAttributes)
    (inKinds : entity ∈ d.ofKinds (·.isEntity)) :
    ProperKey (tableName entity.label) (d.strongKeyOf entity) := by
  unfold strongKeyOf
  split
  · rename_i below
    obtain ⟨_, proper⟩ := plain.proper_rootKeys inKinds
    rw [inheritedKey, if_pos below]
    exact proper.carriedTo _
  · exact plain.proper_keysOfKind inKinds rfl

/-- The partial key has no hyphen, and what is taken over from the owner has. -/
theorem PlainAttributes.proper_weakKeyOf (plain : d.PlainAttributes)
    (inKinds : entity ∈ d.ofKinds (·.isEntity)) {owner? : Option KeyedEnd}
    (proper : ∀ owner ∈ owner?, ∃ table, ProperKey table owner.keys) :
    ProperKey (tableName entity.label) (d.weakKeyOf entity owner?) := by
  cases owner? with
  | none => exact .nil _
  | some owner =>
      rw [weakKeyOf]
      split
      · exact .nil _
      · rename_i partialKey found
        obtain ⟨_, ownerProper⟩ := proper owner rfl
        have declared : partialKey ∈ d.keysOfKind entity .partialKeyAttribute :=
          List.mem_of_head? found
        have own : ProperKey (tableName entity.label) (d.keysOfKind entity .partialKeyAttribute) :=
          plain.proper_keysOfKind inKinds rfl
        have taken := ownerProper.carriedTo (tableName entity.label)
        refine ⟨fun key mem => ?_, ?_⟩
        · rcases List.mem_cons.1 mem with rfl | inherited
          · exact own.owner _ declared
          · exact taken.owner key inherited
        · rw [List.map_cons, List.nodup_cons]
          refine ⟨fun again => ?_, taken.distinct⟩
          have named : partialKey.column ∈ d.attributeColumns entity :=
            (map_column_keysOfKind_sublist entity rfl).subset (List.mem_map_of_mem declared)
          rw [List.map_map] at again
          obtain ⟨key, _, same⟩ := List.mem_map.1 again
          exact plain.unseparated entity inKinds _ named
            (same ▸ hyphen_mem_foreignColumn key.column key.owner)

theorem proper_associativeKeyOf (ends : List KeyedEnd) :
    ProperKey (tableName entity.label)
      (associativeKeyOf entity (d.referencesOf entity ends)) where
  owner key mem := by
    obtain ⟨_, _, made⟩ := List.mem_flatMap.1 mem
    obtain ⟨_, _, rfl⟩ := List.mem_map.1 made
    rfl
  distinct := by
    unfold referencesOf
    split
    · exact List.nodup_nil
    · rw [map_column_associativeKeyOf fun reference mem => length_columns_of_planned mem]
      exact (planReferences_spec _ _).1

/-- A key that is computed from proper ones is proper. -/
theorem PlainAttributes.proper_of_computed (plain : d.PlainAttributes)
    (inKinds : entity ∈ d.ofKinds (·.isEntity)) {keys : List Key}
    (computed : d.KeyComputed (fun other found => other ∈ d.ofKinds (·.isEntity) →
      ProperKey (tableName other.label) found) entity keys) :
    ProperKey (tableName entity.label) keys := by
  by_cases weak : entity.kind = .weakEntity
  · obtain ⟨owner?, first, rfl⟩ := (keyComputed_weak weak).1 computed
    refine plain.proper_weakKeyOf inKinds fun owner found => ?_
    obtain rfl := Option.mem_def.1 found
    obtain ⟨candidate, mem, told, _⟩ := first.mem_of_found
    obtain ⟨ownerIn, isEntity⟩ := owner_spec mem
    exact ⟨_, told (mem_ofKinds_iff.2 ⟨ownerIn, isEntity⟩)⟩
  by_cases associative : entity.kind = .associativeEntity
  · obtain ⟨ends, _, rfl⟩ := (keyComputed_associative associative).1 computed
    exact proper_associativeKeyOf ends
  · obtain rfl := (keyComputed_strong weak associative).1 computed
    exact plain.proper_strongKeyOf inKinds

variable {settings : Settings} {diagram : Diagram}

theorem PlainAttributes.proper_keysAfter (plain : d.PlainAttributes)
    (read : diagram.classify = .ok d) (inKinds : entity ∈ d.ofKinds (·.isEntity)) :
    ProperKey (tableName entity.label) (keysAfter settings diagram d entity) := by
  obtain ⟨inNodes, isEntity⟩ := mem_ofKinds_iff.1 inKinds
  let Proper := fun (entity : Construct) keys => entity.kind.isEntity = true →
    ProperKey (tableName entity.label) keys
  have keyless : ∀ entity, Proper entity [] := fun _ _ => .nil _
  refine keysAfter_induction settings read keyless (fun entity inNodes keys computed isEntity => ?_)
    inNodes isEntity
  refine plain.proper_of_computed (mem_ofKinds_iff.2 ⟨inNodes, isEntity⟩)
    (computed.mono fun other found told otherIn => ?_)
  obtain ⟨inNodes, isEntity⟩ := mem_ofKinds_iff.1 otherIn
  exact told inNodes isEntity

end Keys

/-! ## Primary keys -/

/-- If the part is a primary key, it has columns, and all of them are different. -/
def KeysProperly (part : Part) : Prop :=
  ∀ table constraint columns, part.statement? = some (.addPrimaryKey table constraint columns) →
    columns ≠ [] ∧ columns.Nodup

section Sketches

variable {keys : KeyTable} {part : Part}

theorem keysProperly_primaryKey {table : String} {columns : List String} (some : columns ≠ [])
    (distinct : columns.Nodup) : KeysProperly (.plain (primaryKey table columns)) := by
  intro made constraint given same
  simp only [Part.statement?, primaryKey, Option.some.injEq, Statement.addPrimaryKey.injEq] at same
  obtain ⟨_, _, rfl⟩ := same
  exact ⟨some, distinct⟩

/-- The primary key that a table gets behind the columns and the foreign key it refers by. -/
theorem addPrimaryKey_mem_append_iff {table other made constraint : String}
    {inherited : List Key} {key : ForeignKey} {columns given : List String} :
    .addPrimaryKey made constraint given ∈
        addKeyColumns table inherited ++ [.addForeignKey key, primaryKey other columns] ↔
      made = other ∧ constraint = "PK_" ++ other ∧ given = columns := by
  simp [addKeyColumns, primaryKey]

/-- Of the parts that statements become, only the primary keys matter. -/
theorem keysProperly_of_mem_map_of {site : Site} {target : Construct} {statements : List Statement}
    (proper : ∀ table constraint columns, .addPrimaryKey table constraint columns ∈ statements →
      columns ≠ [] ∧ columns.Nodup)
    (mem : part ∈ statements.map (Part.of site target)) : KeysProperly part := by
  obtain ⟨statement, inStatements, rfl⟩ := List.mem_map.1 mem
  intro table constraint columns same
  rw [Part.statement?_of] at same
  exact proper table constraint columns (Option.some.inj same ▸ inStatements)

theorem keysProperly_of_mem_triggers {plans : List TriggerPlan}
    (mem : part ∈ plans.map Part.trigger) : KeysProperly part := by
  obtain ⟨plan, _, rfl⟩ := List.mem_map.1 mem
  intro table constraint columns same
  simp [Part.statement?] at same

theorem keysProperly_of_strongKeySketch {entity : Construct} {table : String}
    (proper : ProperKey table (keys entity))
    (mem : part ∈ (d.strongKeySketch keys entity).parts) : KeysProperly part := by
  unfold strongKeySketch at mem
  split at mem
  · simp at mem
  split at mem
  · simp [Omission.sketch] at mem
  · rename_i keyed
    obtain rfl := List.mem_singleton.1 mem
    exact keysProperly_primaryKey (by simpa using keyed) proper.distinct

/-- Where a weak entity was keyless too long, its partial key is all it has. -/
theorem keysProperly_of_weakKeySketch {weak : Construct} {table : String}
    (settled : d.Settled keys) (inKind : weak ∈ d.ofKind .weakEntity)
    (proper : ProperKey table (keys weak)) (mem : part ∈ (d.weakKeySketch keys weak).parts) :
    KeysProperly part := by
  obtain ⟨inNodes, kind⟩ := mem_ofKind_iff.1 inKind
  unfold weakKeySketch at mem
  split at mem
  · simp [Omission.sketch] at mem
  rename_i partialKey declared
  split at mem
  · simp [Omission.sketch] at mem
  refine keysProperly_of_mem_map_of (fun made constraint columns among => ?_) mem
  rw [weakKeyStatements, addPrimaryKey_mem_append_iff] at among
  obtain ⟨_, _, rfl⟩ := among
  refine ⟨List.cons_ne_nil _ _, ?_⟩
  by_cases keyless : keys weak = []
  · simp [keyless]
  · obtain ⟨first, _, found, _, whole⟩ := settled.weak inNodes kind keyless
    obtain rfl : partialKey = first := Option.some.inj (declared ▸ found)
    have distinct := proper.distinct
    rwa [whole, List.map_cons] at distinct

/-- The key of a subtype has as many columns as the key of its root, and no two of these lead to one
column. -/
theorem keysProperly_of_generalizationSketch (plain : d.PlainAttributes)
    {generalization : Construct}
    (mem : part ∈ (d.generalizationSketch keys generalization).parts) : KeysProperly part := by
  obtain none | ⟨above, found, rootKeyed, _, parts⟩ :=
    generalizationSketch_cases d keys generalization
  · simp [none] at mem
  rw [parts] at mem
  obtain inKeys | inTriggers := List.mem_append.1 mem
  · obtain ⟨subtype, heir, inStatements⟩ := List.mem_flatMap.1 inKeys
    obtain ⟨neighbour, _, rfl⟩ := List.mem_map.1 heir
    refine keysProperly_of_mem_map_of (fun made constraint columns among => ?_) inStatements
    rw [subtypeKeyStatements, addPrimaryKey_mem_append_iff, heirOf_columns] at among
    obtain ⟨_, _, rfl⟩ := among
    obtain ⟨near, isEntity, _⟩ := superclassEnd_spec found
    obtain ⟨_, proper⟩ :=
      plain.proper_rootKeys (mem_ofKinds_iff.2 ⟨mem_nodes_of_mem_neighbours near, isEntity⟩)
    refine ⟨by simpa using rootKeyed, ?_⟩
    rw [superclassKeys_of_superclassEnd found]
    exact proper.nodup_foreignColumns
  · exact keysProperly_of_mem_triggers inTriggers

/-- A table of references is keyed by all their columns, of which each reference has some. -/
theorem keysProperly_of_junctionParts {site : Site} {table : String} {taken : List String}
    {ends : List KeyedEnd} (some : planReferences taken ends ≠ [])
    (mem : part ∈ junctionParts site table (planReferences taken ends)) : KeysProperly part := by
  obtain inKeys | inPrimary := List.mem_append.1 mem
  · obtain ⟨position, _, rfl⟩ := List.mem_mapIdx.1 inKeys
    intro made constraint columns same
    simp [Part.statement?] at same
  · obtain rfl := List.mem_singleton.1 inPrimary
    refine keysProperly_primaryKey (fun none => ?_) (planReferences_spec taken ends).1
    obtain ⟨reference, planned⟩ := List.exists_mem_of_ne_nil _ some
    have columns : reference.columns.length ≠ 0 := by
      rw [length_columns_of_planned planned]
      exact fun keyless => (mem_planReferences planned).2.1 (List.length_eq_zero_iff.1 keyless)
    exact columns (by rw [List.flatMap_eq_nil_iff.1 none reference planned, List.length_nil])

/-- The columns of a junction table are named beside each other, which keeps its primary key free of
repetitions. -/
theorem keysProperly_of_relationshipSketch {reserved : Reservations} {node : Construct}
    (mem : part ∈ (d.relationshipSketch keys reserved node).1.parts) : KeysProperly part := by
  obtain none | ⟨many, keyed, same⟩ | ⟨how, _, _, _, same⟩ :=
    relationshipSketch_cases d keys reserved node
  · simp [none] at mem
  · rw [same] at mem
    rcases List.mem_cons.1 mem with rfl | mem
    · intro made constraint columns same
      simp [Part.statement?] at same
    · refine keysProperly_of_junctionParts (fun none => ?_) mem
      have ends : d.relationshipEnds keys node = [] := by
        rw [← map_target_planReferences keyed, none, List.map_nil]
      simp [ends, Cardinality.ofEnds?] at many
  · rw [same] at mem
    obtain inStatements | inTriggers := List.mem_append.1 mem
    · refine keysProperly_of_mem_map_of (fun made constraint columns among => ?_) inStatements
      simp [embeddingStatements] at among
    · exact keysProperly_of_mem_triggers inTriggers

/-- As for a junction table, with the attributes of the entity among the taken names. -/
theorem keysProperly_of_associativeSketch {entity : Construct}
    (mem : part ∈ (d.associativeSketch keys entity).parts) : KeysProperly part := by
  unfold associativeSketch at mem
  dsimp only at mem
  split at mem
  · simp [Omission.sketch] at mem
  · rename_i referring
    obtain inColumns | inKeys := List.mem_append.1 mem
    · obtain ⟨column, _, rfl⟩ := List.mem_map.1 inColumns
      intro made constraint columns same
      simp [Part.statement?] at same
    · obtain ⟨_, _, planned⟩ := referencesIn_spec (by simpa using referring)
      rw [planned] at inKeys referring
      exact keysProperly_of_junctionParts (by simpa using referring) inKeys

theorem keysProperly_of_multivaluedSketch {surrogateType : String} {item : Construct}
    (mem : part ∈ (d.multivaluedSketch keys surrogateType item).parts) : KeysProperly part := by
  unfold multivaluedSketch at mem
  split at mem
  · simp [Omission.sketch] at mem
  split at mem
  · simp [Omission.sketch] at mem
  · refine keysProperly_of_mem_map_of (fun made constraint columns among => ?_) mem
    simp only [childTableStatements, primaryKey, List.mem_cons, reduceCtorEq, List.not_mem_nil,
      Statement.addPrimaryKey.injEq, or_false, false_or] at among
    obtain ⟨_, _, rfl⟩ := among
    simp

/-- Every primary key of an outline is proper. -/
theorem keysProperly_of_mem_sketch {settings : Settings} {phase : Phase} {sketch : Sketch}
    (plain : d.PlainAttributes) (settled : d.Settled keys)
    (proper : ∀ entity ∈ d.ofKinds (·.isEntity), ProperKey (tableName entity.label) (keys entity))
    (inPhase : sketch ∈ phase.sketches settings d keys) (mem : part ∈ sketch.parts) :
    KeysProperly part := by
  have properOf : ∀ {kind : NodeKind} {entity : Construct}, kind.isEntity = true →
      entity ∈ d.ofKind kind → ProperKey (tableName entity.label) (keys entity) := by
    intro kind entity isEntity inKind
    obtain ⟨inNodes, rfl⟩ := mem_ofKind_iff.1 inKind
    exact proper entity (mem_ofKinds_iff.2 ⟨inNodes, isEntity⟩)
  have unkeyed : ∀ statement, (∀ table constraint columns,
      statement ≠ .addPrimaryKey table constraint columns) → KeysProperly (.plain statement) :=
    fun _ other table constraint columns same =>
      absurd (Option.some.inj same) (other table constraint columns)
  obtain ⟨node, handled, drafts⟩ := exists_drafts_of_mem_sketches inPhase
  cases drafts with
  | ownedTable | associativeTable =>
      obtain rfl := List.mem_singleton.1 mem
      exact unkeyed _ (by simp [tableStatement])
  | strongKey => exact keysProperly_of_strongKeySketch (properOf rfl handled) mem
  | weakKey => exact keysProperly_of_weakKeySketch settled handled (properOf rfl handled) mem
  | generalization => exact keysProperly_of_generalizationSketch plain mem
  | relationship => exact keysProperly_of_relationshipSketch mem
  | associativeEntity => exact keysProperly_of_associativeSketch mem
  | multivaluedAttribute => exact keysProperly_of_multivaluedSketch mem
  | derivedAttribute alone =>
      obtain none | ⟨name, query, view⟩ :=
        parts_of_mem_viewSketches (alone ▸ List.mem_singleton_self _)
      · simp [none] at mem
      · rw [view] at mem
        obtain rfl := List.mem_singleton.1 mem
        exact unkeyed _ (by simp)

end Sketches

end Classified

/-! ## Scripts -/

open Classified

/-- The primary keys of a script have columns, and no column twice. -/
theorem primary_key_columns_distinct {settings : Settings} {diagram : Diagram} {d : Classified}
    {result : CompileResult} (read : diagram.classify = .ok d)
    (compiled : compile settings diagram = .ok result) (plain : d.PlainAttributes)
    {table constraint : String} {columns : List String}
    (mem : .addPrimaryKey table constraint columns ∈ result.statements) :
    columns ≠ [] ∧ columns.Nodup := by
  obtain ⟨part, inOutline, fits⟩ := exists_of_mem_right (statements_fit_outline read compiled) mem
  obtain ⟨phase, sketch, inPhase, inSketch⟩ := mem_outline_iff.1 inOutline
  have proper := keysProperly_of_mem_sketch plain (settled_keysAfter settings read)
    (fun entity inKinds => plain.proper_keysAfter read inKinds) inPhase inSketch
  cases part with
  | plain | reference => exact proper table constraint columns fits
  | trigger plan =>
      obtain ⟨trigger, impossible, _⟩ := fits
      simp at impossible

/-- Two weak entities that own each other, one of them also owned by a strong entity, and
an associative entity between that one and its owner. -/
def circularOwners : Diagram :=
  { nodes :=
      [.drawn "v" "V" "WeakEntity", .drawn "p" "p" "PartialKeyAttribute",
       .drawn "w" "W" "WeakEntity", .drawn "q" "p" "PartialKeyAttribute",
       .drawn "r" "R" "WeakRelationship", .drawn "o" "O" "WeakRelationship",
       .drawn "s" "S" "StrongEntity", .drawn "k" "p" "KeyAttribute",
       .drawn "a" "A" "AssociativeEntity"]
    connections :=
      [.drawn "1" "v" "p", .drawn "2" "w" "q", .drawn "3" "v" "r", .drawn "4" "w" "r",
       .drawn "5" "w" "o", .drawn "6" "o" "s", .drawn "7" "s" "k", .drawn "8" "a" "w",
       .drawn "9" "a" "s"]
    node_ids_nodup := by decide
    connection_ids_nodup := by decide }

/-- Owners in a circle are cut where the resolver comes back to an entity, so no column is taken
over twice. -/
theorem circularOwners_primary_key_distinct :
    ∃ d result, circularOwners.classify = .ok d ∧ compile {} circularOwners = .ok result ∧
      d.PlainAttributes ∧
      .addPrimaryKey "A" "PK_A" ["p-w", "p-s-w", "p-s"] ∈ result.statements ∧
      ["p-w", "p-s-w", "p-s"] ≠ [] ∧ ["p-w", "p-s-w", "p-s"].Nodup := by
  have found : scriptHolds {} circularOwners
      (.addPrimaryKey "A" "PK_A" ["p-w", "p-s-w", "p-s"]) = true := by decide +kernel
  obtain ⟨result, compiled, made⟩ := mem_of_scriptHolds found
  have checked : classifiesTo circularOwners (fun d => decide
      ((∀ entity ∈ d.ofKinds (·.isEntity), (d.attributeColumns entity).Nodup) ∧
        ∀ entity ∈ d.ofKinds (·.isEntity), ∀ name ∈ d.attributeColumns entity,
          '-' ∉ name.toList)) = true := by decide +kernel
  obtain ⟨d, read, holds⟩ := exists_of_classifiesTo checked
  obtain ⟨distinct, unseparated⟩ := of_decide_eq_true holds
  have plain : d.PlainAttributes := ⟨distinct, unseparated⟩
  exact ⟨d, result, read, compiled, plain, made,
    primary_key_columns_distinct read compiled plain made⟩

end EntitySchema
