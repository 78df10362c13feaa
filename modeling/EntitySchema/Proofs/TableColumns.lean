/-
# EntitySchema.Proofs.TableColumns -- the columns that a script gives a table

Columns reach the table of an entity by several ways: its attributes, the keys that
it takes over (`Classified.carriedColumns`), the foreign keys of the relationships
that are embedded in it (`Classified.embeddedColumns`) and the attributes of those
relationships (`Classified.lentColumns`).  A junction table or a child table has the
columns that it is created with.

Each construct is read first; from them come the columns of a table that belongs to
an entity (`columnsOf_entity_perm`), a relationship (`columnsOf_junction`) or an
attribute (`columnsOf_child`) and to no other construct.  Foreign keys are named one
relationship after the other, with all those before them taken: that is the
induction of `columnsOf_relationshipSketches_perm`.
-/
import EntitySchema.Proofs.FreshNames
import EntitySchema.Proofs.Tables

namespace EntitySchema

set_option autoImplicit false

/-! ## Columns of a script -/

/-- The columns that a script gives a table, in order. -/
def columnsOf (table : String) (statements : List Statement) : List String :=
  statements.flatMap (·.columnsFor table)

theorem skims_columnsFor (table : String) : Skims (Statement.columnsFor table) where
  trigger _ := rfl
  view _ _ := rfl

section Statements

variable {table other : String}

theorem columnsOf_append (first second : List Statement) :
    columnsOf table (first ++ second) = columnsOf table first ++ columnsOf table second :=
  List.flatMap_append

/-- An alteration of another table gives the table no column. -/
theorem columnsFor_of_alters (apart : other ≠ table) (statement : Statement)
    (alters : statement.Alters other) : statement.columnsFor table = [] := by
  cases statement with
  | createTable => exact alters.elim
  | addColumn made column =>
      obtain rfl : made = other := alters
      exact if_neg apart
  | _ => rfl

theorem columnsOf_eq_nil {statements : List Statement} (apart : other ≠ table)
    (alters : ∀ statement ∈ statements, statement.Alters other) : columnsOf table statements = [] :=
  flatMap_eq_nil_of_alters (columnsFor_of_alters apart) alters

/-- So do its creation and alterations that follow. -/
theorem columnsOf_createTable_eq_nil {columns : List Column} {statements : List Statement}
    (apart : other ≠ table) (alters : ∀ statement ∈ statements, statement.Alters other) :
    columnsOf table (.createTable other columns :: statements) = [] := by
  have created : (Statement.createTable other columns).columnsFor table = [] := if_neg apart
  rw [columnsOf, List.flatMap_cons, created, List.nil_append]
  exact columnsOf_eq_nil apart alters

theorem columnsOf_map_addColumn (columns : List Column) :
    columnsOf table (columns.map (.addColumn table)) = columns.map (·.name) := by
  induction columns with
  | nil => rfl
  | cons column rest ih =>
      rw [List.map_cons, List.map_cons, ← ih]
      simp [columnsOf, Statement.columnsFor]

theorem columnsOf_triggers (plans : List TriggerPlan) :
    columnsOf table (plans.map (·.unnumbered)) = [] := by
  rw [columnsOf, List.flatMap_map]
  exact flatMap_nothing plans

theorem map_name_storedColumns (d : Classified) (node : Construct) :
    (d.storedColumns node).map (·.name) = d.attributeColumns node := by
  simp [Classified.storedColumns, Classified.attributeColumns, attributeColumn, Function.comp_def]

theorem columnsOf_addKeyColumns (keys : List Key) :
    columnsOf table (addKeyColumns table keys) = keys.map (·.column) := by
  have same : addKeyColumns table keys =
      (keys.map fun key => keyColumn key.column key.sqlType).map (.addColumn table) := by
    simp [addKeyColumns]
  rw [same, columnsOf_map_addColumn, List.map_map]
  rfl

theorem columnsOf_weakKeyStatements (partialKey : Key) (inherited : List Key) (owner : KeyedEnd) :
    columnsOf table (weakKeyStatements table partialKey inherited owner) =
      inherited.map (·.column) := by
  rw [weakKeyStatements, columnsOf_append, columnsOf_addKeyColumns]
  exact List.append_nil _

theorem columnsOf_subtypeKeyStatements (superclass subtype : KeyedEnd) :
    columnsOf subtype.table (subtypeKeyStatements superclass subtype) = subtype.columns := by
  rw [subtypeKeyStatements, columnsOf_append, columnsOf_addKeyColumns]
  exact List.append_nil _

theorem columnsOf_junctionKeys (made : String) (references : List Reference) :
    columnsOf table (junctionKeys made references) = [] := by
  rw [columnsOf, List.flatMap_eq_nil_iff]
  intro statement mem
  rcases List.mem_append.1 mem with inKeys | inPrimary
  · obtain ⟨position, _, rfl⟩ := List.mem_mapIdx.1 inKeys
    rfl
  · obtain rfl := List.mem_singleton.1 inPrimary
    rfl

/-- As many columns as keys are typed one by one. -/
theorem map_fst_typedColumns {reference : Reference}
    (long : reference.columns.length = reference.target.keys.length) :
    reference.typedColumns.map (·.1) = reference.columns := by
  rw [Reference.typedColumns, List.map_fst_zip]
  simp [Reference.sqlTypes, long]

theorem map_name_referenceColumns {references : List Reference}
    (long : ∀ reference ∈ references,
      reference.columns.length = reference.target.keys.length) :
    (referenceColumns references).map (·.name) = references.flatMap (·.columns) := by
  rw [referenceColumns, List.map_flatMap]
  refine List.flatMap_congr fun reference mem => ?_
  rw [← map_fst_typedColumns (long reference mem), List.map_map]
  rfl

theorem columnsOf_embeddingStatements (d : Classified) (node : Construct) (how : Embedding)
    {reference : Reference} (long : reference.columns.length = reference.target.keys.length) :
    columnsOf how.holder.table (embeddingStatements d node how reference) =
      reference.columns ++ d.attributeColumns node := by
  have names : reference.typedColumns.map (·.1) = reference.columns := map_fst_typedColumns long
  rw [embeddingStatements_eq, columnsOf_append, columnsOf_map_addColumn, List.map_append,
    List.map_map, map_name_storedColumns]
  simp only [Function.comp_def]
  rw [names]
  exact List.append_nil _

theorem columnsOf_junctionStatements (d : Classified) (node : Construct) (ends : List KeyedEnd) :
    columnsOf (Classified.junctionTable ends) (junctionStatements d node ends) =
      (planReferences [] ends).flatMap (·.columns) ++ d.attributeColumns node := by
  have long : ∀ reference ∈ planReferences [] ends,
      reference.columns.length = reference.target.keys.length := fun _ => length_columns_of_planned
  have created : ∀ columns, columnsOf (Classified.junctionTable ends)
      [.createTable (Classified.junctionTable ends) columns] = columns.map (·.name) := by
    intro columns
    simp [columnsOf, Statement.columnsFor]
  rw [junctionStatements, ← List.singleton_append]
  rw [columnsOf_append, columnsOf_junctionKeys, List.append_nil]
  rw [← map_name_storedColumns, ← map_name_referenceColumns long, ← List.map_append]
  exact created _

theorem columnsOf_associativeStatements (table : String) {references : List Reference}
    (long : ∀ reference ∈ references,
      reference.columns.length = reference.target.keys.length) :
    columnsOf table (associativeStatements table references) = references.flatMap (·.columns) := by
  rw [associativeStatements, columnsOf_append, columnsOf_junctionKeys, List.append_nil,
    columnsOf_map_addColumn, map_name_referenceColumns long]

def childColumns (item : Construct) (keys : List Key) : List String :=
  keys.map (·.column)
    ++ ["pk-" ++ Text.lowerString (columnName item.label), Text.lowerString (columnName item.label)]

theorem columnsOf_childTableStatements (surrogateType : String) (item owner : Construct)
    (keys : List Key) :
    columnsOf (Classified.childTable item owner)
        (childTableStatements surrogateType item owner keys) = childColumns item keys := by
  simp [columnsOf, childTableStatements, Classified.childTable, childColumns, Statement.columnsFor,
    primaryKey, keyColumn, Function.comp_def]

end Statements

namespace Classified

variable {d : Classified} {keys : KeyTable} {table : String}

/-! ## Where the columns of an entity come from -/

/-- The key columns that a weak entity takes over from its owner. -/
def ownerColumns (d : Classified) (keys : KeyTable) (weak : Construct) : List String :=
  match d.partialKey? weak, d.ownerIn keys weak with
  | some _, some _ => ((keys weak).drop 1).map (·.column)
  | _, _ => []

/-- The key columns that an entity inherits, once for every generalization that writes
a key for it. -/
def inheritedColumns (d : Classified) (keys : KeyTable) (entity : Construct) : List String :=
  (d.ofKinds (·.isGeneralization)).flatMap fun generalization =>
    ((d.heirs keys generalization).filter (·.node = entity)).flatMap (·.columns)

/-- The key columns that the table of an entity takes over from other tables. -/
def carriedColumns (d : Classified) (keys : KeyTable) (entity : Construct) : List String :=
  (if entity.kind = .weakEntity then d.ownerColumns keys entity else [])
    ++ d.inheritedColumns keys entity
    ++ (if entity.kind = .associativeEntity then
          (d.referencesIn keys entity).flatMap (·.columns) else [])

/-- The embedding of a relationship in an entity, if it is embedded there. -/
def embeddedIn (d : Classified) (keys : KeyTable) (entity node : Construct) : List Embedding :=
  match d.encodingIn keys node with
  | .embedding how => if how.holder.node = entity then [how] else []
  | _ => []

/-- The attributes of the relationships that are embedded in an entity. -/
def lentColumns (d : Classified) (keys : KeyTable) (entity : Construct) : List String :=
  (d.ofKind .relationship).flatMap fun node =>
    (d.embeddedIn keys entity node).flatMap fun _ => d.attributeColumns node

/-- The foreign keys of the relationships that are embedded in an entity: columns for
all targets, named in order beside the attributes and the key of the entity. -/
def embeddedColumns (d : Classified) (keys : KeyTable) (entity : Construct) : List String :=
  (planReferences (d.attributeColumns entity ++ (keys entity).map (·.column))
    ((d.ofKind .relationship).flatMap fun node =>
      (d.embeddedIn keys entity node).map (·.target))).flatMap (·.columns)

/-! ## The columns of a construct -/

theorem columnsOf_strongKeySketch (d : Classified) (keys : KeyTable) (table : String)
    (entity : Construct) :
    columnsOf table (d.strongKeySketch keys entity).statements = [] := by
  rw [statements_strongKeySketch]
  split <;> rfl

/-- The columns that a weak entity takes over go into its own table. -/
theorem columnsOf_weakKeySketch (d : Classified) (keys : KeyTable) (table : String)
    (weak : Construct) :
    columnsOf table (d.weakKeySketch keys weak).statements =
      if tableName weak.label = table then d.ownerColumns keys weak else [] := by
  rw [statements_weakKeySketch, ownerColumns]
  cases d.partialKey? weak with
  | none => simp [columnsOf]
  | some partialKey =>
      cases d.ownerIn keys weak with
      | none => simp [columnsOf]
      | some owner =>
          dsimp only
          split
          · rename_i here
            rw [← here]
            exact columnsOf_weakKeyStatements _ _ _
          · rename_i apart
            exact columnsOf_eq_nil apart fun _ => alters_of_mem_weakKeyStatements

/-- A table gets a set of inherited columns for each heir that goes by its name. -/
theorem columnsOf_generalizationSketch (generalization : Construct) :
    columnsOf table (d.generalizationSketch keys generalization).statements =
      ((d.heirs keys generalization).filter (·.table = table)).flatMap (·.columns) := by
  have each : ∀ (superclass : KeyedEnd) (subtypes : List KeyedEnd),
      columnsOf table (subtypes.flatMap (subtypeKeyStatements superclass)) =
        (subtypes.filter (·.table = table)).flatMap (·.columns) := by
    intro superclass subtypes
    induction subtypes with
    | nil => rfl
    | cons subtype rest ih =>
        rw [List.flatMap_cons, columnsOf_append, ih]
        by_cases here : subtype.table = table
        · rw [List.filter_cons_of_pos (by simpa using here), List.flatMap_cons, ← here,
            columnsOf_subtypeKeyStatements]
        · rw [List.filter_cons_of_neg (by simpa using here),
            columnsOf_eq_nil here fun _ => alters_of_mem_subtypeKeyStatements, List.nil_append]
  rw [statements_generalizationSketch]
  cases found : d.superclassEnd? generalization with
  | none => simp [heirs, writesKeys, found, columnsOf]
  | some above =>
      dsimp only
      split
      · rename_i none
        rw [none]
        rfl
      · rw [columnsOf_append, each, columnsOf_triggers, List.append_nil]

/-- The columns by which an associative entity refers to others are all added to its own table. -/
theorem columnsOf_associativeSketch (d : Classified) (keys : KeyTable) (table : String)
    (entity : Construct) :
    columnsOf table (d.associativeSketch keys entity).statements =
      if tableName entity.label = table then (d.referencesIn keys entity).flatMap (·.columns)
      else [] := by
  have long : ∀ reference ∈ d.referencesIn keys entity,
      reference.columns.length = reference.target.keys.length :=
    fun _ mem => length_columns_of_planned (mem_referencesIn mem)
  rw [statements_associativeSketch]
  by_cases none : d.referencesIn keys entity = []
  · simp [none, columnsOf]
  · rw [if_neg none]
    split
    · rename_i here
      rw [← here]
      exact columnsOf_associativeStatements _ long
    · rename_i apart
      exact columnsOf_eq_nil apart fun _ => alters_of_mem_associativeStatements

/-- A relationship gives columns to its junction table or to the entity that holds it. -/
theorem columnsOf_relationshipSketch (reserved : Reservations) (node : Construct) :
    columnsOf table (d.relationshipSketch keys reserved node).1.statements =
      match d.encodingIn keys node with
      | .leftOut => []
      | .junction ends =>
          if junctionTable ends = table then
            (planReferences [] ends).flatMap (·.columns) ++ d.attributeColumns node
          else []
      | .embedding how =>
          if how.holder.table = table then
            (d.referenceAfter keys reserved how).columns ++ d.attributeColumns node
          else [] := by
  rw [statements_relationshipSketch]
  cases d.encodingIn keys node with
  | leftOut => rfl
  | junction ends =>
      dsimp only
      split
      · rename_i here
        rw [← here]
        exact columnsOf_junctionStatements d node ends
      · rename_i apart
        exact columnsOf_createTable_eq_nil apart fun _ => alters_of_mem_junctionKeys
  | embedding how =>
      dsimp only
      rw [columnsOf_append, columnsOf_triggers, List.append_nil]
      split
      · rename_i here
        rw [← here]
        exact columnsOf_embeddingStatements d node how (length_foreignColumns _ _)
      · rename_i apart
        exact columnsOf_eq_nil apart fun _ => alters_of_mem_embeddingStatements

theorem columnsOf_multivaluedSketch (surrogateType : String) (item : Construct) :
    columnsOf table (d.multivaluedSketch keys surrogateType item).statements =
      match d.childOwner? keys item with
      | none => []
      | some owner =>
          if childTable item owner = table then childColumns item (keys owner) else [] := by
  rw [statements_multivaluedSketch]
  cases d.childOwner? keys item with
  | none => rfl
  | some owner =>
      dsimp only
      split
      · rename_i here
        rw [← here]
        exact columnsOf_childTableStatements surrogateType item owner (keys owner)
      · rename_i apart
        refine columnsOf_createTable_eq_nil apart fun statement mem => ?_
        rcases List.mem_pair.1 mem with rfl | rfl <;> rfl

/-! ## The columns of an entity -/

theorem isEntity_of_owned (kind : NodeKind) (owned : ownedKinds.contains kind = true) :
    kind.isEntity = true := by
  cases kind <;> first | rfl | cases owned

section Entity

variable {entity : Construct} (distinct : d.entityTables.Nodup)
  (entityIn : entity ∈ d.ofKinds (·.isEntity))

include distinct entityIn

theorem eq_of_table_eq {other : Construct} (otherIn : other ∈ d.ofKinds (·.isEntity))
    (same : tableName other.label = tableName entity.label) : other = entity :=
  List.inj_on_of_nodup_map distinct otherIn entityIn same

/-- Of entities of some kinds only the entity itself contributes to its table. -/
theorem flatMap_ofKinds_eq {accepts : NodeKind → Bool}
    (within : ∀ kind, accepts kind = true → kind.isEntity = true)
    (contribution : Construct → List String) :
    ((d.ofKinds accepts).flatMap fun other =>
        if tableName other.label = tableName entity.label then contribution other else []) =
      if accepts entity.kind = true then contribution entity else [] := by
  have others : ∀ other ∈ d.ofKinds accepts, other ≠ entity →
      (if tableName other.label = tableName entity.label then contribution other else []) = [] := by
    intro other otherIn apart
    obtain ⟨inNodes, accepted⟩ := mem_ofKinds_iff.1 otherIn
    have isEntity := mem_ofKinds_iff.2 ⟨inNodes, within _ accepted⟩
    exact if_neg fun same => apart (eq_of_table_eq distinct entityIn isEntity same)
  split
  · rename_i accepted
    have inKinds := mem_ofKinds_iff.2 ⟨(mem_ofKinds_iff.1 entityIn).1, accepted⟩
    have once : (d.ofKinds accepts).Nodup := d.nodes_nodup.filter _
    rw [flatMap_eq_of_only once inKinds others, if_pos rfl]
  · rename_i refused
    rw [List.flatMap_eq_nil_iff]
    intro other otherIn
    refine others other otherIn fun same => refused ?_
    exact same ▸ (mem_ofKinds_iff.1 otherIn).2

theorem flatMap_ofKind_eq {kind : NodeKind} (isEntity : kind.isEntity = true)
    (contribution : Construct → List String) :
    ((d.ofKind kind).flatMap fun other =>
        if tableName other.label = tableName entity.label then contribution other else []) =
      if entity.kind = kind then contribution entity else [] := by
  have within : ∀ other, (other == kind) = true → other.isEntity = true := by
    intro other same
    rw [beq_iff_eq.1 same, isEntity]
  rw [ofKind, flatMap_ofKinds_eq distinct entityIn within contribution]
  simp only [beq_iff_eq]

/-- Over all generalizations, the table of an entity gets the columns that `inheritedColumns` lists,
provided that no other entity has the same table. -/
theorem columnsOf_generalizationSketches :
    ((d.ofKinds (·.isGeneralization)).flatMap fun generalization =>
        columnsOf (tableName entity.label)
          (d.generalizationSketch keys generalization).statements) =
      d.inheritedColumns keys entity := by
  have own : ∀ generalization, ∀ subtype ∈ d.heirs keys generalization,
      decide (subtype.table = tableName entity.label) = decide (subtype.node = entity) := by
    intro generalization subtype heir
    rw [decide_eq_decide]
    constructor
    · exact fun same => eq_of_table_eq distinct entityIn (mem_entities_of_mem_heirs heir) same
    · intro same
      rw [KeyedEnd.table, same]
  unfold inheritedColumns
  refine List.flatMap_congr fun generalization _ => ?_
  rw [columnsOf_generalizationSketch, List.filter_congr (own generalization)]

/-- A relationship that is embedded in an entity gives its table columns for the target
and its own attributes; others give it nothing. -/
theorem columnsOf_relationshipSketch_of_entity {node : Construct}
    (unshared : tableName entity.label ∉ d.junctionOf keys node) (reserved : Reservations) :
    columnsOf (tableName entity.label) (d.relationshipSketch keys reserved node).1.statements =
      (d.embeddedIn keys entity node).flatMap fun how =>
        foreignColumns (d.takenIn keys reserved entity) how.target.keys
          ++ d.attributeColumns node := by
  rw [columnsOf_relationshipSketch, embeddedIn]
  cases encoded : d.encodingIn keys node with
  | leftOut => rfl
  | junction ends =>
      rw [junctionOf, encoded] at unshared
      exact if_neg fun same => unshared (List.mem_singleton.2 same.symm)
  | embedding how =>
      dsimp only
      by_cases here : how.holder.node = entity
      · subst here
        rw [if_pos rfl, KeyedEnd.table, if_pos rfl, List.flatMap_singleton]
        rfl
      · have holderIn := (mem_entities_of_embedding encoded).1
        rw [if_neg here, KeyedEnd.table, if_neg fun same =>
          here (eq_of_table_eq distinct entityIn holderIn same)]
        rfl

omit distinct in
/-- A relationship that is not embedded in an entity leaves alone what is reserved for it. -/
theorem lookup_relationshipSketch_of_elsewhere {node : Construct}
    (elsewhere : d.embeddedIn keys entity node = []) (reserved : Reservations) :
    (d.relationshipSketch keys reserved node).2.lookup entity.id = reserved.lookup entity.id := by
  rw [reserved_relationshipSketch]
  unfold embeddedIn at elsewhere
  cases encoded : d.encodingIn keys node with
  | leftOut | junction => rfl
  | embedding how =>
      rw [encoded] at elsewhere
      have holderIn := (mem_entities_of_embedding encoded).1
      have missed : entity.id ≠ how.holder.node.id := by
        intro same
        have here := eq_of_id_eq (mem_ofKinds_iff.1 holderIn).1 (mem_ofKinds_iff.1 entityIn).1
          same.symm
        simp [here] at elsewhere
      dsimp only
      rw [List.lookup_cons, beq_false_of_ne missed]

omit distinct entityIn in
theorem embeddedIn_cases (d : Classified) (keys : KeyTable) (entity node : Construct) :
    d.embeddedIn keys entity node = [] ∨
      ∃ how, d.embeddedIn keys entity node = [how] ∧ how.target.keys ≠ [] := by
  unfold embeddedIn
  cases encoded : d.encodingIn keys node with
  | leftOut | junction => exact .inl rfl
  | embedding how =>
      obtain ⟨-, targetIn, keyed⟩ := ends_of_embedding encoded
      dsimp only
      split
      · exact .inr ⟨how, rfl, keyed _ targetIn⟩
      · exact .inl rfl

omit distinct entityIn in
theorem encodingIn_of_mem_embeddedIn {node : Construct} {how : Embedding}
    (mem : how ∈ d.embeddedIn keys entity node) :
    d.encodingIn keys node = .embedding how ∧ how.holder.node = entity := by
  unfold embeddedIn at mem
  cases encoded : d.encodingIn keys node with
  | leftOut | junction => simp [encoded] at mem
  | embedding other =>
      rw [encoded] at mem
      dsimp only at mem
      split at mem
      · obtain rfl := List.mem_singleton.1 mem
        exact ⟨rfl, ‹_›⟩
      · exact absurd mem List.not_mem_nil

omit distinct in
/-- Columns that an embedding gives an entity are taken there from then on. -/
theorem takenIn_relationshipSketch (reserved : Reservations) (node : Construct) :
    d.takenIn keys (d.relationshipSketch keys reserved node).2 entity =
      ((d.embeddedIn keys entity node).flatMap fun how =>
        foreignColumns (d.takenIn keys reserved entity) how.target.keys)
          ++ d.takenIn keys reserved entity := by
  obtain elsewhere | ⟨how, embedded, _⟩ := embeddedIn_cases d keys entity node
  · rw [takenIn, lookup_relationshipSketch_of_elsewhere entityIn elsewhere, elsewhere]
    rfl
  · obtain ⟨encoded, rfl⟩ := encodingIn_of_mem_embeddedIn (embedded ▸ List.mem_singleton_self how)
    rw [reserved_relationshipSketch, encoded, embedded]
    simp [takenIn, referenceAfter, embeddedReference]

/-- The relationships that are embedded in an entity give its table columns for their
targets, named in order, and their own attributes. -/
theorem columnsOf_relationshipSketches_perm {nodes : List Construct}
    (unshared : ∀ node ∈ nodes, tableName entity.label ∉ d.junctionOf keys node)
    (reserved : Reservations) :
    ((d.relationshipSketches keys reserved nodes).flatMap fun sketch =>
        columnsOf (tableName entity.label) sketch.statements).Perm
      ((planReferences (d.takenIn keys reserved entity)
          (nodes.flatMap fun node => (d.embeddedIn keys entity node).map (·.target))).flatMap
            (·.columns)
        ++ nodes.flatMap fun node =>
            (d.embeddedIn keys entity node).flatMap fun _ => d.attributeColumns node) := by
  induction nodes generalizing reserved with
  | nil => exact .nil
  | cons node rest ih =>
      have later := ih (fun other mem => unshared other (List.mem_cons_of_mem node mem))
        (d.relationshipSketch keys reserved node).2
      rw [takenIn_relationshipSketch entityIn] at later
      rw [relationshipSketches]
      simp only [List.flatMap_cons]
      rw [columnsOf_relationshipSketch_of_entity distinct entityIn
        (unshared node List.mem_cons_self)]
      obtain none | ⟨how, embedded, keyed⟩ := embeddedIn_cases d keys entity node
      · rw [none] at later ⊢
        exact later
      · rw [embedded, List.flatMap_singleton] at later ⊢
        rw [List.flatMap_singleton, List.map_singleton, List.singleton_append, planReferences,
          if_neg (by simpa using keyed), List.flatMap_cons]
        refine (later.append_left _).trans (List.perm_iff_count.2 fun column => ?_)
        simp only [List.count_append]
        omega

end Entity

/-! ## The columns of a script -/

variable {settings : Settings} {diagram : Diagram} {result : CompileResult}

/-- The columns of a table, phase by phase. -/
theorem columnsOf_statements (read : diagram.classify = .ok d)
    (compiled : compile settings diagram = .ok result) (table : String) :
    columnsOf table result.statements =
      ((d.ofKinds ownedKinds.contains).flatMap fun entity =>
          if tableName entity.label = table then d.attributeColumns entity else [])
        ++ ((d.ofKind .weakEntity).flatMap fun weak =>
              if tableName weak.label = table then
                d.ownerColumns (keysAfter settings diagram d) weak else [])
        ++ ((d.ofKind .associativeEntity).flatMap fun entity =>
              if tableName entity.label = table then d.attributeColumns entity else [])
        ++ ((d.ofKinds (·.isGeneralization)).flatMap fun generalization =>
              columnsOf table (d.generalizationSketch (keysAfter settings diagram d)
                generalization).statements)
        ++ ((d.relationshipSketches (keysAfter settings diagram d) []
              (d.ofKind .relationship)).flatMap fun sketch => columnsOf table sketch.statements)
        ++ ((d.ofKind .associativeEntity).flatMap fun entity =>
              if tableName entity.label = table then
                (d.referencesIn (keysAfter settings diagram d) entity).flatMap (·.columns) else [])
        ++ ((d.ofKind .multivaluedAttribute).flatMap fun item =>
              columnsOf table (d.multivaluedSketch (keysAfter settings diagram d)
                settings.surrogateKeyType item).statements) := by
  have tables : ∀ entity, (d.tableStatement entity).columnsFor table =
      if tableName entity.label = table then d.attributeColumns entity else [] := by
    intro entity
    rw [← map_name_storedColumns]
    rfl
  have strong := columnsOf_strongKeySketch d (keysAfter settings diagram d) table
  have weak := columnsOf_weakKeySketch d (keysAfter settings diagram d) table
  have associative := columnsOf_associativeSketch d (keysAfter settings diagram d) table
  unfold columnsOf at strong weak associative ⊢
  rw [(skims_columnsFor table).flatMap_statements read compiled]
  simp only [tables, strong, weak, associative, flatMap_nothing, List.append_nil]

/-- No entity has a table that is not among theirs. -/
theorem flatMap_ofKinds_eq_nil {accepts : NodeKind → Bool}
    (within : ∀ kind, accepts kind = true → kind.isEntity = true) (foreign : table ∉ d.entityTables)
    (contribution : Construct → List String) :
    ((d.ofKinds accepts).flatMap fun entity =>
      if tableName entity.label = table then contribution entity else []) = [] := by
  rw [List.flatMap_eq_nil_iff]
  intro entity inKinds
  obtain ⟨inNodes, accepted⟩ := mem_ofKinds_iff.1 inKinds
  refine if_neg fun same => foreign ?_
  rw [← same]
  exact List.mem_map_of_mem (mem_ofKinds_iff.2 ⟨inNodes, within _ accepted⟩)

theorem flatMap_ofKind_eq_nil {kind : NodeKind} (isEntity : kind.isEntity = true)
    (foreign : table ∉ d.entityTables) (contribution : Construct → List String) :
    ((d.ofKind kind).flatMap fun entity =>
      if tableName entity.label = table then contribution entity else []) = [] := by
  refine flatMap_ofKinds_eq_nil (fun other same => ?_) foreign contribution
  rw [beq_iff_eq.1 same, isEntity]

theorem columnsOf_generalizationSketch_eq_nil (keys : KeyTable) (foreign : table ∉ d.entityTables)
    (generalization : Construct) :
    columnsOf table (d.generalizationSketch keys generalization).statements = [] := by
  rw [columnsOf_generalizationSketch]
  have none : (d.heirs keys generalization).filter (·.table = table) = [] := by
    rw [List.filter_eq_nil_iff]
    intro subtype heir same
    apply foreign
    rw [← of_decide_eq_true same]
    exact List.mem_map_of_mem (mem_entities_of_mem_heirs heir)
  rw [none]
  rfl

/-- The columns that a relationship gives its junction table, if that is the table. -/
def junctionColumns (d : Classified) (keys : KeyTable) (table : String) (node : Construct) :
    List String :=
  match d.encodingIn keys node with
  | .junction ends =>
      if junctionTable ends = table then
        (planReferences [] ends).flatMap (·.columns) ++ d.attributeColumns node
      else []
  | _ => []

theorem junctionColumns_of_notMem {node : Construct} (apart : table ∉ d.junctionOf keys node) :
    d.junctionColumns keys table node = [] := by
  unfold junctionOf at apart
  unfold junctionColumns
  cases encoded : d.encodingIn keys node with
  | leftOut | embedding => rfl
  | junction ends =>
      rw [encoded] at apart
      exact if_neg fun same => apart (List.mem_singleton.2 same.symm)

/-- A table that is no entity's gets columns from the relationship that it belongs to. -/
theorem columnsOf_relationshipSketch_of_foreign (foreign : table ∉ d.entityTables)
    (reserved : Reservations) (node : Construct) :
    columnsOf table (d.relationshipSketch keys reserved node).1.statements =
      d.junctionColumns keys table node := by
  rw [columnsOf_relationshipSketch, junctionColumns]
  cases encoded : d.encodingIn keys node with
  | leftOut | junction => rfl
  | embedding how =>
      refine if_neg fun same => foreign ?_
      rw [← same]
      exact List.mem_map_of_mem (mem_entities_of_embedding encoded).1

theorem columnsOf_multivaluedSketch_eq_nil {surrogateType : String} {item : Construct}
    (apart : table ∉ d.childOf keys item) :
    columnsOf table (d.multivaluedSketch keys surrogateType item).statements = [] := by
  rw [columnsOf_multivaluedSketch]
  unfold childOf at apart
  cases found : d.childOwner? keys item with
  | none => rfl
  | some owner =>
      rw [found] at apart
      exact if_neg fun same => apart (by simp [same])

/-- What the table of an entity is given, if no other construct has a table of that name. -/
theorem columnsOf_entity_perm (read : diagram.classify = .ok d)
    (compiled : compile settings diagram = .ok result) {entity : Construct}
    (distinct : d.entityTables.Nodup) (entityIn : entity ∈ d.ofKinds (·.isEntity))
    (unshared : tableName entity.label ∉ d.junctionTables (keysAfter settings diagram d))
    (childless : tableName entity.label ∉ d.childTables (keysAfter settings diagram d)) :
    (columnsOf (tableName entity.label) result.statements).Perm
      (d.attributeColumns entity ++ d.carriedColumns (keysAfter settings diagram d) entity
        ++ d.lentColumns (keysAfter settings diagram d) entity
        ++ d.embeddedColumns (keysAfter settings diagram d) entity) := by
  have owned := flatMap_ofKinds_eq distinct entityIn isEntity_of_owned d.attributeColumns
  have weak := flatMap_ofKind_eq distinct entityIn (rfl : NodeKind.weakEntity.isEntity = true)
    (d.ownerColumns (keysAfter settings diagram d))
  have associative := flatMap_ofKind_eq distinct entityIn
    (rfl : NodeKind.associativeEntity.isEntity = true)
  have children : ((d.ofKind .multivaluedAttribute).flatMap fun item =>
      columnsOf (tableName entity.label) (d.multivaluedSketch (keysAfter settings diagram d)
        settings.surrogateKeyType item).statements) = [] := by
    rw [List.flatMap_eq_nil_iff]
    intro item itemIn
    apply columnsOf_multivaluedSketch_eq_nil
    exact fun made => childless (List.mem_flatMap.2 ⟨item, itemIn, made⟩)
  have relationships := columnsOf_relationshipSketches_perm distinct entityIn
    (fun node nodeIn made => unshared (List.mem_flatMap.2 ⟨node, nodeIn, made⟩)) []
  rw [columnsOf_statements read compiled, owned, weak, associative, associative,
    columnsOf_generalizationSketches distinct entityIn, children]
  have kinds : (ownedKinds.contains entity.kind = true ∧ entity.kind ≠ .associativeEntity) ∨
      (ownedKinds.contains entity.kind = false ∧ entity.kind = .associativeEntity) := by
    have isEntity := (mem_ofKinds_iff.1 entityIn).2
    cases kind : entity.kind <;> simp_all [NodeKind.isEntity, ownedKinds]
  refine List.perm_iff_count.2 fun column => ?_
  have counted := relationships.count_eq column
  have nothing : d.takenIn (keysAfter settings diagram d) [] entity =
      d.attributeColumns entity ++ (keysAfter settings diagram d entity).map (·.column) := rfl
  rw [nothing] at counted
  simp only [List.count_append, carriedColumns, lentColumns, embeddedColumns] at counted ⊢
  obtain ⟨isOwned, other⟩ | ⟨notOwned, associated⟩ := kinds
  · rw [if_pos isOwned, if_neg other, if_neg other]
    simp only [List.count_nil]
    omega
  · rw [notOwned, if_pos associated, if_pos associated]
    simp only [Bool.false_eq_true, if_false, List.count_nil]
    omega

/-- A table that is no entity's has its columns from relationships and attributes. -/
theorem columnsOf_foreign (read : diagram.classify = .ok d)
    (compiled : compile settings diagram = .ok result) (foreign : table ∉ d.entityTables) :
    columnsOf table result.statements =
      (d.ofKind .relationship).flatMap (d.junctionColumns (keysAfter settings diagram d) table)
        ++ (d.ofKind .multivaluedAttribute).flatMap fun item =>
            columnsOf table (d.multivaluedSketch (keysAfter settings diagram d)
              settings.surrogateKeyType item).statements := by
  have owned := flatMap_ofKinds_eq_nil isEntity_of_owned foreign d.attributeColumns
  have weak := flatMap_ofKind_eq_nil (rfl : NodeKind.weakEntity.isEntity = true) foreign
    (d.ownerColumns (keysAfter settings diagram d))
  have associative := flatMap_ofKind_eq_nil
    (rfl : NodeKind.associativeEntity.isEntity = true) foreign
  have hierarchies := columnsOf_generalizationSketch_eq_nil (keysAfter settings diagram d) foreign
  have relationships : ((d.relationshipSketches (keysAfter settings diagram d) []
        (d.ofKind .relationship)).flatMap fun sketch => columnsOf table sketch.statements) =
      (d.ofKind .relationship).flatMap
        (d.junctionColumns (keysAfter settings diagram d) table) :=
    flatMap_relationshipSketches (columnsOf_relationshipSketch_of_foreign foreign) [] _
  rw [columnsOf_statements read compiled, owned, weak, associative, associative, relationships]
  simp only [hierarchies, flatMap_nothing, List.nil_append, List.append_nil]

/-- What a junction table is given, if no other construct has a table of that name. -/
theorem columnsOf_junction (read : diagram.classify = .ok d)
    (compiled : compile settings diagram = .ok result) {node : Construct} {ends : List KeyedEnd}
    (nodeIn : node ∈ d.ofKind .relationship)
    (encoded : d.encodingIn (keysAfter settings diagram d) node = .junction ends)
    (others : ∀ other ∈ d.ofKind .relationship, other ≠ node →
      junctionTable ends ∉ d.junctionOf (keysAfter settings diagram d) other)
    (foreign : junctionTable ends ∉ d.entityTables)
    (childless : junctionTable ends ∉ d.childTables (keysAfter settings diagram d)) :
    columnsOf (junctionTable ends) result.statements =
      (planReferences [] ends).flatMap (·.columns) ++ d.attributeColumns node := by
  have once : (d.ofKind .relationship).Nodup := d.nodes_nodup.filter _
  have children : ((d.ofKind .multivaluedAttribute).flatMap fun item =>
      columnsOf (junctionTable ends) (d.multivaluedSketch (keysAfter settings diagram d)
        settings.surrogateKeyType item).statements) = [] := by
    rw [List.flatMap_eq_nil_iff]
    intro item itemIn
    apply columnsOf_multivaluedSketch_eq_nil
    exact fun made => childless (List.mem_flatMap.2 ⟨item, itemIn, made⟩)
  rw [columnsOf_foreign read compiled foreign, children, List.append_nil,
    flatMap_eq_of_only once nodeIn fun other otherIn apart =>
      junctionColumns_of_notMem (others other otherIn apart)]
  rw [junctionColumns, encoded]
  exact if_pos rfl

/-- What a child table is given, if no other construct has a table of that name. -/
theorem columnsOf_child (read : diagram.classify = .ok d)
    (compiled : compile settings diagram = .ok result) {item owner : Construct}
    (itemIn : item ∈ d.ofKind .multivaluedAttribute)
    (owned : d.childOwner? (keysAfter settings diagram d) item = some owner)
    (others : ∀ other ∈ d.ofKind .multivaluedAttribute, other ≠ item →
      childTable item owner ∉ d.childOf (keysAfter settings diagram d) other)
    (foreign : childTable item owner ∉ d.entityTables)
    (unshared : childTable item owner ∉ d.junctionTables (keysAfter settings diagram d)) :
    columnsOf (childTable item owner) result.statements =
      childColumns item (keysAfter settings diagram d owner) := by
  have once : (d.ofKind .multivaluedAttribute).Nodup := d.nodes_nodup.filter _
  have junctions : (d.ofKind .relationship).flatMap (d.junctionColumns
      (keysAfter settings diagram d) (childTable item owner)) = [] := by
    rw [List.flatMap_eq_nil_iff]
    intro node nodeIn
    apply junctionColumns_of_notMem
    exact fun made => unshared (List.mem_flatMap.2 ⟨node, nodeIn, made⟩)
  rw [columnsOf_foreign read compiled foreign, junctions, List.nil_append,
    flatMap_eq_of_only once itemIn fun other otherIn apart =>
      columnsOf_multivaluedSketch_eq_nil (others other otherIn apart)]
  rw [columnsOf_multivaluedSketch, owned]
  exact if_pos rfl

end Classified

end EntitySchema
