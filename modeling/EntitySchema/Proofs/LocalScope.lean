/-
# EntitySchema.Proofs.LocalScope -- tables and columns are there before they are used

A statement alters or guards one table, and a key is over columns of its own table.
Both must be there when the statement is reached: the table created, and the
columns given to it by its creation or by an added column.

`Scoped` says so of a list of parts that follows other parts: each finds what it
needs in those and in the ones before it.  What has been found stays found
(`Scoped.mono`), so the sketches of a run may be looked at one by one, each after
the tables of the entities (`scoped_of_mem_sketches`).  Nothing is asked of the keys
themselves: every construct adds the very columns that it then makes a key of.
-/
import EntitySchema.Proofs.EmissionOrder
import EntitySchema.Proofs.Triggers

namespace EntitySchema

set_option autoImplicit false

/-! ## What a statement needs -/

/-- The table that a statement alters or guards. -/
def Statement.altered? : Statement → Option String
  | .addColumn table _ | .addPrimaryKey table _ _ => some table
  | .addForeignKey key => some key.table
  | .createTrigger trigger => some trigger.table
  | .createTable _ _ | .createView _ _ => none

/-- The columns of its own table that a key is made of. -/
def Statement.ownColumns : Statement → List String
  | .addPrimaryKey _ _ columns => columns
  | .addForeignKey key => key.columns
  | _ => []

/-- The table that a statement alters or guards is created before it and has been
given the columns that the statement makes a key of. -/
structure Statement.LocallyDefined (before : List Statement) (statement : Statement) : Prop where
  created : ∀ table ∈ statement.altered?, table ∈ before.filterMap (·.created?)
  columns : ∀ table ∈ statement.altered?, ∀ column ∈ statement.ownColumns,
    column ∈ before.flatMap (·.columnsFor table)

namespace Part

def altered? : Part → Option String
  | .plain statement => statement.altered?
  | .reference _ _ key => some key.table
  | .trigger plan => some plan.table

def ownColumns : Part → List String
  | .plain statement => statement.ownColumns
  | .reference _ _ key => key.columns
  | .trigger _ => []

theorem Fits.altered?_eq {part : Part} {statement : Statement} (fits : part.Fits statement) :
    statement.altered? = part.altered? ∧ statement.ownColumns = part.ownColumns := by
  cases part with
  | plain | reference =>
      obtain rfl := Option.some.inj fits
      exact ⟨rfl, rfl⟩
  | trigger plan =>
      obtain ⟨trigger, rfl, _, sameTable⟩ := fits
      exact ⟨congrArg some sameTable, rfl⟩

end Part

def Creates (parts : List Part) (table : String) : Prop :=
  ∃ columns, Part.plain (.createTable table columns) ∈ parts

/-- The parts create the table that a part alters or guards and give it the columns
that the part makes a key of. -/
structure Part.Defined (known : List Part) (part : Part) : Prop where
  created : ∀ table ∈ part.altered?, Creates known table
  columns : ∀ table ∈ part.altered?, ∀ column ∈ part.ownColumns,
    ∃ sqlType, Introduces known table column sqlType

section Defined

variable {known more : List Part} {part : Part} {table : String}

theorem Creates.mono (created : Creates known table) (within : known ⊆ more) :
    Creates more table := by
  obtain ⟨columns, mem⟩ := created
  exact ⟨columns, within mem⟩

theorem Creates.append (created : Creates known table) : Creates (known ++ more) table :=
  created.mono (List.subset_append_left known more)

theorem Part.Defined.mono (defined : part.Defined known) (within : known ⊆ more) :
    part.Defined more where
  created table altered :=
    (defined.created table altered).mono within
  columns table altered column mem := by
    obtain ⟨sqlType, introduces⟩ := defined.columns table altered column mem
    exact ⟨sqlType, introduces.mono within⟩

theorem Part.Defined.append (defined : part.Defined known) : part.Defined (known ++ more) :=
  defined.mono (List.subset_append_left known more)

/-- A part that alters no table needs nothing. -/
theorem Part.defined_of_none (nothing : part.altered? = none) : part.Defined known where
  created := by simp [nothing]
  columns := by simp [nothing]

theorem Part.defined_of_some (altered : part.altered? = some table) (created : Creates known table)
    (columns : ∀ column ∈ part.ownColumns, ∃ sqlType, Introduces known table column sqlType) :
    part.Defined known := by
  constructor
  · rintro other same
    obtain rfl := Option.some.inj (altered.symm.trans same)
    exact created
  · rintro other same
    obtain rfl := Option.some.inj (altered.symm.trans same)
    exact columns

/-- Where the parts fit statements, what is defined by them is defined by those. -/
theorem Part.Defined.locallyDefined {before : List Statement} {statement : Statement}
    (defined : part.Defined known) (fits : List.Forall₂ Part.Fits known before)
    (here : part.Fits statement) : statement.LocallyDefined before := by
  obtain ⟨sameTable, sameColumns⟩ := here.altered?_eq
  constructor
  · intro table altered
    obtain ⟨columns, mem⟩ := defined.created table (sameTable ▸ altered)
    exact List.mem_filterMap.2 ⟨_, mem_of_plain fits mem, rfl⟩
  · intro table altered column mem
    obtain ⟨sqlType, maker, among, declares⟩ :=
      defined.columns table (sameTable ▸ altered) column (sameColumns ▸ mem)
    exact List.mem_flatMap.2 ⟨maker, mem_of_plain fits among, declares.mem_columnsFor⟩

end Defined

/-! ## Parts one after the other -/

/-- Each part is defined by the known parts and those before it. -/
def Scoped (known : List Part) : List Part → Prop
  | [] => True
  | part :: rest => part.Defined known ∧ Scoped (known ++ [part]) rest

section Scoped

variable {known more : List Part}

theorem Scoped.mono {parts : List Part} (inOrder : Scoped known parts) (within : known ⊆ more) :
    Scoped more parts := by
  induction parts generalizing known more with
  | nil => trivial
  | cons part rest ih =>
      obtain ⟨here, there⟩ := inOrder
      refine ⟨here.mono within, ih there ?_⟩
      exact List.append_subset.2
        ⟨List.Subset.trans within (List.subset_append_left _ _), List.subset_append_right _ _⟩

theorem scoped_append {first second : List Part} :
    Scoped known (first ++ second) ↔ Scoped known first ∧ Scoped (known ++ first) second := by
  induction first generalizing known with
  | nil => simp [Scoped]
  | cons part rest ih => simp [Scoped, ih, and_assoc]

/-- Parts that need only what is known. -/
theorem scoped_of_defined {parts : List Part} (each : ∀ part ∈ parts, part.Defined known) :
    Scoped known parts := by
  induction parts generalizing known with
  | nil => trivial
  | cons part rest ih =>
      refine ⟨each part List.mem_cons_self, ih fun other mem => ?_⟩
      exact (each other (List.mem_cons_of_mem part mem)).append

/-- Groups of parts, none of which needs another. -/
theorem scoped_flatMap {α : Type} {items : List α} {contribution : α → List Part}
    (each : ∀ item ∈ items, Scoped known (contribution item)) :
    Scoped known (items.flatMap contribution) := by
  induction items generalizing known with
  | nil => trivial
  | cons item rest ih =>
      rw [List.flatMap_cons]
      refine scoped_append.2 ⟨each item List.mem_cons_self, ih fun other mem => ?_⟩
      exact (each other (List.mem_cons_of_mem item mem)).mono (List.subset_append_left _ _)

/-- Columns that are added to a known table, and what is then made of them. -/
theorem scoped_of_columns {columns rest : List Part}
    (added : ∀ part ∈ columns, part.Defined known)
    (closed : ∀ part ∈ rest, part.Defined (known ++ columns)) : Scoped known (columns ++ rest) :=
  scoped_append.2 ⟨scoped_of_defined added, scoped_of_defined closed⟩

theorem Scoped.defined_of_cut {before after : List Part} {part : Part}
    (inOrder : Scoped known (before ++ part :: after)) : part.Defined (known ++ before) :=
  (scoped_append.1 inOrder).2.1

end Scoped

namespace Classified

variable {settings : Settings} {d : Classified} {keys : KeyTable} {known : List Part}

/-! ## Keys that constructs write -/

/-- The table of an entity is known. -/
def Tabled (d : Classified) (known : List Part) (entity : Construct) : Prop :=
  (d.tableSketch entity).parts ⊆ known

theorem Tabled.creates {entity : Construct} (tabled : d.Tabled known entity) :
    Creates known (tableName entity.label) :=
  ⟨d.storedColumns entity, tabled (List.mem_singleton_self _)⟩

theorem introduces_of_addColumn {table : String} (column : Column) {parts : List Part}
    (mem : .plain (.addColumn table column) ∈ parts) :
    ∃ sqlType, Introduces (known ++ parts) table column.name sqlType :=
  ⟨column.sqlType, _, List.mem_append_right known mem, rfl, rfl, rfl⟩

theorem defined_addColumn {table : String} (created : Creates known table) (column : Column) :
    (Part.plain (.addColumn table column)).Defined known :=
  Part.defined_of_some rfl created (by simp [Part.ownColumns, Statement.ownColumns])

/-- A table that is created, and the keys that are then made of its columns. -/
theorem scoped_of_createTable {table : String} {columns : List Column} {rest : List Part}
    (closed : ∀ more, Creates more table →
      (∀ column ∈ columns, ∃ sqlType, Introduces more table column.name sqlType) →
        ∀ part ∈ rest, part.Defined more) :
    Scoped known (.plain (.createTable table columns) :: rest) := by
  have made : Part.plain (.createTable table columns) ∈
      known ++ [.plain (.createTable table columns)] :=
    List.mem_append_right known (List.mem_singleton_self _)
  refine ⟨Part.defined_of_none rfl, scoped_of_defined (closed _ ⟨columns, made⟩ ?_)⟩
  exact fun column mem => ⟨column.sqlType, _, made, rfl, column, mem, rfl, rfl⟩

/-- The columns of a key that a construct adds before it makes a foreign key and a
primary key of them; the primary key may have other columns in front. -/
theorem scoped_of_taken (front : List String) {table : String} {taken : List Key}
    {site : Site} {target : Construct} {key : ForeignKey} (created : Creates known table)
    (inTable : ∀ column ∈ front, ∃ sqlType, Introduces known table column sqlType)
    (keyTable : key.table = table) (keyColumns : key.columns = taken.map (·.column)) :
    Scoped known
      ((addKeyColumns table taken
          ++ [.addForeignKey key, primaryKey table (front ++ taken.map (·.column))]).map
        (.of site target)) := by
  have own : ∀ column ∈ taken.map (·.column), ∃ sqlType,
      Introduces (known ++ (addKeyColumns table taken).map (.of site target)) table column
        sqlType := by
    intro column mem
    obtain ⟨part, inTaken, rfl⟩ := List.mem_map.1 mem
    exact introduces_of_addColumn (keyColumn part.column part.sqlType)
      (List.mem_map.2 ⟨_, List.mem_map_of_mem inTaken, rfl⟩)
  rw [List.map_append]
  refine scoped_of_columns ?_ ?_
  · intro part mem
    obtain ⟨statement, added, rfl⟩ := List.mem_map.1 mem
    obtain ⟨made, _, rfl⟩ := List.mem_map.1 added
    exact defined_addColumn created _
  · intro part mem
    simp only [List.map_cons, List.map_nil, List.mem_cons, List.not_mem_nil, or_false] at mem
    rcases mem with rfl | rfl
    · refine Part.defined_of_some (congrArg some keyTable) created.append ?_
      simpa [Part.of, Part.ownColumns, keyColumns] using own
    · refine Part.defined_of_some rfl created.append fun column mem => ?_
      rcases List.mem_append.1 mem with inFront | inTaken
      · obtain ⟨sqlType, introduces⟩ := inTable column inFront
        exact ⟨sqlType, introduces.mono (List.subset_append_left _ _)⟩
      · exact own column inTaken

/-- The primary key of a root is made of columns that came with its table. -/
theorem scoped_strongKeySketch (settled : d.Settled keys) {entity : Construct}
    (inKind : entity ∈ d.ofKind .strongEntity) (tabled : d.Tabled known entity) :
    Scoped known (d.strongKeySketch keys entity).parts := by
  obtain ⟨inNodes, kind⟩ := mem_ofKind_iff.1 inKind
  unfold strongKeySketch
  split
  · trivial
  split
  · trivial
  rename_i single _
  have top : d.superclassOf? entity = none := by
    rw [superclassOf?, Option.not_isSome_iff_eq_none.1 single, Option.bind_none]
  refine scoped_of_defined fun part mem => ?_
  obtain rfl := List.mem_singleton.1 mem
  refine Part.defined_of_some rfl tabled.creates fun column mem => ?_
  obtain ⟨key, inKeys, rfl⟩ := List.mem_map.1 mem
  exact ⟨_, (settled.introduces_strong inNodes kind top inKeys).mono tabled⟩

/-- A weak entity gets its columns, then its foreign key, then its primary key: each finds its
columns in the table or right before it. -/
theorem scoped_weakKeySketch {weak : Construct} (tabled : d.Tabled known weak) :
    Scoped known (d.weakKeySketch keys weak).parts := by
  unfold weakKeySketch
  split
  · trivial
  split
  · trivial
  rename_i partialKey declared _ _ _
  refine scoped_of_taken [partialKey.column] tabled.creates ?_ rfl rfl
  intro column mem
  obtain rfl := List.mem_singleton.1 mem
  have introduces : Introduces (d.tableSketch weak).parts (tableName weak.label) partialKey.column
      partialKey.sqlType := introduces_of_mem_keysOfKind rfl (List.mem_of_mem_head? declared)
  exact ⟨_, introduces.mono tabled⟩

/-! ## Keys made of references -/

/-- A column of a reference has a type if there are as many columns as key columns. -/
theorem exists_mem_typedColumns (reference : Reference)
    (aligned : reference.columns.length = reference.target.keys.length) {column : String}
    (mem : column ∈ reference.columns) : ∃ sqlType, (column, sqlType) ∈ reference.typedColumns := by
  have long : reference.columns.length ≤ reference.sqlTypes.length := by
    simp [Reference.sqlTypes, aligned]
  rw [← List.map_fst_zip long] at mem
  obtain ⟨⟨_, sqlType⟩, typed, rfl⟩ := List.mem_map.1 mem
  exact ⟨sqlType, typed⟩

/-- The keys of a table that is nothing but references are made of their columns. -/
theorem defined_of_mem_junctionParts {site : Site} {table : String} {taken : List String}
    {ends : List KeyedEnd} {references : List Reference} {part : Part}
    (planned : ∀ reference ∈ references, reference ∈ planReferences taken ends)
    (created : Creates known table)
    (columns : ∀ column ∈ referenceColumns references,
      ∃ sqlType, Introduces known table column.name sqlType)
    (mem : part ∈ junctionParts site table references) : part.Defined known := by
  have each : ∀ reference ∈ references, ∀ column ∈ reference.columns,
      ∃ sqlType, Introduces known table column sqlType := by
    intro reference inReferences column inColumns
    obtain ⟨sqlType, typed⟩ :=
      exists_mem_typedColumns reference
        (length_columns_of_planned (planned reference inReferences)) inColumns
    exact columns (keyColumn column sqlType)
      (List.mem_flatMap.2 ⟨reference, inReferences, List.mem_map.2 ⟨_, typed, rfl⟩⟩)
  obtain inKeys | inPrimary := List.mem_append.1 mem
  · obtain ⟨position, inside, rfl⟩ := List.mem_mapIdx.1 inKeys
    exact Part.defined_of_some rfl created (each _ (List.getElem_mem inside))
  · obtain rfl := List.mem_singleton.1 inPrimary
    refine Part.defined_of_some rfl created fun column mem => ?_
    obtain ⟨reference, inReferences, inColumns⟩ := List.mem_flatMap.1 mem
    exact each reference inReferences column inColumns

theorem scoped_junctionSketch (node : Construct) (ends : List KeyedEnd) :
    Scoped known (d.junctionSketch node ends).parts := by
  refine scoped_of_createTable fun more created columns part mem => ?_
  refine defined_of_mem_junctionParts (fun _ planned => planned) created ?_ mem
  exact fun column inColumns => columns column (List.mem_append_left _ inColumns)

/-- The columns of an associative entity stand before the foreign keys and the primary key that are
made of them. -/
theorem scoped_associativeSketch {entity : Construct} (tabled : d.Tabled known entity) :
    Scoped known (d.associativeSketch keys entity).parts := by
  unfold associativeSketch
  dsimp only
  split
  · trivial
  refine scoped_of_columns ?_ ?_
  · intro part mem
    obtain ⟨column, _, rfl⟩ := List.mem_map.1 mem
    exact defined_addColumn tabled.creates column
  · intro part mem
    refine defined_of_mem_junctionParts (fun _ => mem_referencesIn) tabled.creates.append ?_ mem
    exact fun column inColumns =>
      introduces_of_addColumn column (List.mem_map.2 ⟨column, inColumns, rfl⟩)

/-! ## Keys and triggers -/

/-- A trigger of a sketch guards a known table. -/
theorem MakesTrigger.defined {phase : Phase} {sketch : Sketch} {part : Part}
    (makes : d.MakesTrigger keys phase sketch part)
    (tabled : ∀ entity ∈ d.nodes, entity.kind.isEntity = true → d.Tabled known entity) :
    part.Defined known := by
  obtain ⟨plan, rfl, guards⟩ := makes
  obtain ⟨entity, inNodes, isEntity, table⟩ := guards.table_spec
  refine Part.defined_of_some (congrArg some table) (tabled entity inNodes isEntity).creates ?_
  simp [Part.ownColumns]

/-- The triggers of a hierarchy read columns of its strong subtypes, and stand after the keys of all
of them. -/
theorem scoped_generalizationSketch {generalization : Construct}
    (inKinds : generalization ∈ d.ofKinds (·.isGeneralization))
    (tabled : ∀ entity ∈ d.nodes, entity.kind.isEntity = true → d.Tabled known entity) :
    Scoped known (d.generalizationSketch keys generalization).parts := by
  obtain none | ⟨above, _, _, _, parts⟩ := generalizationSketch_cases d keys generalization
  · rw [none]
    trivial
  have triggers : ∀ plan, .trigger plan ∈ d.hierarchyParts generalization (keys.endAt above) →
      (Part.trigger plan).Defined known := by
    intro plan mem
    have inSketch : .trigger plan ∈ (d.generalizationSketch keys generalization).parts :=
      parts ▸ mem
    exact (triggers_of_generalizationSketch inKinds inSketch trivial).defined tabled
  rw [parts, hierarchyParts]
  refine scoped_append.2
    ⟨scoped_flatMap fun subtype heir => ?_, scoped_of_defined fun part mem => ?_⟩
  · obtain ⟨inNodes, strong⟩ := strongSubtype_spec heir
    have created := (tabled _ inNodes (by simp [strong, NodeKind.isEntity])).creates
    exact scoped_of_taken [] created (by simp) rfl rfl
  · obtain ⟨plan, _, rfl⟩ := List.mem_map.1 mem
    exact (triggers plan (List.mem_append_right _ mem)).append

/-- The holder has its columns when the foreign key comes.  What the triggers read of the target is
known from an earlier phase, which is left to the caller. -/
theorem scoped_embeddingSketch {node : Construct} {how : Embedding} {taken : List String}
    (created : Creates known how.holder.table)
    (guarded : ∀ plan,
      .trigger plan ∈ (d.embeddingSketch node how (embeddedReference taken how)).parts →
        (Part.trigger plan).Defined known) :
    Scoped known (d.embeddingSketch node how (embeddedReference taken how)).parts := by
  refine scoped_append.2 ⟨?_, scoped_of_defined fun part mem => ?_⟩
  · rw [embeddingStatements, List.map_append]
    refine scoped_of_columns ?_ ?_
    · intro part mem
      obtain ⟨statement, added, rfl⟩ := List.mem_map.1 mem
      obtain own | stored := List.mem_append.1 added
      · obtain ⟨column, _, rfl⟩ := List.mem_map.1 own
        exact defined_addColumn created _
      · obtain ⟨column, _, rfl⟩ := List.mem_map.1 stored
        exact defined_addColumn created column
    · intro part mem
      obtain rfl := List.mem_singleton.1 mem
      refine Part.defined_of_some rfl created.append fun column mem => ?_
      obtain ⟨sqlType, typed⟩ := exists_mem_typedColumns (embeddedReference taken how)
        (length_foreignColumns _ _) mem
      exact introduces_of_addColumn ⟨column, sqlType, how.notNull⟩
        (List.mem_map_of_mem (List.mem_append_left _ (List.mem_map.2 ⟨_, typed, rfl⟩)))
  · obtain ⟨plan, _, rfl⟩ := List.mem_map.1 mem
    exact (guarded plan (List.mem_append_right _ mem)).append

/-- A junction table is created by the sketch itself, and an embedding alters a table of an earlier
phase. -/
theorem scoped_relationshipSketch {reserved : Reservations} {node : Construct}
    (inKind : node ∈ d.ofKind .relationship)
    (tabled : ∀ entity ∈ d.nodes, entity.kind.isEntity = true → d.Tabled known entity) :
    Scoped known (d.relationshipSketch keys reserved node).1.parts := by
  obtain none | ⟨_, _, same⟩ | ⟨how, holderIn, _, _, same⟩ :=
    relationshipSketch_cases d keys reserved node
  · rw [none]
    trivial
  · rw [same]
    exact scoped_junctionSketch node _
  · have placed := places_of_mem_relationshipEnds holderIn
    have guarded : ∀ plan, .trigger plan ∈ (d.relationshipSketch keys reserved node).1.parts →
        (Part.trigger plan).Defined known := by
      intro plan mem
      exact (triggers_of_relationshipSketch inKind mem trivial).defined tabled
    rw [same] at guarded ⊢
    exact scoped_embeddingSketch (tabled _ placed.inNodes placed.isEntity).creates guarded

/-- A child table is created before anything is added to it, so it needs nothing that was known. -/
theorem scoped_multivaluedSketch (surrogateType : String) (item : Construct) :
    Scoped known (d.multivaluedSketch keys surrogateType item).parts := by
  unfold multivaluedSketch
  split
  · trivial
  split
  · trivial
  rename_i owner _ _
  rw [childTableStatements, List.map_cons]
  refine scoped_of_createTable fun more created columns part mem => ?_
  simp only [List.map_cons, List.map_nil, List.mem_cons, List.not_mem_nil, or_false] at mem
  rcases mem with rfl | rfl
  · refine Part.defined_of_some rfl created fun column own => ?_
    obtain rfl := List.mem_singleton.1 own
    exact columns (keyColumn _ (some surrogateType)) (by simp)
  · refine Part.defined_of_some rfl created fun column own => ?_
    obtain ⟨key, inKeys, rfl⟩ := List.mem_map.1 own
    exact columns (keyColumn key.column key.sqlType)
      (List.mem_append_left _ (List.mem_map.2 ⟨key, inKeys, rfl⟩))

/-! ## Outlines -/

variable {phase : Phase}

/-- One case for each phase.  A sketch alters and guards tables that it creates itself or that an
earlier phase has created; the latter is what the hypothesis on earlier phases gives. -/
theorem scoped_of_mem_sketches (settled : d.Settled keys) {sketch : Sketch}
    (inPhase : sketch ∈ phase.sketches settings d keys)
    (earlier : ∀ before : Phase, Phase.all.idxOf before < Phase.all.idxOf phase →
      ∀ other ∈ before.sketches settings d keys, other.parts ⊆ known) :
    Scoped known sketch.parts := by
  have tabled : ∀ entity ∈ d.nodes, entity.kind.isEntity = true →
      Phase.all.idxOf (if entity.kind = .associativeEntity then .associativeEntities else .tables)
        < Phase.all.idxOf phase → d.Tabled known entity :=
    fun entity inNodes isEntity ahead =>
      earlier _ ahead _ (tableSketch_mem_sketches inNodes isEntity)
  cases phase with
  | tables | associativeEntities =>
      obtain ⟨entity, _, rfl⟩ := List.mem_map.1 inPhase
      refine scoped_of_defined fun part mem => ?_
      obtain rfl := List.mem_singleton.1 mem
      exact Part.defined_of_none rfl
  | primaryKeys =>
      obtain ⟨entity, inKind, rfl⟩ := List.mem_map.1 inPhase
      obtain ⟨inNodes, kind⟩ := mem_ofKind_iff.1 inKind
      exact scoped_strongKeySketch settled inKind
        (tabled entity inNodes (by rw [kind]; rfl) (by rw [kind]; decide))
  | partialKeys =>
      obtain ⟨weak, inKind, rfl⟩ := List.mem_map.1 inPhase
      obtain ⟨inNodes, kind⟩ := mem_ofKind_iff.1 inKind
      exact scoped_weakKeySketch
        (tabled weak inNodes (by rw [kind]; rfl) (by rw [kind]; decide))
  | generalizations =>
      obtain ⟨generalization, inKinds, rfl⟩ := List.mem_map.1 inPhase
      refine scoped_generalizationSketch inKinds fun entity inNodes isEntity => ?_
      exact tabled entity inNodes isEntity (by split <;> decide)
  | relationships =>
      have all : ∀ entity ∈ d.nodes, entity.kind.isEntity = true → d.Tabled known entity :=
        fun entity inNodes isEntity => tabled entity inNodes isEntity (by split <;> decide)
      obtain encoded | associative := List.mem_append.1 inPhase
      · obtain ⟨node, inKind, before, rfl⟩ := mem_relationshipSketches encoded
        exact scoped_relationshipSketch inKind all
      · obtain ⟨entity, inKind, rfl⟩ := List.mem_map.1 associative
        obtain ⟨inNodes, kind⟩ := mem_ofKind_iff.1 inKind
        exact scoped_associativeSketch (all entity inNodes (by rw [kind]; rfl))
  | multivaluedAttributes =>
      obtain ⟨item, _, rfl⟩ := List.mem_map.1 inPhase
      exact scoped_multivaluedSketch _ item
  | derivedAttributes =>
      obtain none | ⟨name, query, view⟩ := parts_of_mem_viewSketches inPhase
      · rw [none]
        trivial
      · rw [view]
        exact ⟨Part.defined_of_none rfl, trivial⟩

/-- A part of an outline is defined by the parts before it. -/
theorem defined_of_outline (settled : d.Settled keys) {before after : List Part} {part : Part}
    (cut : outline settings d keys = before ++ part :: after) : part.Defined before := by
  obtain ⟨phase, front, sketch, head, stands⟩ := exists_stands cut
  obtain ⟨tail, inSketch⟩ := stands.inSketch
  have inOrder : Scoped before (head ++ part :: tail) :=
    inSketch ▸ scoped_of_mem_sketches settled stands.mem_sketches stands.phases_subset
  exact inOrder.defined_of_cut.mono
    (List.append_subset.2 ⟨List.Subset.refl before, stands.head_subset⟩)

end Classified

/-! ## Scripts -/

open Classified

/-- In a script, the table that a statement alters or guards is created before the
statement, and the columns of its own keys are given to the table before it. -/
theorem locally_defined {settings : Settings} {diagram : Diagram} {result : CompileResult}
    (compiled : compile settings diagram = .ok result) {before after : List Statement}
    {statement : Statement} (cut : result.statements = before ++ statement :: after) :
    statement.LocallyDefined before := by
  obtain ⟨d, read⟩ := exists_classified compiled
  obtain ⟨earlier, part, later, outlineCut, fits, here⟩ :=
    exists_cut (statements_fit_outline read compiled) cut
  exact (defined_of_outline (settled_keysAfter settings read) outlineCut).locallyDefined fits here

/-- The foreign keys that are late for what they refer to find their own tables and
columns in time. -/
theorem unordered_locally_defined :
    ∃ result, compile {} unordered = .ok result ∧ ∀ key ∈ unorderedKeys, ∃ before after,
      result.statements = before ++ .addForeignKey key :: after ∧
        (Statement.addForeignKey key).LocallyDefined before := by
  have checked : compilesTo {} unordered (fun statements => decide
      (∀ key ∈ unorderedKeys, .addForeignKey key ∈ statements)) = true := by decide +kernel
  obtain ⟨result, compiled, holds⟩ := exists_of_compilesTo checked
  refine ⟨result, compiled, fun key mem => ?_⟩
  obtain ⟨before, after, cut⟩ := List.append_of_mem (of_decide_eq_true holds key mem)
  exact ⟨before, after, cut, locally_defined compiled cut⟩

end EntitySchema
