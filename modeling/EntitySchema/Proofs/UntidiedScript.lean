/-
# EntitySchema.Proofs.UntidiedScript -- scripts that tidying does not change

If the texts of the author are harmless and no label is blank (`HarmlessTexts`), tidying
changes no generated statement: a script is its statements as they are rendered, with a blank
line between two of them (`ddl_untidied`).

The statements of every phase are made from labels, types and keys that are well named, so
they are well named too (`wellNamed_of_mem_sketch`), and so are the plans of triggers
(`Guards.wellNamed`); and what is well named is rendered firm.
-/
import EntitySchema.Proofs.Constructs
import EntitySchema.Proofs.Wholeness
import EntitySchema.Proofs.WellNamedKeys

namespace EntitySchema

open EntitySchema.Text EntitySchema.Ddl

set_option autoImplicit false

namespace Part

/-- The statement that the part stands for, if any, is well named. -/
def WellNamed (part : Part) : Prop :=
  ∀ statement, part.statement? = some statement → statement.WellNamed

variable {part : Part}

theorem wellNamed_plain {statement : Statement} (named : statement.WellNamed) :
    (plain statement).WellNamed := by
  rintro _ ⟨⟩
  exact named

theorem wellNamed_of_mem_map_of {site : Site} {target : Construct} {statements : List Statement}
    (named : ∀ statement ∈ statements, statement.WellNamed)
    (mem : part ∈ statements.map (Part.of site target)) : part.WellNamed := by
  obtain ⟨statement, among, rfl⟩ := List.mem_map.1 mem
  intro other same
  rw [statement?_of] at same
  exact Option.some.inj same ▸ named statement among

theorem wellNamed_of_mem_triggers {plans : List TriggerPlan}
    (mem : part ∈ plans.map Part.trigger) : part.WellNamed := by
  obtain ⟨plan, _, rfl⟩ := List.mem_map.1 mem
  intro statement same
  simp [Part.statement?] at same

end Part

/-! ## Statements that steps share -/

section Statements

variable {table : String} {keys : List Key} {references : List Reference}

theorem harmless_primaryKeyName (harmless : Harmless table) : Harmless ("PK_" ++ table) :=
  .append (by decide) harmless

theorem harmless_firstKeyName (harmless : Harmless table) : Harmless ("FK_" ++ table) :=
  .append (by decide) harmless

theorem harmless_foreignKeyName (harmless : Harmless table) (position : Nat) :
    Harmless (foreignKeyName table position) := by
  unfold foreignKeyName
  split
  · exact harmless_firstKeyName harmless
  · exact .append (.append (.append (by decide) (.toString_int _)) (by decide)) harmless

theorem harmless_joined {other : String} (harmless : Harmless table) (behind : Harmless other) :
    Harmless (table ++ "_" ++ other) :=
  (harmless.append (by decide)).append behind

theorem wellNamed_primaryKey {columns : List String} (harmless : Harmless table)
    (named : ∀ name ∈ columns, IsName name) : (primaryKey table columns).WellNamed :=
  ⟨harmless, harmless_primaryKeyName harmless, named⟩

theorem wellNamed_of_mem_addKeyColumns {statement : Statement} (harmless : Harmless table)
    (named : ∀ key ∈ keys, key.WellNamed) (mem : statement ∈ addKeyColumns table keys) :
    statement.WellNamed := by
  obtain ⟨key, inKeys, rfl⟩ := List.mem_map.1 mem
  exact ⟨harmless, (named key inKeys).column, (named key inKeys).sqlType⟩

/-- What a table gets for a key that it takes over: its columns, the foreign key they make and
a primary key. -/
theorem wellNamed_of_mem_tableKeys {statement : Statement} {key : ForeignKey}
    {columns : List String} (harmless : Harmless table) (inherited : ∀ key ∈ keys, key.WellNamed)
    (foreign : key.WellNamed) (named : ∀ name ∈ columns, IsName name)
    (mem : statement ∈ addKeyColumns table keys ++ [.addForeignKey key, primaryKey table columns]) :
    statement.WellNamed := by
  obtain inColumns | inKeys := List.mem_append.1 mem
  · exact wellNamed_of_mem_addKeyColumns harmless inherited inColumns
  simp only [List.mem_cons, List.not_mem_nil, or_false] at inKeys
  rcases inKeys with rfl | rfl
  · exact foreign
  · exact wellNamed_primaryKey harmless named

theorem wellNamed_of_mem_referenceColumns {column : Column}
    (named : ∀ reference ∈ references, reference.WellNamed)
    (mem : column ∈ referenceColumns references) : column.WellNamed := by
  obtain ⟨reference, among, made⟩ := List.mem_flatMap.1 mem
  obtain ⟨_, typed, rfl⟩ := List.mem_map.1 made
  obtain ⟨isName, harmless⟩ := (named reference among).typed typed
  exact ⟨isName, harmless⟩

/-- A table that is nothing but references has names for its columns and constraints, all made of
names that it was given. -/
theorem wellNamed_of_mem_junctionParts {site : Site} {part : Part} (harmless : Harmless table)
    (named : ∀ reference ∈ references, reference.WellNamed)
    (mem : part ∈ Classified.junctionParts site table references) : part.WellNamed := by
  obtain inKeys | inPrimary := List.mem_append.1 mem
  · obtain ⟨position, inside, rfl⟩ := List.mem_mapIdx.1 inKeys
    have reference := named _ (List.getElem_mem inside)
    rintro _ ⟨⟩
    exact
      { table := harmless
        constraint := harmless_foreignKeyName harmless position
        columns := reference.columns
        refTable := reference.target.table.toHarmless
        refColumns := reference.target.columns
        onDelete := by simp }
  · obtain rfl := List.mem_singleton.1 inPrimary
    refine Part.wellNamed_plain (wellNamed_primaryKey harmless fun name inColumns => ?_)
    obtain ⟨reference, among, inReference⟩ := List.mem_flatMap.1 inColumns
    exact (named reference among).columns name inReference

end Statements

namespace Classified

variable {d : Classified} {keys : KeyTable} {part : Part}

/-! ## Sketches -/

section Sketches

variable (named : d.WellNamed) (keyed : ∀ entity ∈ d.nodes, ∀ key ∈ keys entity, key.WellNamed)

theorem WellNamed.of_mem_storedColumns (named : d.WellNamed) {node : Construct} {column : Column}
    (mem : column ∈ d.storedColumns node) : column.WellNamed := by
  obtain ⟨neighbour, near, rfl⟩ := List.mem_map.1 mem
  have itemIn := mem_nodes_of_mem_neighboursOf near
  exact ⟨named.isName_column itemIn, named.types _ itemIn⟩

theorem WellNamed.of_mem_strongSubtypes (named : d.WellNamed) {generalization : Construct}
    {subtype : KeyedEnd} (heir : subtype ∈ d.strongSubtypes generalization) : subtype.WellNamed := by
  obtain ⟨inNodes, _⟩ := strongSubtype_spec heir
  obtain ⟨neighbour, _, rfl⟩ := List.mem_map.1 heir
  refine ⟨named.isName_table inNodes, fun key mem => ?_⟩
  refine wellNamed_of_mem_map_carriedTo (fun root declared => ?_)
    (named.isName_table inNodes).toHarmless mem
  unfold superclassKeys at declared
  split at declared
  · rename_i found
    obtain ⟨near, _⟩ := superclassEnd_spec found
    exact named.of_mem_keysOfKind (rootOf_mem_nodes (mem_nodes_of_mem_neighbours near)) declared
  · exact absurd declared List.not_mem_nil

theorem wellNamed_embeddedReference {how : Embedding} (target : how.target.WellNamed)
    (taken : List String) : (embeddedReference taken how).WellNamed :=
  ⟨target, isName_foreignColumns target.keys taken⟩

include named keyed

theorem Placed.wellNamed {place : KeyedEnd} (placed : d.Placed keys place) : place.WellNamed :=
  ⟨named.isName_table placed.inNodes, placed.keys_eq ▸ keyed place.node placed.inNodes⟩

theorem wellNamed_of_strongKeySketch {entity : Construct} (inNodes : entity ∈ d.nodes)
    (mem : part ∈ (d.strongKeySketch keys entity).parts) : part.WellNamed := by
  unfold strongKeySketch at mem
  split at mem
  · simp at mem
  split at mem
  · simp [Omission.sketch] at mem
  · obtain rfl := List.mem_singleton.1 mem
    exact Part.wellNamed_plain (wellNamed_primaryKey (named.isName_table inNodes).toHarmless
      (isName_columns (keyed entity inNodes)))

/-- The columns of a weak entity are its partial key and those of its owner, carried over, and all
of them are names. -/
theorem wellNamed_of_weakKeySketch {weak : Construct} (inNodes : weak ∈ d.nodes)
    (mem : part ∈ (d.weakKeySketch keys weak).parts) : part.WellNamed := by
  unfold weakKeySketch at mem
  split at mem
  · simp [Omission.sketch] at mem
  rename_i partialKey declared
  split at mem
  · simp [Omission.sketch] at mem
  rename_i owner owned
  have table := (named.isName_table inNodes).toHarmless
  have ownerNamed := (places_of_ownerIn owned).1.wellNamed named keyed
  have first := named.of_mem_keysOfKind inNodes (List.mem_of_head? declared)
  have inherited : ∀ key ∈ (keys weak).drop 1, key.WellNamed := fun key inRest =>
    keyed weak inNodes key (List.mem_of_mem_drop inRest)
  refine Part.wellNamed_of_mem_map_of
    (fun statement among => wellNamed_of_mem_tableKeys table inherited ?_ ?_ among) mem
  · exact
      { table
        constraint := harmless_firstKeyName table
        columns := isName_columns inherited
        refTable := ownerNamed.table.toHarmless
        refColumns := ownerNamed.columns
        onDelete := by simp }
  · intro name inColumns
    rcases List.mem_cons.1 inColumns with rfl | inColumns
    · exact first.column
    · exact isName_columns inherited name inColumns

/-- The keys of the heirs are those of a root of the diagram, and the triggers are made of the same
names. -/
theorem wellNamed_of_generalizationSketch {generalization : Construct}
    (mem : part ∈ (d.generalizationSketch keys generalization).parts) : part.WellNamed := by
  obtain none | ⟨above, found, _, _, parts⟩ := generalizationSketch_cases d keys generalization
  · simp [none] at mem
  rw [parts] at mem
  obtain inKeys | inTriggers := List.mem_append.1 mem
  · obtain ⟨subtype, heir, inStatements⟩ := List.mem_flatMap.1 inKeys
    have subtypeNamed := named.of_mem_strongSubtypes heir
    obtain ⟨near, isEntity, _⟩ := superclassEnd_spec found
    have placed : d.Placed keys (keys.endAt above) :=
      ⟨mem_nodes_of_mem_neighbours near, isEntity, rfl⟩
    have superclassNamed := placed.wellNamed named keyed
    have table := subtypeNamed.table.toHarmless
    refine Part.wellNamed_of_mem_map_of (fun statement among => wellNamed_of_mem_tableKeys table
      subtypeNamed.keys ?_ subtypeNamed.columns among) inStatements
    have cascade : Harmless "CASCADE" := by decide
    exact
      { table
        constraint := harmless_firstKeyName table
        columns := subtypeNamed.columns
        refTable := superclassNamed.table.toHarmless
        refColumns := superclassNamed.columns
        onDelete := fun action same => Option.some.inj same ▸ cascade }
  · exact Part.wellNamed_of_mem_triggers inTriggers

/-- One case for each encoding.  The columns of an embedding may have a number behind them, which
leaves a name a name. -/
theorem wellNamed_of_relationshipSketch {reserved : Reservations} {node : Construct}
    (inNodes : node ∈ d.nodes)
    (mem : part ∈ (d.relationshipSketch keys reserved node).1.parts) : part.WellNamed := by
  have endNamed : ∀ place ∈ d.relationshipEnds keys node, place.WellNamed := fun place inEnds =>
    (places_of_mem_relationshipEnds inEnds).wellNamed named keyed
  obtain none | ⟨_, _, same⟩ | ⟨how, holderIn, targetIn, _, same⟩ :=
    relationshipSketch_cases d keys reserved node
  · simp [none] at mem
  · rw [same] at mem
    have references : ∀ reference ∈ planReferences [] (d.relationshipEnds keys node),
        reference.WellNamed := fun reference planned =>
      wellNamed_of_mem_planReferences endNamed planned
    have table : Harmless (junctionTable (d.relationshipEnds keys node)) := by
      refine .intercalate (by decide) fun text inTables => ?_
      obtain ⟨place, inEnds, rfl⟩ := List.mem_map.1 inTables
      exact (endNamed place inEnds).table.toHarmless
    rcases List.mem_cons.1 mem with rfl | mem
    · refine Part.wellNamed_plain ⟨table, fun column inColumns => ?_⟩
      exact (List.mem_append.1 inColumns).elim (wellNamed_of_mem_referenceColumns references)
        named.of_mem_storedColumns
    · exact wellNamed_of_mem_junctionParts table references mem
  · rw [same] at mem
    have holder := endNamed how.holder holderIn
    have reference := wellNamed_embeddedReference (endNamed how.target targetIn)
      (d.takenIn keys reserved how.holder.node)
    have label := (named.isName_table inNodes).toHarmless
    obtain inStatements | inTriggers := List.mem_append.1 mem
    · refine Part.wellNamed_of_mem_map_of (fun statement among => ?_) inStatements
      obtain inColumns | inKey := List.mem_append.1 among
      · obtain own | stored := List.mem_append.1 inColumns
        · obtain ⟨_, typed, rfl⟩ := List.mem_map.1 own
          obtain ⟨isName, harmless⟩ := reference.typed typed
          exact ⟨holder.table.toHarmless, isName, harmless⟩
        · obtain ⟨column, inStored, rfl⟩ := List.mem_map.1 stored
          exact ⟨holder.table.toHarmless, named.of_mem_storedColumns inStored⟩
      · obtain rfl := List.mem_singleton.1 inKey
        exact
          { table := holder.table.toHarmless
            constraint := harmless_joined (harmless_firstKeyName holder.table.toHarmless) label
            columns := reference.columns
            refTable := reference.target.table.toHarmless
            refColumns := reference.target.columns
            onDelete := by simp }
    · exact Part.wellNamed_of_mem_triggers inTriggers

/-- The references of an associative entity name their columns after keys of its participants. -/
theorem wellNamed_of_associativeSketch {entity : Construct} (inNodes : entity ∈ d.nodes)
    (mem : part ∈ (d.associativeSketch keys entity).parts) : part.WellNamed := by
  have table := (named.isName_table inNodes).toHarmless
  have references : ∀ reference ∈ d.referencesIn keys entity, reference.WellNamed := by
    intro reference among
    refine wellNamed_of_mem_planReferences (fun place inEnds => ?_) (mem_referencesIn among)
    exact (places_of_mem_participantsIn inEnds).wellNamed named keyed
  unfold associativeSketch at mem
  dsimp only at mem
  split at mem
  · simp [Omission.sketch] at mem
  · obtain inColumns | inKeys := List.mem_append.1 mem
    · obtain ⟨column, made, rfl⟩ := List.mem_map.1 inColumns
      exact Part.wellNamed_plain ⟨table, wellNamed_of_mem_referenceColumns references made⟩
    · exact wellNamed_of_mem_junctionParts table references inKeys

/-- The type of the surrogate key is the only text of a child table that is neither a name nor of
the diagram. -/
theorem wellNamed_of_multivaluedSketch {surrogateType : String} {item : Construct}
    (harmless : Harmless surrogateType) (inNodes : item ∈ d.nodes)
    (mem : part ∈ (d.multivaluedSketch keys surrogateType item).parts) : part.WellNamed := by
  unfold multivaluedSketch at mem
  split at mem
  · simp [Omission.sketch] at mem
  rename_i owner found
  split at mem
  · simp [Omission.sketch] at mem
  obtain ⟨ownerIn, _⟩ := ownerOf_mem_nodes found
  have ownerTable := (named.isName_table ownerIn).toHarmless
  have table := harmless_joined ownerTable (named.isName_table inNodes).toHarmless
  have value := (named.isName_column inNodes).lowerString
  have front : IsName "pk-" := ⟨by decide, 'p', by simp, by decide⟩
  have surrogate := front.append value.toHarmless
  have ownerKeys := keyed owner ownerIn
  refine Part.wellNamed_of_mem_map_of (fun statement among => ?_) mem
  simp only [childTableStatements, List.mem_cons, List.not_mem_nil, or_false] at among
  rcases among with rfl | rfl | rfl
  · refine ⟨table, fun column inColumns => ?_⟩
    obtain inKeys | inOwn := List.mem_append.1 inColumns
    · obtain ⟨key, among, rfl⟩ := List.mem_map.1 inKeys
      exact ⟨(ownerKeys key among).column, (ownerKeys key among).sqlType⟩
    · simp only [List.mem_cons, List.not_mem_nil, or_false] at inOwn
      rcases inOwn with rfl | rfl
      · exact ⟨surrogate, fun text same => Option.some.inj same ▸ harmless⟩
      · exact ⟨value, named.types item inNodes⟩
  · refine wellNamed_primaryKey table fun name inColumns => ?_
    exact List.mem_singleton.1 inColumns ▸ surrogate
  · exact
      { table
        constraint := harmless_firstKeyName table
        columns := isName_columns ownerKeys
        refTable := ownerTable
        refColumns := isName_columns ownerKeys
        onDelete := by simp }

/-- The statements of every phase are well named. -/
theorem wellNamed_of_mem_sketch {settings : Settings} {phase : Phase} {sketch : Sketch}
    (surrogate : Harmless settings.surrogateKeyType)
    (inPhase : sketch ∈ phase.sketches settings d keys) (mem : part ∈ sketch.parts) :
    part.WellNamed := by
  obtain ⟨node, handled, drafts⟩ := exists_drafts_of_mem_sketches inPhase
  obtain ⟨inNodes, _⟩ := kind_of_mem_handledIn handled
  cases drafts with
  | ownedTable | associativeTable =>
      obtain rfl := List.mem_singleton.1 mem
      exact Part.wellNamed_plain
        ⟨(named.isName_table inNodes).toHarmless, fun _ => named.of_mem_storedColumns⟩
  | strongKey => exact wellNamed_of_strongKeySketch named keyed inNodes mem
  | weakKey => exact wellNamed_of_weakKeySketch named keyed inNodes mem
  | generalization => exact wellNamed_of_generalizationSketch named keyed mem
  | relationship => exact wellNamed_of_relationshipSketch named keyed inNodes mem
  | associativeEntity => exact wellNamed_of_associativeSketch named keyed inNodes mem
  | multivaluedAttribute => exact wellNamed_of_multivaluedSketch named keyed surrogate inNodes mem
  | derivedAttribute alone =>
      obtain none | ⟨name, query, view⟩ :=
        parts_of_mem_viewSketches (alone ▸ List.mem_singleton_self _)
      · simp [none] at mem
      · rw [view] at mem
        obtain rfl := List.mem_singleton.1 mem
        exact Part.wellNamed_plain trivial

end Sketches

/-! ## Triggers -/

section Triggers

theorem harmless_of_mem_rowColumns {row text : String} {columns : List String}
    (harmless : Harmless row) (named : ∀ name ∈ columns, IsName name)
    (mem : text ∈ rowColumns row columns) : Harmless text := by
  obtain ⟨name, inColumns, rfl⟩ := List.mem_map.1 mem
  exact (harmless.append (by decide)).append (named name inColumns).toHarmless

theorem harmless_changed {columns : List String} (named : ∀ name ∈ columns, IsName name) :
    Harmless (changed columns) := by
  refine .intercalate (by decide) fun text mem => ?_
  obtain ⟨name, inColumns, rfl⟩ := List.mem_map.1 mem
  have column := (named name inColumns).toHarmless
  exact .append (.append (.append (by decide) column) (by decide)) column

theorem harmless_updating {columns : List String} (named : ∀ name ∈ columns, IsName name) :
    Harmless ("UPDATING AND (" ++ changed columns ++ ")") :=
  .append (.append (by decide) (harmless_changed named)) (by decide)

/-! ### Rules of generalizations -/

variable {superclass subtype : KeyedEnd} {subtypes siblings tables : List KeyedEnd}

theorem wellNamed_of_mem_holderCounts {references : List String} {count : RowCount}
    (tablesNamed : ∀ place ∈ tables, place.WellNamed)
    (harmless : ∀ reference ∈ references, Harmless reference)
    (mem : count ∈ holderCounts tables references) : count.WellNamed := by
  obtain ⟨position, inside, rfl⟩ := List.mem_mapIdx.1 mem
  have place := tablesNamed _ (List.getElem_mem inside)
  exact
    { variableName := harmless_variableName position
      table := place.table.toHarmless
      columns := fun name inColumns => (place.columns name inColumns).toHarmless
      references := harmless }

theorem wellNamed_superclassPlan (above : superclass.WellNamed)
    (below : ∀ place ∈ subtypes, place.WellNamed) :
    (superclassPlan superclass subtypes).WellNamed where
  name := .append (by decide) above.table.toHarmless
  table := above.table.toHarmless
  rules := by
    intro rule mem
    obtain rfl := List.mem_singleton.1 mem
    exact
      { event := (by decide : Harmless "INSERTING")
        counts := fun count => wellNamed_of_mem_holderCounts below fun reference =>
          harmless_of_mem_rowColumns (by decide) above.columns
        violation := (firm_sumOf _).append (.of_isPlain rfl) }

theorem wellNamed_of_mem_disjointRules (own : subtype.WellNamed)
    (others : ∀ place ∈ siblings, place.WellNamed) {rule : TriggerRule}
    (mem : rule ∈ disjointRules subtype siblings) : rule.WellNamed := by
  have counts : ∀ count ∈ holderCounts siblings (rowColumns ":n" subtype.columns),
      count.WellNamed := fun count => wellNamed_of_mem_holderCounts others fun reference =>
    harmless_of_mem_rowColumns (by decide) own.columns
  have violation : Firm (sumOf (firstVariables siblings.length) ++ " != 0") :=
    (firm_sumOf _).append (.of_isPlain rfl)
  simp only [disjointRules, List.mem_cons, List.not_mem_nil, or_false] at mem
  rcases mem with rfl | rfl
  · exact ⟨(by decide : Harmless "INSERTING"), counts, violation⟩
  · exact ⟨harmless_updating own.columns, counts, violation⟩

/-- The total rule is the one condition with pluses and two comparisons; no plus stands before a
comparison, since a variable stands between them. -/
theorem wellNamed_totalRule (above : superclass.WellNamed) (own : subtype.WellNamed)
    (others : ∀ place ∈ siblings, place.WellNamed) :
    (totalRule superclass subtype siblings).WellNamed where
  event := (by decide : Harmless "DELETING")
  counts := by
    have references : ∀ reference ∈ rowColumns ":o" subtype.columns, Harmless reference :=
      fun reference => harmless_of_mem_rowColumns (by decide) own.columns
    intro count mem
    rcases List.mem_cons.1 mem with rfl | mem
    · exact
        { variableName := harmless_variableName _
          table := above.table.toHarmless
          columns := fun name inColumns => (above.columns name inColumns).toHarmless
          references }
    · exact wellNamed_of_mem_holderCounts others references mem
  violation := .append (.append (.append (harmless_variableName _).firm
    (.of_isPlain rfl)) (firm_sumOf _)) (.of_isPlain rfl)

/-- The plan of a subtype is named after its table, and each of its rules is well named. -/
theorem wellNamed_subtypePlan {disjoint total : Bool} {plan : TriggerPlan}
    (planned : subtypePlan? superclass subtype siblings disjoint total = some plan)
    (above : superclass.WellNamed) (own : subtype.WellNamed)
    (others : ∀ place ∈ siblings, place.WellNamed) : plan.WellNamed where
  name := by
    rw [(eq_of_subtypePlan planned).2]
    exact .append (by decide) own.table.toHarmless
  table := by
    rw [(subtypePlan_spec planned).1]
    exact own.table.toHarmless
  rules := by
    intro rule mem
    rcases rules_of_subtypePlan planned mem with ⟨_, inDisjoint⟩ | ⟨_, rfl⟩
    · exact wellNamed_of_mem_disjointRules own others inDisjoint
    · exact wellNamed_totalRule above own others

/-! ### Rules of relationships -/

variable {relationship : String} {holder target : KeyedEnd} {reference : Reference}

theorem wellNamed_referringRule {event violation row : String} {columns key : List String}
    (eventHarmless : Harmless event) (violationHarmless : Harmless violation)
    (holderNamed : holder.WellNamed) (columnsNamed : ∀ name ∈ columns, IsName name)
    (rowHarmless : Harmless row) (keyNamed : ∀ name ∈ key, IsName name) :
    (referringRule event violation
      (referringCount holder columns (rowColumns row key))).WellNamed where
  event := eventHarmless
  counts := by
    intro count mem
    obtain rfl := List.mem_singleton.1 mem
    exact
      { variableName := harmless_variableName 0
        table := holderNamed.table.toHarmless
        columns := fun name inColumns => (columnsNamed name inColumns).toHarmless
        references := fun reference => harmless_of_mem_rowColumns rowHarmless keyNamed }
  violation := (Harmless.append (harmless_variableName 0) violationHarmless).firm

theorem wellNamed_targetPlan (label : Harmless relationship) (holderNamed : holder.WellNamed)
    (targetNamed : target.WellNamed) (referenceNamed : reference.WellNamed) :
    (targetPlan relationship holder target reference).WellNamed where
  name := harmless_joined (.append (by decide) label) targetNamed.table.toHarmless
  table := targetNamed.table.toHarmless
  rules := by
    intro rule mem
    have key := referenceNamed.target.columns
    simp only [targetPlan, List.mem_cons, List.not_mem_nil, or_false] at mem
    rcases mem with rfl | rfl | rfl
    all_goals
      refine wellNamed_referringRule ?_ (by decide) holderNamed
        referenceNamed.columns (by decide) key
    · exact by decide
    · exact harmless_updating key
    · exact by decide

theorem wellNamed_holderPlan {oneToOne : Bool} (label : Harmless relationship)
    (holderNamed : holder.WellNamed) (referenceNamed : reference.WellNamed) :
    (holderPlan relationship holder reference oneToOne).WellNamed where
  name := harmless_joined (.append (by decide) label) holderNamed.table.toHarmless
  table := holderNamed.table.toHarmless
  rules := by
    intro rule mem
    have columns := referenceNamed.columns
    have referring : ∀ {event violation row : String}, Harmless event → Harmless violation →
        Harmless row → (referringRule event violation (referringCount holder reference.columns
          (rowColumns row reference.columns))).WellNamed :=
      fun event violation row =>
        wellNamed_referringRule event violation holderNamed columns row columns
    simp only [holderPlan, List.mem_append, List.mem_cons, List.not_mem_nil, or_false] at mem
    rcases mem with first | rfl | rfl
    · split at first
      · obtain rfl := List.mem_singleton.1 first
        exact referring (by decide) (by decide) (by decide)
      · exact absurd first List.not_mem_nil
    · exact referring (harmless_updating columns) (by decide) (by decide)
    · exact referring (by decide) (by decide) (by decide)

/-- The triggers of a run are those of well-named plans. -/
theorem Guards.wellNamed {phase : Phase} {sketch : Sketch} {plan : TriggerPlan}
    (named : d.WellNamed) (keyed : ∀ entity ∈ d.nodes, ∀ key ∈ keys entity, key.WellNamed)
    (guards : d.Guards keys phase sketch plan) : plan.WellNamed := by
  have placeNamed : ∀ {place : KeyedEnd}, d.Placed keys place → place.WellNamed :=
    fun placed => placed.wellNamed named keyed
  have aboveNamed : ∀ {generalization : Construct} {above : Link × Construct},
      d.superclassEnd? generalization = some above → (keys.endAt above).WellNamed := by
    intro generalization above found
    obtain ⟨near, isEntity, _⟩ := superclassEnd_spec found
    exact placeNamed ⟨mem_nodes_of_mem_neighbours near, isEntity, rfl⟩
  cases guards with
  | superclass _ found _ =>
      exact wellNamed_superclassPlan (aboveNamed found) fun _ heir =>
        named.of_mem_strongSubtypes heir
  | subtype _ found heir planned =>
      refine wellNamed_subtypePlan planned (aboveNamed found) (named.of_mem_strongSubtypes heir) ?_
      exact fun _ sibling => named.of_mem_strongSubtypes (List.mem_filter.1 sibling).1
  | target inKind holderIn targetIn =>
      have targetNamed := placeNamed (places_of_mem_relationshipEnds targetIn)
      exact wellNamed_targetPlan (named.isName_table (mem_ofKind_iff.1 inKind).1).toHarmless
        (placeNamed (places_of_mem_relationshipEnds holderIn)) targetNamed
        (wellNamed_embeddedReference targetNamed _)
  | holder inKind holderIn targetIn =>
      have targetNamed := placeNamed (places_of_mem_relationshipEnds targetIn)
      exact wellNamed_holderPlan (named.isName_table (mem_ofKind_iff.1 inKind).1).toHarmless
        (placeNamed (places_of_mem_relationshipEnds holderIn))
        (wellNamed_embeddedReference targetNamed _)

end Triggers

end Classified

/-! ## Scripts -/

open Classified

/-- No label of the diagram is blank, and the texts that the author gives are harmless. -/
structure HarmlessTexts (settings : Settings) (diagram : Diagram) : Prop where
  named : ∀ node ∈ diagram.nodes, isBlankText node.label = false
  labels : ∀ node ∈ diagram.nodes, Harmless node.label
  types : ∀ node ∈ diagram.nodes, ∀ sqlType ∈ node.sqlType, Harmless sqlType
  surrogateType : Harmless settings.surrogateKeyType
  message : Harmless settings.violationMessage

section Scripts

variable {settings : Settings} {diagram : Diagram} {result : CompileResult}

theorem HarmlessTexts.wellNamed (texts : HarmlessTexts settings diagram) {d : Classified}
    (read : diagram.classify = .ok d) : d.WellNamed := by
  obtain rfl := classify_eq_ok_iff.1 read
  have written : ∀ node ∈ d.nodes, node.written ∈ d.written.nodes := fun _ mem =>
    List.mem_map_of_mem mem
  exact
    { named := fun node mem => texts.named _ (written node mem)
      labels := fun node mem => texts.labels _ (written node mem)
      types := fun node mem => texts.types _ (written node mem) }

/-- A generated statement of such a diagram is rendered firm. -/
theorem HarmlessTexts.firm_render (texts : HarmlessTexts settings diagram)
    (compiled : compile settings diagram = .ok result) {statement : Statement}
    (mem : statement ∈ result.statements) (noView : statement.form ≠ "CreateView") :
    Firm statement.render := by
  obtain ⟨d, read⟩ := exists_classified compiled
  have named := texts.wellNamed read
  have keyed : ∀ entity ∈ d.nodes, ∀ key ∈ keysAfter settings diagram d entity, key.WellNamed :=
    fun entity inNodes => named.of_mem_keysAfter read inNodes
  by_cases isTrigger : ∃ trigger, statement = .createTrigger trigger
  · obtain ⟨trigger, rfl⟩ := isTrigger
    obtain ⟨_, _, plan, first, guards, rfl⟩ := exists_plan_of_mem_statements read compiled mem
    exact (guards.wellNamed named keyed).firm_render texts.message first
  · obtain ⟨part, inOutline, fits⟩ :=
      exists_of_mem_right (statements_fit_outline read compiled) mem
    obtain ⟨phase, sketch, inPhase, inSketch⟩ := mem_outline_iff.1 inOutline
    have partNamed := wellNamed_of_mem_sketch named keyed texts.surrogateType inPhase inSketch
    have stands : part.statement? = some statement := by
      cases part with
      | plain | reference => exact fits
      | trigger plan =>
          obtain ⟨trigger, same, _⟩ := fits
          exact absurd ⟨trigger, same⟩ isTrigger
    refine (partNamed statement stands).firm_render noView fun isForm => isTrigger ?_
    cases statement with
    | createTrigger trigger => exact ⟨trigger, rfl⟩
    | _ => simp [Statement.form] at isForm

/-- Tidying changes no generated statement, and the script is made of the statements as
they are rendered, views included. -/
theorem ddl_untidied (compiled : compile settings diagram = .ok result)
    (texts : HarmlessTexts settings diagram) :
    (∀ statement ∈ result.statements, statement.form ≠ "CreateView" →
        tidy statement.render = statement.render) ∧
      result.ddl =
        if result.statements.isEmpty then ""
        else String.intercalate "\n\n" (result.statements.map (·.render)) ++ "\n" := by
  have kept : ∀ statement ∈ result.statements, statement.form ≠ "CreateView" →
      tidy statement.render = statement.render := fun statement mem noView =>
    (texts.firm_render compiled mem noView).tidy_eq_self
  have rendered : result.statements.map (·.scriptText) = result.statements.map (·.render) := by
    refine List.map_congr_left fun statement mem => ?_
    cases statement with
    | createView => rfl
    | _ => exact kept _ mem (by simp [Statement.form])
  exact ⟨kept, by rw [CompileResult.ddl, scriptText, rendered]⟩

/-- Labels and types with commas and brackets, among them a superclass every row of which needs
a row of its subtype. -/
def commaLabels : Diagram :=
  { nodes :=
      [.drawn "p" "Order, item" "StrongEntity",
       { id := "k", label := ")", kind := "KeyAttribute", sqlType := some "NUMBER(10, 2)" },
       .drawn "n" "no., year" "KeyAttribute", .drawn "t" "T" "GeneralizationDisjoint",
       .drawn "e" "Straße" "StrongEntity", .drawn "m" "tag" "MultivaluedAttribute"]
    connections :=
      [.drawn "1" "p" "k", .drawn "2" "p" "n", .drawn "3" "t" "p" "DoubleLineGeneralization",
       .drawn "4" "t" "e" "GeneralizationToSubtype", .drawn "5" "p" "m"]
    node_ids_nodup := by decide
    connection_ids_nodup := by decide }

/-- Labels with commas and brackets, and a message with a comma, all come through, in the statements
one by one and in the script as a whole. -/
theorem commaLabels_ddl_untidied :
    ∃ result, compile { violationMessage := "no, really" } commaLabels = .ok result ∧
      HarmlessTexts { violationMessage := "no, really" } commaLabels ∧
      .addPrimaryKey "ORDER,_ITEM" "PK_ORDER,_ITEM" [")", "no.,_year"] ∈ result.statements ∧
      result.ddl = String.intercalate "\n\n" (result.statements.map (·.render)) ++ "\n" := by
  have found : scriptHolds { violationMessage := "no, really" } commaLabels
      (.addPrimaryKey "ORDER,_ITEM" "PK_ORDER,_ITEM" [")", "no.,_year"]) = true := by decide +kernel
  obtain ⟨result, compiled, made⟩ := mem_of_scriptHolds found
  have texts : HarmlessTexts { violationMessage := "no, really" } commaLabels :=
    { named := by decide +kernel
      labels := by decide +kernel
      types := by decide +kernel
      surrogateType := by decide +kernel
      message := by decide +kernel }
  obtain ⟨_, ddl⟩ := ddl_untidied compiled texts
  rw [if_neg (by simpa using List.ne_nil_of_mem made)] at ddl
  exact ⟨result, compiled, texts, made, ddl⟩

end Scripts

end EntitySchema
