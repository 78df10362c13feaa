/-
# EntitySchema.Proofs.References -- the foreign keys of an outline

Foreign keys come from six places.  `Refers` says once what each of them makes:
the construct, the entity referred to and the two lists of columns, in terms of the
table of keys.  Every foreign key of an outline is one of them
(`makes_of_mem_sketch`), so what holds of all foreign keys is proved by cases.

The first such fact: a foreign key refers to the whole key of its target, which
is not empty (`Refers.target_spec`).
-/
import EntitySchema.Proofs.KeyRule

namespace EntitySchema

set_option autoImplicit false

/-! ## Parts of an outline -/

theorem mem_outline_iff {settings : Settings} {d : Classified} {keys : KeyTable} {part : Part} :
    part ∈ outline settings d keys ↔
      ∃ phase, ∃ sketch ∈ Phase.sketches settings d keys phase, part ∈ sketch.parts := by
  have everyPhase : ∀ phase : Phase, phase ∈ Phase.all := by
    intro phase
    cases phase <;> decide
  simp [outline, Phase.sketch, Sketch.concat, everyPhase]

namespace Part

def MakesKey (part : Part) (key : ForeignKey) : Prop :=
  part.statement? = some (.addForeignKey key)

variable {key : ForeignKey}

@[simp] theorem makesKey_plain {statement : Statement} :
    (plain statement).MakesKey key ↔ statement = .addForeignKey key := by
  simp [MakesKey, statement?]

@[simp] theorem makesKey_trigger {plan : TriggerPlan} : ¬(trigger plan).MakesKey key := by
  simp [MakesKey, statement?]

theorem eq_of_mem_map_of {site : Site} {target : Construct} {statements : List Statement}
    {part : Part} (mem : part ∈ statements.map (Part.of site target)) (makes : part.MakesKey key) :
    part = .reference site target key ∧ .addForeignKey key ∈ statements := by
  obtain ⟨statement, inStatements, rfl⟩ := List.mem_map.1 mem
  rw [MakesKey, statement?_of] at makes
  obtain rfl := Option.some.inj makes
  exact ⟨rfl, inStatements⟩

theorem makesKey_of_fits {part : Part} (fits : part.Fits (.addForeignKey key)) :
    part.MakesKey key := by
  cases part with
  | plain | reference => exact fits
  | trigger plan =>
      obtain ⟨trigger, impossible, _⟩ := fits
      simp at impossible

theorem not_makesKey_of_mem_triggers {plans : List TriggerPlan} {part : Part}
    (mem : part ∈ plans.map Part.trigger) : ¬part.MakesKey key := by
  obtain ⟨plan, _, rfl⟩ := List.mem_map.1 mem
  exact makesKey_trigger

end Part

section Statements

variable {key : ForeignKey} {table : String}

theorem mem_weakKeyStatements_iff {partialKey : Key} {inherited : List Key} {owner : KeyedEnd} :
    .addForeignKey key ∈ weakKeyStatements table partialKey inherited owner ↔
      key = { table, constraint := "FK_" ++ table, columns := inherited.map (·.column)
              refTable := owner.table, refColumns := owner.columns } := by
  simp [weakKeyStatements, addKeyColumns, primaryKey]

theorem mem_subtypeKeyStatements_iff {superclass subtype : KeyedEnd} :
    .addForeignKey key ∈ subtypeKeyStatements superclass subtype ↔
      key = { table := subtype.table, constraint := "FK_" ++ subtype.table
              columns := subtype.columns, refTable := superclass.table
              refColumns := superclass.columns, onDelete := some "CASCADE" } := by
  simp [subtypeKeyStatements, addKeyColumns, primaryKey]

theorem mem_embeddingStatements_iff {d : Classified} {node : Construct} {how : Embedding}
    {reference : Reference} :
    .addForeignKey key ∈ embeddingStatements d node how reference ↔
      key = { table := how.holder.table
              constraint := "FK_" ++ how.holder.table ++ "_" ++ tableName node.label
              columns := reference.columns, refTable := how.target.table
              refColumns := reference.refColumns, deferrable := how.guarded } := by
  simp [embeddingStatements]

theorem mem_childTableStatements_iff {surrogateType : String} {item owner : Construct}
    {keys : List Key} :
    .addForeignKey key ∈ childTableStatements surrogateType item owner keys ↔
      key = { table := tableName owner.label ++ "_" ++ tableName item.label
              constraint := "FK_" ++ (tableName owner.label ++ "_" ++ tableName item.label)
              columns := keys.map (·.column), refTable := tableName owner.label
              refColumns := keys.map (·.column) } := by
  simp [childTableStatements, primaryKey]

end Statements

namespace Classified

/-! ## What refers to what -/

/-- A foreign key that a sketch makes, with the construct it is made for and the
entity it refers to. -/
inductive Refers (d : Classified) (keys : KeyTable) :
    Sketch → Site → Construct → ForeignKey → Prop
  | weakEntity {weak : Construct} {partialKey : Key} {owner : KeyedEnd} {constraint : String} :
      weak ∈ d.ofKind .weakEntity → d.partialKey? weak = some partialKey →
        d.ownerIn keys weak = some owner →
          Refers d keys (d.weakKeySketch keys weak) (.weakEntity weak) owner.node
            { table := tableName weak.label, constraint
              columns := ((keys weak).drop 1).map (·.column)
              refTable := owner.table, refColumns := owner.columns }
  | subtype {generalization : Construct} {above neighbour : Link × Construct}
      {constraint : String} :
      generalization ∈ d.ofKinds (·.isGeneralization) →
        d.superclassEnd? generalization = some above →
        neighbour ∈ d.subtypeEnds generalization → neighbour.2.kind = .strongEntity →
        d.superclassKeys generalization ≠ [] →
        (keys above.2).length = (d.superclassKeys generalization).length →
          Refers d keys (d.generalizationSketch keys generalization)
            (.subtype generalization neighbour.2) above.2
            { table := tableName neighbour.2.label, constraint
              columns := (d.superclassKeys generalization).map (·.foreignColumn)
              refTable := tableName above.2.label
              refColumns := (keys above.2).map (·.column), onDelete := some "CASCADE" }
  | junction {node : Construct} {reference : Reference} {constraint : String} :
      node ∈ d.ofKind .relationship →
        (∀ place ∈ d.relationshipEnds keys node, place.keys ≠ []) →
        reference ∈ planReferences [] (d.relationshipEnds keys node) →
          Refers d keys (d.junctionSketch node (d.relationshipEnds keys node))
            (.relationship node) reference.target.node
            { table := junctionTable (d.relationshipEnds keys node), constraint
              columns := reference.columns, refTable := reference.refTable
              refColumns := reference.refColumns }
  | embedding {node : Construct} {how : Embedding} {taken : List String} {constraint : String} :
      node ∈ d.ofKind .relationship → how.holder ∈ d.relationshipEnds keys node →
        how.target ∈ d.relationshipEnds keys node → how.target.keys ≠ [] →
          Refers d keys (d.embeddingSketch node how (embeddedReference taken how))
            (.relationship node) how.target.node
            { table := how.holder.table, constraint
              columns := foreignColumns taken how.target.keys
              refTable := how.target.table, refColumns := how.target.columns
              deferrable := how.guarded }
  | associativeEntity {entity : Construct} {reference : Reference} {constraint : String} :
      entity ∈ d.ofKind .associativeEntity → reference ∈ d.referencesIn keys entity →
          Refers d keys (d.associativeSketch keys entity) (.associativeEntity entity)
            reference.target.node
            { table := tableName entity.label, constraint, columns := reference.columns
              refTable := reference.refTable, refColumns := reference.refColumns }
  | multivaluedAttribute {item owner : Construct} {surrogateType : String} {constraint : String} :
      item ∈ d.ofKind .multivaluedAttribute → d.ownerOf? item = some owner → keys owner ≠ [] →
          Refers d keys (d.multivaluedSketch keys surrogateType item)
            (.multivaluedAttribute item) owner
            { table := tableName owner.label ++ "_" ++ tableName item.label, constraint
              columns := (keys owner).map (·.column), refTable := tableName owner.label
              refColumns := (keys owner).map (·.column) }

variable {d : Classified} {keys : KeyTable} {site : Site} {target : Construct} {key : ForeignKey}
  {part : Part}

/-- The part is a foreign key that `Refers` lists, made in the phase. -/
def Makes (d : Classified) (keys : KeyTable) (phase : Phase) (sketch : Sketch) (part : Part)
    (key : ForeignKey) : Prop :=
  ∃ site target, part = .reference site target key ∧ site.phase = phase ∧
    d.Refers keys sketch site target key

theorem makes_of_weakKeySketch {weak : Construct} (inKind : weak ∈ d.ofKind .weakEntity)
    (mem : part ∈ (d.weakKeySketch keys weak).parts) (makes : part.MakesKey key) :
    d.Makes keys .partialKeys (d.weakKeySketch keys weak) part key := by
  unfold weakKeySketch at mem
  split at mem
  · simp [Omission.sketch] at mem
  · rename_i partialKey declared
    split at mem
    · simp [Omission.sketch] at mem
    · rename_i owner owned
      obtain ⟨rfl, among⟩ := Part.eq_of_mem_map_of mem makes
      obtain rfl := mem_weakKeyStatements_iff.1 among
      exact ⟨_, _, rfl, rfl, .weakEntity inKind declared owned⟩

/-- A generalization makes nothing, or the keys and triggers of its hierarchy. -/
theorem generalizationSketch_cases (d : Classified) (keys : KeyTable)
    (generalization : Construct) :
    (d.generalizationSketch keys generalization).parts = [] ∨
      ∃ above, d.superclassEnd? generalization = some above ∧
        d.superclassKeys generalization ≠ [] ∧
        (keys above.2).length = (d.superclassKeys generalization).length ∧
        (d.generalizationSketch keys generalization).parts =
          d.hierarchyParts generalization (keys.endAt above) := by
  unfold generalizationSketch
  split
  · exact .inl rfl
  rename_i above found
  dsimp only
  split
  · exact .inl rfl
  split
  · exact .inl rfl
  rename_i rootKeyed
  split
  · rename_i usable
    split
    · exact .inl rfl
    · exact .inr ⟨above, found, by simpa using rootKeyed, usable, rfl⟩
  · exact .inl rfl

/-- The foreign keys of a generalization are those of its strong subtypes, each to the superclass.
-/
theorem makes_of_generalizationSketch {generalization : Construct}
    (inKinds : generalization ∈ d.ofKinds (·.isGeneralization))
    (mem : part ∈ (d.generalizationSketch keys generalization).parts)
    (makes : part.MakesKey key) :
    d.Makes keys .generalizations (d.generalizationSketch keys generalization) part key := by
  obtain none | ⟨above, found, rootKeyed, usable, parts⟩ :=
    generalizationSketch_cases d keys generalization
  · simp [none] at mem
  rw [parts] at mem
  obtain inKeys | inTriggers := List.mem_append.1 mem
  · obtain ⟨subtype, heir, inStatements⟩ := List.mem_flatMap.1 inKeys
    obtain ⟨rfl, among⟩ := Part.eq_of_mem_map_of inStatements makes
    obtain rfl := mem_subtypeKeyStatements_iff.1 among
    obtain ⟨neighbour, chosen, rfl⟩ := List.mem_map.1 heir
    obtain ⟨inEnds, strong⟩ := List.mem_filter.1 chosen
    refine ⟨_, _, rfl, rfl, ?_⟩
    rw [heirOf_columns]
    exact .subtype inKinds found inEnds (by simpa using strong) rootKeyed usable
  · exact absurd makes (Part.not_makesKey_of_mem_triggers inTriggers)

theorem eq_of_mem_junctionParts {table : String} {references : List Reference}
    (mem : part ∈ junctionParts site table references) (makes : part.MakesKey key) :
    ∃ reference ∈ references, ∃ constraint,
      key = { table, constraint, columns := reference.columns, refTable := reference.refTable
              refColumns := reference.refColumns } ∧
        part = .reference site reference.target.node key := by
  obtain inKeys | inPrimary := List.mem_append.1 mem
  · obtain ⟨position, inside, rfl⟩ := List.mem_mapIdx.1 inKeys
    obtain rfl := Statement.addForeignKey.inj (Option.some.inj makes)
    exact ⟨_, List.getElem_mem inside, _, rfl, rfl⟩
  · obtain rfl := List.mem_singleton.1 inPrimary
    simp [primaryKey] at makes

/-- A relationship makes nothing, a junction table of its ends, all of which have
keys, or an embedding of one end in another. -/
theorem relationshipSketch_cases (d : Classified) (keys : KeyTable) (reserved : Reservations)
    (node : Construct) :
    (d.relationshipSketch keys reserved node).1.parts = [] ∨
      (Cardinality.ofEnds? ((d.relationshipEnds keys node).map (·.link.kind)) =
          some .manyToMany ∧
        (∀ place ∈ d.relationshipEnds keys node, place.keys ≠ []) ∧
        (d.relationshipSketch keys reserved node).1 =
          d.junctionSketch node (d.relationshipEnds keys node)) ∨
      ∃ how, how.holder ∈ d.relationshipEnds keys node ∧
        how.target ∈ d.relationshipEnds keys node ∧ how.target.keys ≠ [] ∧
        (d.relationshipSketch keys reserved node).1 =
          d.embeddingSketch node how
            (embeddedReference (d.takenIn keys reserved how.holder.node) how) := by
  unfold relationshipSketch
  dsimp only
  split
  · exact .inl rfl
  rename_i cardinality matched
  split
  · exact .inl rfl
  rename_i keyed
  have allKeyed : ∀ place ∈ d.relationshipEnds keys node, place.keys ≠ [] := by simpa using keyed
  split
  · rename_i many
    exact .inr (.inl ⟨many ▸ matched, allKeyed, rfl⟩)
  split
  · rename_i first second ends
    obtain ⟨holderIn, targetIn⟩ := mem_ofPair first second cardinality
    rw [← ends] at holderIn targetIn
    exact .inr (.inr ⟨_, holderIn, targetIn, allKeyed _ targetIn, rfl⟩)
  · exact .inl rfl

theorem mem_relationshipSketches {reserved : Reservations} {nodes : List Construct}
    {sketch : Sketch} (mem : sketch ∈ d.relationshipSketches keys reserved nodes) :
    ∃ node ∈ nodes, ∃ before, sketch = (d.relationshipSketch keys before node).1 := by
  induction nodes generalizing reserved with
  | nil => simp [relationshipSketches] at mem
  | cons node rest ih =>
      rcases List.mem_cons.1 mem with rfl | mem
      · exact ⟨node, List.mem_cons_self, reserved, rfl⟩
      · obtain ⟨other, inRest, before, same⟩ := ih mem
        exact ⟨other, List.mem_cons_of_mem node inRest, before, same⟩

/-- The foreign keys of a relationship are those of its junction table, or the one that embeds it.
-/
theorem makes_of_relationshipSketch {reserved : Reservations} {node : Construct}
    (inKind : node ∈ d.ofKind .relationship)
    (mem : part ∈ (d.relationshipSketch keys reserved node).1.parts) (makes : part.MakesKey key) :
    d.Makes keys .relationships (d.relationshipSketch keys reserved node).1 part key := by
  obtain none | ⟨_, keyed, same⟩ | ⟨how, holderIn, targetIn, keyed, same⟩ :=
    relationshipSketch_cases d keys reserved node
  · simp [none] at mem
  · rw [same] at mem ⊢
    rcases List.mem_cons.1 mem with rfl | mem
    · simp at makes
    · obtain ⟨reference, planned, constraint, rfl, rfl⟩ := eq_of_mem_junctionParts mem makes
      exact ⟨_, _, rfl, rfl, .junction inKind keyed planned⟩
  · rw [same] at mem ⊢
    obtain inStatements | inTriggers := List.mem_append.1 mem
    · obtain ⟨rfl, among⟩ := Part.eq_of_mem_map_of inStatements makes
      obtain rfl := mem_embeddingStatements_iff.1 among
      exact ⟨_, _, rfl, rfl, .embedding inKind holderIn targetIn keyed⟩
    · exact absurd makes (Part.not_makesKey_of_mem_triggers inTriggers)

theorem makes_of_associativeSketch {entity : Construct}
    (inKind : entity ∈ d.ofKind .associativeEntity)
    (mem : part ∈ (d.associativeSketch keys entity).parts) (makes : part.MakesKey key) :
    d.Makes keys .relationships (d.associativeSketch keys entity) part key := by
  unfold associativeSketch at mem
  dsimp only at mem
  split at mem
  · simp [Omission.sketch] at mem
  · obtain inColumns | inKeys := List.mem_append.1 mem
    · obtain ⟨column, _, rfl⟩ := List.mem_map.1 inColumns
      simp at makes
    · obtain ⟨reference, planned, constraint, rfl, rfl⟩ := eq_of_mem_junctionParts inKeys makes
      exact ⟨_, _, rfl, rfl, .associativeEntity inKind planned⟩

/-- A child table has one foreign key, to the table of the owner. -/
theorem makes_of_multivaluedSketch {surrogateType : String} {item : Construct}
    (inKind : item ∈ d.ofKind .multivaluedAttribute)
    (mem : part ∈ (d.multivaluedSketch keys surrogateType item).parts)
    (makes : part.MakesKey key) :
    d.Makes keys .multivaluedAttributes (d.multivaluedSketch keys surrogateType item) part key := by
  unfold multivaluedSketch at mem
  split at mem
  · simp [Omission.sketch] at mem
  · rename_i owner found
    split at mem
    · simp [Omission.sketch] at mem
    · rename_i keyed
      obtain ⟨rfl, among⟩ := Part.eq_of_mem_map_of mem makes
      obtain rfl := mem_childTableStatements_iff.1 among
      exact ⟨_, _, rfl, rfl, .multivaluedAttribute inKind found (by simpa using keyed)⟩

/-- A derived attribute makes nothing or one view. -/
theorem parts_of_mem_viewSketches {used : List String} {items : List Construct} {sketch : Sketch}
    (inViews : sketch ∈ d.viewSketches used items) :
    sketch.parts = [] ∨ ∃ name query, sketch.parts = [.plain (.createView name query)] := by
  induction items generalizing used with
  | nil => simp [viewSketches] at inViews
  | cons item rest ih =>
      unfold viewSketches at inViews
      split at inViews
      · rcases List.mem_cons.1 inViews with rfl | inRest
        · exact .inl rfl
        · exact ih inRest
      · split at inViews
        · rcases List.mem_cons.1 inViews with rfl | inRest
          · exact .inl rfl
          · exact ih inRest
        · rcases List.mem_cons.1 inViews with rfl | inRest
          · exact .inr ⟨_, _, rfl⟩
          · exact ih inRest

theorem not_makesKey_of_mem_strongKeySketch {entity : Construct}
    (mem : part ∈ (d.strongKeySketch keys entity).parts) : ¬part.MakesKey key := by
  unfold strongKeySketch at mem
  split at mem
  · simp at mem
  · split at mem
    · simp [Omission.sketch] at mem
    · obtain rfl := List.mem_singleton.1 mem
      simp [primaryKey]

/-- Every foreign key of a sketch is one of those that `Refers` lists. -/
theorem makes_of_mem_sketch {settings : Settings} {phase : Phase} {sketch : Sketch}
    (inPhase : sketch ∈ phase.sketches settings d keys) (mem : part ∈ sketch.parts)
    (makes : part.MakesKey key) : d.Makes keys phase sketch part key := by
  cases phase with
  | tables | associativeEntities =>
      obtain ⟨entity, _, rfl⟩ := List.mem_map.1 inPhase
      obtain rfl := List.mem_singleton.1 mem
      simp [tableStatement] at makes
  | primaryKeys =>
      obtain ⟨entity, _, rfl⟩ := List.mem_map.1 inPhase
      exact absurd makes (not_makesKey_of_mem_strongKeySketch mem)
  | partialKeys =>
      obtain ⟨weak, inKind, rfl⟩ := List.mem_map.1 inPhase
      exact makes_of_weakKeySketch inKind mem makes
  | generalizations =>
      obtain ⟨generalization, inKinds, rfl⟩ := List.mem_map.1 inPhase
      exact makes_of_generalizationSketch inKinds mem makes
  | relationships =>
      obtain encoded | associative := List.mem_append.1 inPhase
      · obtain ⟨node, inKind, before, rfl⟩ := mem_relationshipSketches encoded
        exact makes_of_relationshipSketch inKind mem makes
      · obtain ⟨entity, inKind, rfl⟩ := List.mem_map.1 associative
        exact makes_of_associativeSketch inKind mem makes
  | multivaluedAttributes =>
      obtain ⟨item, inKind, rfl⟩ := List.mem_map.1 inPhase
      exact makes_of_multivaluedSketch inKind mem makes
  | derivedAttributes =>
      obtain none | ⟨name, query, view⟩ := parts_of_mem_viewSketches inPhase
      · simp [none] at mem
      · rw [view] at mem
        obtain rfl := List.mem_singleton.1 mem
        simp at makes

/-! ## Targets -/

/-- An owner is a candidate with the key that the table gives it. -/
theorem firstOwner_spec {candidates : List OwnerCandidate} {owner : KeyedEnd}
    (found : keys.firstOwner candidates = some owner) :
    ∃ candidate ∈ candidates, owner = keys.endAt (candidate.link, candidate.owner) ∧
      keys candidate.owner ≠ [] := by
  induction candidates with
  | nil => simp [KeyTable.firstOwner] at found
  | cons candidate rest ih =>
      unfold KeyTable.firstOwner at found
      split at found
      · obtain ⟨other, mem, told⟩ := ih found
        exact ⟨other, List.mem_cons_of_mem candidate mem, told⟩
      · rename_i keyed
        exact ⟨candidate, List.mem_cons_self, (Option.some.inj found).symm, by simpa using keyed⟩

/-- An entity with the key that the table gives it. -/
structure Placed (d : Classified) (keys : KeyTable) (place : KeyedEnd) : Prop where
  inNodes : place.node ∈ d.nodes
  isEntity : place.node.kind.isEntity = true
  keys_eq : place.keys = keys place.node

theorem places_of_ownerIn {weak : Construct} {owner : KeyedEnd}
    (owned : d.ownerIn keys weak = some owner) : d.Placed keys owner ∧ owner.keys ≠ [] := by
  obtain ⟨candidate, mem, rfl, keyed⟩ := firstOwner_spec owned
  obtain ⟨inNodes, kind⟩ := owner_spec mem
  exact ⟨⟨inNodes, kind, rfl⟩, keyed⟩

theorem places_of_mem_participantsIn {node : Construct} {place : KeyedEnd}
    (mem : place ∈ d.participantsIn keys node) : d.Placed keys place := by
  obtain ⟨neighbour, inEnds, rfl⟩ := List.mem_map.1 mem
  obtain ⟨inNodes, kind⟩ := participant_spec inEnds
  exact ⟨inNodes, kind, rfl⟩

theorem places_of_mem_relationshipEnds {node : Construct} {place : KeyedEnd}
    (mem : place ∈ d.relationshipEnds keys node) : d.Placed keys place :=
  places_of_mem_participantsIn (List.mem_filter.1 mem).1

/-- A planned reference refers to one of the ends, which has a key, by new columns. -/
theorem mem_planReferences {taken : List String} {ends : List KeyedEnd} {reference : Reference}
    (mem : reference ∈ planReferences taken ends) :
    reference.target ∈ ends ∧ reference.target.keys ≠ [] ∧
      ∃ before, reference.columns = foreignColumns before reference.target.keys := by
  induction ends generalizing taken with
  | nil => simp [planReferences] at mem
  | cons place rest ih =>
      unfold planReferences at mem
      split at mem
      · obtain ⟨inRest, said⟩ := ih mem
        exact ⟨List.mem_cons_of_mem place inRest, said⟩
      · rename_i keyed
        rcases List.mem_cons.1 mem with rfl | mem
        · exact ⟨List.mem_cons_self, by simpa using keyed, taken, rfl⟩
        · obtain ⟨inRest, said⟩ := ih mem
          exact ⟨List.mem_cons_of_mem place inRest, said⟩

theorem mem_referencesIn {entity : Construct} {reference : Reference}
    (mem : reference ∈ d.referencesIn keys entity) :
    reference ∈ planReferences (d.attributeColumns entity) (d.participantsIn keys entity) := by
  unfold referencesIn referencesOf at mem
  split at mem
  · simp at mem
  · exact mem

/-- All participants of an associative entity with references have keys. -/
theorem keyed_of_mem_referencesIn {entity : Construct} {reference : Reference}
    (mem : reference ∈ d.referencesIn keys entity) {neighbour : Link × Construct}
    (near : neighbour ∈ d.participantEnds entity) : keys neighbour.2 ≠ [] := by
  intro keyless
  have some : ((d.participantsIn keys entity).isEmpty ||
      (d.participantsIn keys entity).any (·.keys.isEmpty)) = true := by
    refine Bool.or_eq_true_iff.2 (.inr (List.any_eq_true.2 ⟨_, List.mem_map_of_mem near, ?_⟩))
    simp [KeyTable.endAt, keyless]
  simp [referencesIn, referencesOf, some] at mem

theorem Settled.exists_reference (settled : d.Settled keys) {entity : Construct}
    (inNodes : entity ∈ d.nodes) (kind : entity.kind = .associativeEntity)
    (keyed : keys entity ≠ []) : ∃ reference, reference ∈ d.referencesIn keys entity := by
  refine List.exists_mem_of_ne_nil _ fun none => keyed ?_
  rw [settled.associative inNodes kind keyed, none]
  rfl

/-- A foreign key refers to the whole key of its target. -/
theorem Refers.target_spec {sketch : Sketch} (refers : d.Refers keys sketch site target key) :
    target ∈ d.nodes ∧ target.kind.isEntity = true ∧ keys target ≠ [] ∧
      key.refTable = tableName target.label ∧ key.refColumns = (keys target).map (·.column) := by
  have whole : ∀ place : KeyedEnd, d.Placed keys place → place.keys ≠ [] →
      place.node ∈ d.nodes ∧ place.node.kind.isEntity = true ∧ keys place.node ≠ [] ∧
        place.table = tableName place.node.label ∧
        place.columns = (keys place.node).map (·.column) := by
    intro place placed keyed
    refine ⟨placed.inNodes, placed.isEntity, placed.keys_eq ▸ keyed, rfl, ?_⟩
    rw [KeyedEnd.columns, placed.keys_eq]
  cases refers with
  | weakEntity _ _ owned =>
      obtain ⟨placed, keyed⟩ := places_of_ownerIn owned
      exact whole _ placed keyed
  | subtype _ superclass _ _ rootKeyed usable =>
      obtain ⟨next, kind, _⟩ := superclassEnd_spec superclass
      refine ⟨mem_nodes_of_mem_neighbours next, kind, fun keyless => rootKeyed ?_, rfl, rfl⟩
      rw [keyless] at usable
      exact List.length_eq_zero_iff.1 usable.symm
  | junction _ _ planned =>
      obtain ⟨inEnds, keyed, _⟩ := mem_planReferences planned
      exact whole _ (places_of_mem_relationshipEnds inEnds) keyed
  | embedding _ _ targetIn keyed => exact whole _ (places_of_mem_relationshipEnds targetIn) keyed
  | associativeEntity _ planned =>
      obtain ⟨inEnds, keyed, _⟩ := mem_planReferences (mem_referencesIn planned)
      exact whole _ (places_of_mem_participantsIn inEnds) keyed
  | multivaluedAttribute _ found keyed =>
      obtain ⟨inNodes, kind⟩ := ownerOf_mem_nodes found
      exact ⟨inNodes, kind, keyed, rfl, rfl⟩

/-! ## Foreign keys of a script -/

variable {settings : Settings} {diagram : Diagram} {result : CompileResult}

/-- Every foreign key of a script is made by a sketch of the outline. -/
theorem exists_refers_of_mem_statements (read : diagram.classify = .ok d)
    (compiled : compile settings diagram = .ok result)
    (mem : .addForeignKey key ∈ result.statements) :
    ∃ phase, ∃ sketch ∈ Phase.sketches settings d (keysAfter settings diagram d) phase,
      ∃ site target, .reference site target key ∈ sketch.parts ∧
        d.Refers (keysAfter settings diagram d) sketch site target key := by
  obtain ⟨part, inOutline, fits⟩ := exists_of_mem_right (statements_fit_outline read compiled) mem
  obtain ⟨phase, sketch, inPhase, inSketch⟩ := mem_outline_iff.1 inOutline
  obtain ⟨site, target, rfl, _, refers⟩ :=
    makes_of_mem_sketch inPhase inSketch (Part.makesKey_of_fits fits)
  exact ⟨phase, sketch, inPhase, site, target, inSketch, refers⟩

/-- A sketch of some phase makes the statement. -/
def Emits (settings : Settings) (d : Classified) (keys : KeyTable) (statement : Statement) : Prop :=
  ∃ phase, ∃ sketch ∈ Phase.sketches settings d keys phase, ∃ part ∈ sketch.parts,
    part.statement? = some statement

/-- What sketches make is in the script. -/
theorem Emits.mem_statements (read : diagram.classify = .ok d)
    (compiled : compile settings diagram = .ok result) {statement : Statement}
    (emits : Emits settings d (keysAfter settings diagram d) statement) :
    statement ∈ result.statements := by
  obtain ⟨phase, sketch, inPhase, part, mem, stands⟩ := emits
  have inOutline : part ∈ outline settings d (keysAfter settings diagram d) :=
    mem_outline_iff.2 ⟨phase, sketch, inPhase, mem⟩
  obtain ⟨made, inScript, fits⟩ :=
    exists_of_mem_left (statements_fit_outline read compiled) inOutline
  cases part with
  | plain | reference => exact Option.some.inj (fits.symm.trans stands) ▸ inScript
  | trigger => simp [Part.statement?] at stands

end Classified

/-! ## Small diagrams -/

/-- A node without a type. -/
def Node.drawn (id label kind : String) : Node String := { id, label, kind }

/-- A connection without a label. -/
def Connection.drawn (id a b : String) (kind : String := "Plain") : Connection String :=
  { id, a, b, kind }

/-- Whether a diagram can be classified and then has a property. -/
def classifiesTo (diagram : Diagram) (holds : Classified → Bool) : Bool :=
  match diagram.classify with
  | .ok d => holds d
  | .error _ => false

theorem exists_of_classifiesTo {diagram : Diagram} {holds : Classified → Bool}
    (found : classifiesTo diagram holds = true) :
    ∃ d, diagram.classify = .ok d ∧ holds d = true := by
  unfold classifiesTo at found
  split at found
  · exact ⟨_, ‹_›, found⟩
  · simp at found

/-- Whether a diagram compiles and the script has a property. -/
def compilesTo (settings : Settings) (diagram : Diagram) (holds : List Statement → Bool) : Bool :=
  match compile settings diagram with
  | .ok result => holds result.statements
  | .error _ => false

theorem exists_of_compilesTo {settings : Settings} {diagram : Diagram}
    {holds : List Statement → Bool} (found : compilesTo settings diagram holds = true) :
    ∃ result, compile settings diagram = .ok result ∧ holds result.statements = true := by
  unfold compilesTo at found
  split at found
  · exact ⟨_, ‹_›, found⟩
  · simp at found

theorem eq_ok_of_toOption {ε α : Type} {ended : Except ε α} {a : α}
    (found : ended.toOption = some a) : ended = .ok a := by
  cases ended with
  | ok b => exact congrArg Except.ok (Option.some.inj found)
  | error cause => simp [Except.toOption] at found

/-- Whether a diagram compiles to a script that holds a statement. -/
def scriptHolds (settings : Settings) (diagram : Diagram) (statement : Statement) : Bool :=
  compilesTo settings diagram fun statements => decide (statement ∈ statements)

theorem mem_of_scriptHolds {settings : Settings} {diagram : Diagram} {statement : Statement}
    (found : scriptHolds settings diagram statement = true) :
    ∃ result, compile settings diagram = .ok result ∧ statement ∈ result.statements := by
  obtain ⟨result, compiled, holds⟩ := exists_of_compilesTo found
  exact ⟨result, compiled, of_decide_eq_true holds⟩

end EntitySchema
