/-
# EntitySchema.Proofs.Reservations -- embedded columns beside each other

An entity may hold the foreign keys of many relationships, several of them to the same other
entity or to itself.  They are planned one at a time; what the earlier ones took is known by what
is reserved (`takenColumns`).  What is reserved for an entity starts with the names of its
attributes and of its key, as this is found when the first relationship is embedded there, and it
is extended by what is planned for that entity and by nothing else.

So all that a run plans for an entity is a single plan beside its own columns, as if no other
entity held any foreign key (`columns_foreignKeysInto`); `PlannedApart` says what follows.
`embedded_columns_apart` is the statement about any run of the relationships of a diagram.  A run
may run out of numbers: then it is about those that the run got through.
-/
import EntitySchema.Proofs.AnyRun
import EntitySchema.Proofs.Wholeness

namespace EntitySchema

open Inquiry

set_option autoImplicit false

/-! ## Foreign keys of outputs -/

def Statement.foreignKey? : Statement → Option ForeignKey
  | .addForeignKey key => some key
  | _ => none

def Output.foreignKeys (output : Output) : List ForeignKey :=
  output.statements.filterMap Statement.foreignKey?

theorem mem_foreignKeys_iff {output : Output} {key : ForeignKey} :
    key ∈ output.foreignKeys ↔ .addForeignKey key ∈ output.statements := by
  rw [Output.foreignKeys, List.mem_filterMap]
  constructor
  · rintro ⟨statement, mem, read⟩
    cases statement with
    | addForeignKey other =>
        obtain rfl := Option.some.inj read
        exact mem
    | _ => cases read
  · exact fun mem => ⟨_, mem, rfl⟩

namespace Classified

variable {d : Classified} {keys : KeyTable} {entity : Construct}

/-- The foreign keys that are embedded in an entity by some relationships with their outputs. -/
def foreignKeysInto (d : Classified) (keys : KeyTable) (entity : Construct)
    (made : List (Construct × Output)) : List ForeignKey :=
  made.flatMap fun (node, output) =>
    (d.embeddedIn keys entity node).flatMap fun _ => output.foreignKeys

/-- The ends that the relationships embedded in an entity refer to. -/
def embeddedTargets (d : Classified) (keys : KeyTable) (entity : Construct)
    (nodes : List Construct) : List KeyedEnd :=
  nodes.flatMap fun node => (d.embeddedIn keys entity node).map (·.target)

/-- An embedding has one foreign key, whatever its triggers are. -/
theorem foreignKeys_numbered_embeddingSketch (node : Construct) (how : Embedding)
    (reference : Reference) (message : String) (code : Int) :
    (((d.embeddingSketch node how reference).numbered message code).foreignKeys).map (·.columns) =
      [reference.columns] := by
  have columns : ∀ added : List Column,
      (added.map (.addColumn how.holder.table)).filterMap Statement.foreignKey? = [] := fun added =>
    List.filterMap_eq_nil_iff.2 (List.forall_mem_map.2 fun _ _ => rfl)
  have triggers : ∀ issued : List Trigger,
      (issued.map Statement.createTrigger).filterMap Statement.foreignKey? = [] := fun issued =>
    List.filterMap_eq_nil_iff.2 (List.forall_mem_map.2 fun _ _ => rfl)
  rw [numbered_embeddingSketch, embeddingStatements_eq, Output.foreignKeys]
  simp only [List.filterMap_append, columns, triggers]
  rfl

/-- The step: a relationship embedded in an entity plans fresh columns beside those taken there. -/
theorem columns_foreignKeys_of_embedded {node : Construct} {how : Embedding}
    (embedded : how ∈ d.embeddedIn keys entity node) (message : String) (reserved : Reservations)
    (code : Int) :
    (((d.relationshipSketch keys reserved node).1.numbered message code).foreignKeys).flatMap
        (·.columns) =
      foreignColumns (d.takenIn keys reserved entity) how.target.keys := by
  obtain ⟨encoded, rfl⟩ := encodingIn_of_mem_embeddedIn embedded
  have spec := relationshipSketch_spec d keys reserved node
  rw [encoded] at spec
  dsimp only at spec
  rw [spec, List.flatMap_def, foreignKeys_numbered_embeddingSketch, List.flatten_singleton]
  rfl

/-- The run: what is planned for an entity is a single plan beside what was taken there. -/
theorem columns_foreignKeysInto (entityIn : entity ∈ d.ofKinds (·.isEntity)) (message : String)
    (nodes : List Construct) (reserved : Reservations) (code : Int) :
    (d.foreignKeysInto keys entity (nodes.zip
        (numberSketches message code (d.relationshipSketches keys reserved nodes)))).flatMap
          (·.columns) =
      (planReferences (d.takenIn keys reserved entity)
        (d.embeddedTargets keys entity nodes)).flatMap (·.columns) := by
  induction nodes generalizing reserved code with
  | nil => rfl
  | cons node rest ih =>
      -- the others find taken what this relationship has left reserved
      have later := ih (d.relationshipSketch keys reserved node).2
        (code + raisesIn (d.relationshipSketch keys reserved node).1.parts)
      rw [takenIn_relationshipSketch entityIn] at later
      unfold foreignKeysInto embeddedTargets at later ⊢
      rw [relationshipSketches, numberSketches, numberedFrom, List.zip_cons_cons]
      simp only [List.flatMap_cons, List.flatMap_append]
      unfold numberSketches at later
      obtain none | ⟨how, embedded, keyed⟩ := embeddedIn_cases d keys entity node
      · rw [none] at later ⊢
        exact later
      · have here := columns_foreignKeys_of_embedded (embedded ▸ List.mem_singleton_self how)
          message reserved code
        rw [embedded, List.flatMap_singleton] at later ⊢
        rw [here, later, List.map_singleton, List.singleton_append, planReferences,
          if_neg (by simpa using keyed), List.flatMap_cons]

/-- No foreign key of some relationships is missed: each is that of a table that is made with it,
or is embedded in an entity. -/
def Located (d : Classified) (keys : KeyTable) (made : List (Construct × Output)) : Prop :=
  ∀ pair ∈ made, ∀ key ∈ pair.2.foreignKeys,
    (∃ columns, .createTable key.table columns ∈ pair.2.statements) ∨
      ∃ entity ∈ d.ofKinds (·.isEntity), key.table = tableName entity.label ∧
        key ∈ d.foreignKeysInto keys entity made

/-- A foreign key that comes of a relationship is either that of a table created with it, or it
stands in the table of the end that holds the relationship. -/
theorem table_of_mem_foreignKeys {node : Construct} {reserved : Reservations} {message : String}
    {code : Int} {key : ForeignKey}
    (mem : key ∈ ((d.relationshipSketch keys reserved node).1.numbered message code).foreignKeys) :
    (∃ columns, .createTable key.table columns ∈
        ((d.relationshipSketch keys reserved node).1.numbered message code).statements) ∨
      ∃ how, d.encodingIn keys node = .embedding how ∧ key.table = how.holder.table := by
  rw [mem_foreignKeys_iff] at mem
  have spec := relationshipSketch_spec d keys reserved node
  cases encoded : d.encodingIn keys node with
  | leftOut =>
      rw [encoded] at spec
      obtain ⟨omission, -, left⟩ := spec
      rw [left] at mem
      exact absurd mem List.not_mem_nil
  | junction ends =>
      rw [encoded] at spec
      rw [spec.2, numbered_junctionSketch] at mem ⊢
      obtain created | inKeys := List.mem_cons.1 mem
      · cases created
      · have table : key.table = junctionTable ends := alters_of_mem_junctionKeys inKeys
        exact .inl ⟨_, by rw [table]; exact List.mem_cons_self⟩
  | embedding how =>
      rw [encoded] at spec
      rw [spec, numbered_embeddingSketch] at mem
      obtain own | triggers := List.mem_append.1 mem
      · exact .inr ⟨how, rfl, alters_of_mem_embeddingStatements own⟩
      · obtain ⟨_, _, same⟩ := List.mem_map.1 triggers
        cases same

theorem forall₂_relationshipOutputs (d : Classified) (keys : KeyTable) (message : String)
    (nodes : List Construct) (reserved : Reservations) (code : Int) :
    List.Forall₂ (fun node output => ∃ before first,
        output = (d.relationshipSketch keys before node).1.numbered message first)
      nodes (numberSketches message code (d.relationshipSketches keys reserved nodes)) := by
  induction nodes generalizing reserved code with
  | nil => exact .nil
  | cons node rest ih => exact .cons ⟨reserved, code, rfl⟩ (ih _ _)

/-- The induction is over the relationships, numbers and reservations going along. -/
theorem located_relationshipSketches (message : String) (nodes : List Construct)
    (reserved : Reservations) (code : Int) :
    d.Located keys
      (nodes.zip (numberSketches message code (d.relationshipSketches keys reserved nodes))) := by
  intro (node, output) made key mem
  obtain ⟨before, first, same⟩ := (List.forall₂_iff_zip.1
    (forall₂_relationshipOutputs d keys message nodes reserved code)).2 made
  dsimp only at mem ⊢
  rw [same] at mem ⊢
  obtain created | ⟨how, encoded, table⟩ := table_of_mem_foreignKeys mem
  · exact .inl created
  · have embedded : d.embeddedIn keys how.holder.node node = [how] := by
      rw [embeddedIn, encoded]
      exact if_pos rfl
    refine .inr ⟨how.holder.node, (mem_entities_of_embedding encoded).1, table, ?_⟩
    refine List.mem_flatMap.2 ⟨(node, output), made, ?_⟩
    dsimp only
    rw [embedded, List.flatMap_singleton, same]
    exact mem

/-! ## Runs of relationships -/

/-- Foreign key columns that are planned for an entity up to a point of a run, to refer to some
ends: no two are alike, none is that of an attribute or of the key of the entity, whenever this
was read, and they are named as if the entity were the only one to hold foreign keys. -/
structure PlannedApart (d : Classified) (reached : Run) (entity : Construct)
    (targets : List KeyedEnd) (columns : List String) : Prop where
  distinct : columns.Nodup
  attributes : columns.Disjoint (d.attributeColumns entity)
  key : ∀ session : Session,
    Memo.Grows ((d.tableKey entity).memoAfter session) reached.session.resolved →
      columns.Disjoint (((d.tableKey entity).answer session).map (·.column))
  alone : columns = (planReferences
    (d.attributeColumns entity ++ (reached.keys entity).map (·.column)) targets).flatMap (·.columns)

theorem plannedApart_planReferences (entityIn : entity ∈ d.ofKinds (·.isEntity)) (reached : Run)
    (targets : List KeyedEnd) :
    d.PlannedApart reached entity targets ((planReferences
      (d.attributeColumns entity ++ (reached.keys entity).map (·.column)) targets).flatMap
        (·.columns)) := by
  obtain ⟨distinct, apart⟩ := planReferences_spec
    (d.attributeColumns entity ++ (reached.keys entity).map (·.column)) targets
  rw [List.disjoint_append_right] at apart
  refine ⟨distinct, apart.1, fun session grows => ?_, rfl⟩
  obtain ⟨_, _, read⟩ :=
    reads_tableKey (answered_always d) (mem_ofKinds_iff.1 entityIn).1 session trivial
  rw [read _ grows reached.keys (KeyTable.ofMemo_holds _)]
  exact apart.2

variable {message : String} {run after : Run}

/-- What relationships do that a run gets through is numbered from the number that is next. -/
theorem relationshipsFrom_ran {nodes : List Construct}
    (listed : ∀ node ∈ nodes, node ∈ d.ofKind .relationship) {outputs : List Output}
    (ran : outcome (relationshipsFrom d message [] nodes) run = (.ok outputs, after)) :
    outputs = numberSketches message run.codes.next (d.relationshipSketches after.keys [] nodes) :=
  ((numbers_mapM fun sketch => numbers_sketch message sketch).of_ok
    ((follows_relationshipsFrom (answered_always d) message [] nodes listed).outcome_eq ran)).1

/-- Relationships fail only where numbers run out. -/
theorem relationshipsFrom_failed {nodes : List Construct}
    (listed : ∀ node ∈ nodes, node ∈ d.ofKind .relationship) {cause : CompileError}
    (failed : outcome (relationshipsFrom d message [] nodes) run = (.error cause, after)) :
    cause = .codesExhausted after.codes :=
  (numbers_mapM fun sketch => numbers_sketch message sketch).of_error
    ((follows_relationshipsFrom (answered_always d) message [] nodes listed).outcome_eq failed)

/-- A run gets through relationships up to the end, or up to one that makes it fail. -/
theorem exists_done (d : Classified) (message : String) (reserved : Reservations)
    (nodes : List Construct) (run : Run) :
    ∃ done outputs reached,
      outcome (relationshipsFrom d message reserved done) run = (.ok outputs, reached) ∧
      (nodes = done ∨ ∃ node rest cause after, nodes = done ++ node :: rest ∧
        outcome (relationshipsFrom d message reserved (done ++ [node])) run =
            (.error cause, after) ∧
          outcome (relationshipsFrom d message reserved nodes) run = (.error cause, after)) := by
  induction nodes generalizing reserved run with
  | nil => exact ⟨[], [], run, rfl, .inl rfl⟩
  | cons node rest ih =>
      have unfolded : ∀ others, relationshipsFrom d message reserved (node :: others) = (do
          let made ← relationship d message reserved node
          return made.1 :: (← relationshipsFrom d message made.2 others)) := fun _ => rfl
      cases here : outcome (relationship d message reserved node) run with
      | mk result next =>
          cases result with
          | error cause =>
              refine ⟨[], [], run, rfl, .inr ⟨node, rest, cause, next, rfl, ?_, ?_⟩⟩ <;>
                exact outcome_bind_of_error here
          | ok made =>
              obtain ⟨done, outputs, reached, ran, ends⟩ := ih made.2 next
              refine ⟨node :: done, made.1 :: outputs, reached, ?_, ?_⟩
              · rw [unfolded, outcome_bind_of_ok here, outcome_bind_of_ok ran, outcome_pure]
              obtain rfl | ⟨other, later, cause, after, rfl, stopped, failed⟩ := ends
              · exact .inl rfl
              · refine .inr ⟨other, later, cause, after, rfl, ?_, ?_⟩
                · rw [List.cons_append, unfolded, outcome_bind_of_ok here,
                    outcome_bind_of_error stopped]
                · rw [unfolded, outcome_bind_of_ok here, outcome_bind_of_error failed]

/-- A run of all relationships gets through some of them: to the end, or up to one for which there
are not enough numbers. -/
structure GetsThrough (d : Classified) (message : String) (run : Run) (done : List Construct)
    (outputs : List Output) (reached : Run) : Prop where
  ran : outcome (relationshipsFrom d message [] done) run = (.ok outputs, reached)
  ends : d.ofKind .relationship = done ∨ ∃ node rest after,
    d.ofKind .relationship = done ++ node :: rest ∧
      outcome (relationshipsFrom d message [] (done ++ [node])) run =
          (.error (.codesExhausted after.codes), after) ∧
        outcome (relationshipsFrom d message [] (d.ofKind .relationship)) run =
          (.error (.codesExhausted after.codes), after)

theorem exists_getsThrough (d : Classified) (message : String) (run : Run) :
    ∃ done outputs reached, d.GetsThrough message run done outputs reached := by
  obtain ⟨done, outputs, reached, ran, ends⟩ :=
    exists_done d message [] (d.ofKind .relationship) run
  refine ⟨done, outputs, reached, ran, ?_⟩
  obtain all | ⟨node, rest, cause, after, split, stopped, failed⟩ := ends
  · exact .inl all
  · obtain rfl := relationshipsFrom_failed (fun _ mem => mem) failed
    exact .inr ⟨node, rest, after, split, stopped, failed⟩

theorem GetsThrough.listed {done : List Construct} {outputs : List Output} {reached : Run}
    (through : d.GetsThrough message run done outputs reached) :
    ∀ node ∈ done, node ∈ d.ofKind .relationship := by
  obtain all | ⟨node, rest, _, split, _⟩ := through.ends
  · exact fun _ mem => all ▸ mem
  · exact fun _ mem => split ▸ List.mem_append_left _ mem

/-- A relationship that is embedded in no or in another entity changes nothing in what is taken in
an entity, and so in the names that are planned there next. -/
theorem takenColumns_of_elsewhere (entityIn : entity ∈ d.ofKinds (·.isEntity))
    {node : Construct} (listed : node ∈ d.ofKind .relationship)
    {reserved reservedAfter : Reservations} {output : Output}
    (ran : outcome (relationship d message reserved node) run =
      (.ok (output, reservedAfter), after))
    (elsewhere : d.embeddedIn after.keys entity node = []) :
    takenColumns d reservedAfter entity = takenColumns d reserved entity := by
  obtain ⟨_, made⟩ := relationship_ran listed ran
  obtain ⟨same, _⟩ := (numbers_numberedSketch message after.keys reserved node).of_ok made
  obtain ⟨-, rfl⟩ := Prod.mk.inj same
  rw [takenColumns, takenColumns, lookup_relationshipSketch_of_elsewhere entityIn elsewhere]

/-- Whatever relationships a run gets through, their foreign keys are located and the columns that
are planned for an entity are apart; a relationship that is embedded elsewhere leaves alone what is
planned next. -/
theorem embedded_columns_apart (d : Classified) (message : String) :
    (∀ run : Run, ∃ done outputs reached, d.GetsThrough message run done outputs reached ∧
      d.Located reached.keys (done.zip outputs) ∧
      ∀ entity ∈ d.ofKinds (·.isEntity),
        d.PlannedApart reached entity (d.embeddedTargets reached.keys entity done)
          ((d.foreignKeysInto reached.keys entity (done.zip outputs)).flatMap (·.columns))) ∧
    ∀ node ∈ d.ofKind .relationship, ∀ (run after : Run) (reserved reservedAfter : Reservations)
        (output : Output),
      outcome (relationship d message reserved node) run = (.ok (output, reservedAfter), after) →
      ∀ entity ∈ d.ofKinds (·.isEntity), d.embeddedIn after.keys entity node = [] →
        takenColumns d reservedAfter entity = takenColumns d reserved entity := by
  constructor
  · intro run
    obtain ⟨done, outputs, reached, through⟩ := exists_getsThrough d message run
    have numbered := relationshipsFrom_ran through.listed through.ran
    refine ⟨done, outputs, reached, through, ?_, fun entity entityIn => ?_⟩
    · rw [numbered]
      exact located_relationshipSketches message done [] _
    · rw [numbered, columns_foreignKeysInto entityIn]
      exact plannedApart_planReferences entityIn reached _
  · intro node listed run after reserved reservedAfter output ran entity entityIn
    exact takenColumns_of_elsewhere entityIn listed ran

end Classified

open Classified

/-- Two relationships refer from `E` to `F`, whose column has the name of an attribute of `E`; one
refers from `E` to itself and one from `F` to `E`. -/
def crowded : Diagram :=
  { nodes :=
      [.drawn "e" "E" "StrongEntity", .drawn "k" "k" "KeyAttribute",
       .drawn "f" "F" "StrongEntity", .drawn "l" "k" "KeyAttribute",
       .drawn "a" "k-f" "Attribute", .drawn "r" "R" "Relationship",
       .drawn "s" "S" "Relationship", .drawn "t" "T" "Relationship",
       .drawn "u" "U" "Relationship"]
    connections :=
      [.drawn "1" "e" "k", .drawn "2" "f" "l", .drawn "3" "e" "a",
       .drawn "4" "r" "e" "SingleLineToMany", .drawn "5" "r" "f" "DoubleLineToOne",
       .drawn "6" "s" "e" "SingleLineToMany", .drawn "7" "s" "f" "SingleLineToOne",
       .drawn "8" "t" "e" "SingleLineToOne", .drawn "9" "t" "e" "SingleLineToOne",
       .drawn "10" "u" "f" "SingleLineToMany", .drawn "11" "u" "e" "SingleLineToOne"]
    node_ids_nodup := by decide
    connection_ids_nodup := by decide }

/-- The column that `F` takes over from `E` is named like that of `E` itself. -/
theorem crowded_columns :
    ∃ d, crowded.classify = .ok d ∧ ∃ outputs reached,
      d.GetsThrough "" (Run.start 20000) (d.ofKind .relationship) outputs reached ∧
      ∀ entity ∈ d.ofKinds (·.isEntity), ∃ columns : List String,
        columns = (if entity.id = "e" then ["k-f2", "k-f3", "k-e"] else ["k-e"]) ∧
          d.PlannedApart reached entity
            (d.embeddedTargets reached.keys entity (d.ofKind .relationship)) columns := by
  have checked : classifiesTo crowded (fun d =>
      match outcome (relationshipsFrom d "" [] (d.ofKind .relationship)) (Run.start 20000) with
      | (.ok outputs, reached) => (d.ofKinds (·.isEntity)).all fun entity =>
          decide ((d.foreignKeysInto reached.keys entity
              ((d.ofKind .relationship).zip outputs)).flatMap (·.columns) =
            if entity.id = "e" then ["k-f2", "k-f3", "k-e"] else ["k-e"])
      | _ => false) = true := by decide +kernel
  obtain ⟨d, read, found⟩ := exists_of_classifiesTo checked
  obtain ⟨done, outputs, reached, through, _, apart⟩ :=
    (embedded_columns_apart d "").1 (Run.start 20000)
  split at found
  · rename_i all last ran
    obtain same | ⟨_, _, _, _, _, failed⟩ := through.ends
    · subst same
      obtain ⟨rfl, rfl⟩ : all = outputs ∧ last = reached := by
        simpa using ran.symm.trans through.ran
      refine ⟨d, read, all, last, through, fun entity entityIn => ⟨_, ?_, apart entity entityIn⟩⟩
      exact of_decide_eq_true (List.all_eq_true.1 found entity entityIn)
    · rw [ran] at failed
      cases (Prod.mk.inj failed).1
  · cases found

end EntitySchema
