/-
# EntitySchema.Proofs.Skimming -- a script up to the bodies of its triggers

Names are given before numbers.  So everything that a script says about names can
be read off its outline: `Sketch.statements` is what a construct contributes when
its triggers are left without bodies, and a reading that does not look into a body
(`Skims`) finds in a script what it finds in those statements, one construct after
the other (`Skims.flatMap_statements`).

What each construct contributes is said exactly, not only bounded: a relationship
contributes what its encoding says (`Classified.encodingIn`), a generalization the
keys of its heirs and the triggers of the hierarchy (`Classified.heirs`).  Names are
then a matter of lists without repetitions.
-/
import EntitySchema.Proofs.PrimaryKeys
import EntitySchema.Proofs.Triggers
import Mathlib.Data.List.Pairwise

namespace EntitySchema

set_option autoImplicit false

/-! ## Lists without repetitions -/

section Distinct

variable {α β : Type} {items : List α}

/-- A map that keeps any two elements apart keeps a list free of repetitions. -/
theorem nodup_map_iff_of_injOn {f : α → β}
    (injective : ∀ first ∈ items, ∀ second ∈ items, f first = f second → first = second) :
    (items.map f).Nodup ↔ items.Nodup := by
  constructor
  · exact List.Nodup.of_map f
  · intro distinct
    exact distinct.map_on fun first firstIn second secondIn =>
      injective first firstIn second secondIn

/-- Contributions have nothing in common if no two items contribute the same. -/
theorem nodup_flatMap_iff {contribution : α → List β} (distinct : items.Nodup) :
    (items.flatMap contribution).Nodup ↔
      (∀ item ∈ items, (contribution item).Nodup) ∧
        ∀ first ∈ items, ∀ second ∈ items, ∀ b, b ∈ contribution first → b ∈ contribution second →
          first = second := by
  rw [List.nodup_flatMap]
  apply and_congr_right'
  constructor
  · intro pairs first firstIn second secondIn b inFirst inSecond
    by_contra differ
    have symmetric : Std.Symm (Function.onFun List.Disjoint contribution) :=
      ⟨fun _ _ disjoint => List.disjoint_symm disjoint⟩
    exact pairs.forall firstIn secondIn differ inFirst inSecond
  · intro same
    apply List.Nodup.pairwise_of_forall_ne distinct
    intro first firstIn second secondIn differ b inFirst inSecond
    exact differ (same first firstIn second secondIn b inFirst inSecond)

theorem flatMap_nothing (items : List α) : (items.flatMap fun _ => ([] : List β)) = [] :=
  List.flatMap_eq_nil_iff.2 fun _ _ => rfl

end Distinct

/-! ## Statements without numbers -/

/-- The trigger of a plan before its raises have numbers. -/
def TriggerPlan.unnumbered (plan : TriggerPlan) : Statement :=
  .createTrigger { name := plan.name, table := plan.table }

/-- The statement of a part, with a trigger as far as its name and its table. -/
def Part.unnumbered : Part → Statement
  | .plain statement => statement
  | .reference _ _ key => .addForeignKey key
  | .trigger plan => plan.unnumbered

@[simp] theorem Part.unnumbered_of (site : Site) (target : Construct) (statement : Statement) :
    (Part.of site target statement).unnumbered = statement := by
  cases statement <;> rfl

/-- What a sketch contributes to the script, with its triggers not yet numbered. -/
def Sketch.statements (sketch : Sketch) : List Statement := sketch.parts.map Part.unnumbered

theorem Sketch.statements_of_map (site : Site) (target : Construct) (statements : List Statement) :
    (statements.map (Part.of site target)).map Part.unnumbered = statements := by
  simp [Function.comp_def]

theorem Sketch.statements_of_triggers (plans : List TriggerPlan) :
    (plans.map Part.trigger).map Part.unnumbered = plans.map (·.unnumbered) := by
  simp [Part.unnumbered]

/-- The reading sees of a trigger only its name and its table, and nothing of a view. -/
structure Skims {α : Type} (reading : Statement → List α) : Prop where
  trigger : ∀ trigger : Trigger, reading (.createTrigger trigger) =
    reading (.createTrigger { name := trigger.name, table := trigger.table })
  view : ∀ name query, reading (.createView name query) = []

namespace Skims

variable {α : Type} {reading : Statement → List α} (skims : Skims reading)

include skims

theorem eq_of_fits {part : Part} {statement : Statement} (fits : part.Fits statement) :
    reading statement = reading part.unnumbered := by
  cases part with
  | plain | reference =>
      obtain rfl := Option.some.inj fits
      rfl
  | trigger plan =>
      obtain ⟨trigger, rfl, name, table⟩ := fits
      rw [skims.trigger trigger, name, table]
      rfl

theorem flatMap_of_fits {parts : List Part} {statements : List Statement}
    (fits : List.Forall₂ Part.Fits parts statements) :
    statements.flatMap reading = (parts.map Part.unnumbered).flatMap reading := by
  induction fits with
  | nil => rfl
  | cons here _ ih =>
      rw [List.map_cons, List.flatMap_cons, List.flatMap_cons, skims.eq_of_fits here, ih]

theorem flatMap_viewSketches {d : Classified} {used : List String} {items : List Construct} :
    (d.viewSketches used items).flatMap (·.statements.flatMap reading) = [] := by
  rw [List.flatMap_eq_nil_iff]
  intro sketch inViews
  obtain none | ⟨name, query, view⟩ := Classified.parts_of_mem_viewSketches inViews
  · simp [Sketch.statements, none]
  · simp [Sketch.statements, view, Part.unnumbered, skims.view]

end Skims

/-! ## Alterations -/

/-- The statement adds a column or a key to the table. -/
def Statement.Alters (table : String) : Statement → Prop
  | .addColumn made _ | .addPrimaryKey made _ _ => made = table
  | .addForeignKey key => key.table = table
  | .createTable _ _ | .createView _ _ | .createTrigger _ => False

section Alters

variable {table : String} {statement : Statement}

theorem alters_of_mem_addKeyColumns {keys : List Key} (mem : statement ∈ addKeyColumns table keys) :
    statement.Alters table := by
  obtain ⟨key, _, rfl⟩ := List.mem_map.1 mem
  rfl

theorem alters_of_mem_weakKeyStatements {partialKey : Key} {inherited : List Key} {owner : KeyedEnd}
    (mem : statement ∈ weakKeyStatements table partialKey inherited owner) :
    statement.Alters table := by
  rcases List.mem_append.1 mem with inColumns | inKeys
  · exact alters_of_mem_addKeyColumns inColumns
  · rcases List.mem_pair.1 inKeys with rfl | rfl <;> rfl

theorem alters_of_mem_subtypeKeyStatements {superclass subtype : KeyedEnd}
    (mem : statement ∈ subtypeKeyStatements superclass subtype) :
    statement.Alters subtype.table := by
  rcases List.mem_append.1 mem with inColumns | inKeys
  · exact alters_of_mem_addKeyColumns inColumns
  · rcases List.mem_pair.1 inKeys with rfl | rfl <;> rfl

/-- The columns that an embedding adds, and its foreign key. -/
theorem embeddingStatements_eq (d : Classified) (node : Construct) (how : Embedding)
    (reference : Reference) :
    embeddingStatements d node how reference =
      ((reference.typedColumns.map fun typed =>
          ({ name := typed.1, sqlType := typed.2, notNull := how.notNull } : Column))
        ++ d.storedColumns node).map (.addColumn how.holder.table)
      ++ [.addForeignKey
          { table := how.holder.table
            constraint := "FK_" ++ how.holder.table ++ "_" ++ tableName node.label
            columns := reference.columns, refTable := how.target.table
            refColumns := reference.refColumns, deferrable := how.guarded }] := by
  rw [List.map_append, List.map_map]
  rfl

theorem alters_of_mem_embeddingStatements {d : Classified} {node : Construct} {how : Embedding}
    {reference : Reference} (mem : statement ∈ embeddingStatements d node how reference) :
    statement.Alters how.holder.table := by
  rcases List.mem_append.1 mem with inColumns | inKey
  · rcases List.mem_append.1 inColumns with own | stored
    · obtain ⟨_, _, rfl⟩ := List.mem_map.1 own
      rfl
    · obtain ⟨_, _, rfl⟩ := List.mem_map.1 stored
      rfl
  · obtain rfl := List.mem_singleton.1 inKey
    rfl

theorem alters_of_mem_junctionKeys {references : List Reference}
    (mem : statement ∈ junctionKeys table references) : statement.Alters table := by
  rcases List.mem_append.1 mem with inKeys | inPrimary
  · obtain ⟨_, _, rfl⟩ := List.mem_mapIdx.1 inKeys
    rfl
  · obtain rfl := List.mem_singleton.1 inPrimary
    rfl

theorem alters_of_mem_associativeStatements {references : List Reference}
    (mem : statement ∈ associativeStatements table references) : statement.Alters table := by
  rcases List.mem_append.1 mem with inColumns | inKeys
  · obtain ⟨_, _, rfl⟩ := List.mem_map.1 inColumns
    rfl
  · exact alters_of_mem_junctionKeys inKeys

/-- A reading finds nothing in alterations of a table that it does not look at. -/
theorem flatMap_eq_nil_of_alters {α : Type} {reading : Statement → List α}
    (blind : ∀ statement, statement.Alters table → reading statement = [])
    {statements : List Statement} (alters : ∀ statement ∈ statements, statement.Alters table) :
    statements.flatMap reading = [] :=
  List.flatMap_eq_nil_iff.2 fun statement mem => blind statement (alters statement mem)

end Alters

namespace Classified

variable {d : Classified} {keys : KeyTable}

/-! ## What a construct contributes -/

theorem statements_strongKeySketch (d : Classified) (keys : KeyTable) (entity : Construct) :
    (d.strongKeySketch keys entity).statements =
      if d.generalizationOf? entity = none ∧ keys entity ≠ [] then
        [primaryKey (tableName entity.label) ((keys entity).map (·.column))]
      else [] := by
  unfold strongKeySketch
  cases d.generalizationOf? entity with
  | some generalization => simp [Sketch.statements]
  | none =>
      by_cases keyless : keys entity = []
      · simp [keyless, Sketch.statements, Omission.sketch]
      · simp [keyless, Sketch.statements, Part.unnumbered]

theorem statements_weakKeySketch (d : Classified) (keys : KeyTable) (weak : Construct) :
    (d.weakKeySketch keys weak).statements =
      match d.partialKey? weak, d.ownerIn keys weak with
      | some partialKey, some owner =>
          weakKeyStatements (tableName weak.label) partialKey ((keys weak).drop 1) owner
      | _, _ => [] := by
  unfold weakKeySketch
  cases d.partialKey? weak with
  | none => rfl
  | some partialKey =>
      cases d.ownerIn keys weak with
      | none => rfl
      | some owner => exact Sketch.statements_of_map _ _ _

/-! ### Generalizations -/

def heirs (d : Classified) (keys : KeyTable) (generalization : Construct) : List KeyedEnd :=
  if d.writesKeys keys generalization then d.strongSubtypes generalization else []

theorem mem_ofKind_of_mem_heirs {generalization : Construct} {subtype : KeyedEnd}
    (heir : subtype ∈ d.heirs keys generalization) : subtype.node ∈ d.ofKind .strongEntity := by
  unfold heirs at heir
  split at heir
  · exact mem_ofKind_iff.2 (strongSubtype_spec heir)
  · simp at heir

theorem mem_subtypeEnds_of_mem_heirs {generalization : Construct} {subtype : KeyedEnd}
    (heir : subtype ∈ d.heirs keys generalization) :
    ∃ link, (link, subtype.node) ∈ d.subtypeEnds generalization := by
  unfold heirs at heir
  split at heir
  · obtain ⟨⟨link, node⟩, strong, rfl⟩ := List.mem_map.1 heir
    exact ⟨link, List.mem_of_mem_filter strong⟩
  · simp at heir

theorem ofKind_subset_entities {kind : NodeKind} (isEntity : kind.isEntity = true) :
    d.ofKind kind ⊆ d.ofKinds (·.isEntity) := by
  intro node inKind
  obtain ⟨inNodes, same⟩ := mem_ofKind_iff.1 inKind
  exact mem_ofKinds_iff.2 ⟨inNodes, same ▸ isEntity⟩

/-- Heirs are entities. -/
theorem mem_entities_of_mem_heirs {generalization : Construct} {subtype : KeyedEnd}
    (heir : subtype ∈ d.heirs keys generalization) : subtype.node ∈ d.ofKinds (·.isEntity) :=
  ofKind_subset_entities rfl (mem_ofKind_of_mem_heirs heir)

/-- A generalization with heirs contributes their keys and the triggers of the hierarchy. -/
theorem statements_generalizationSketch (d : Classified) (keys : KeyTable)
    (generalization : Construct) :
    (d.generalizationSketch keys generalization).statements =
      match d.superclassEnd? generalization with
      | none => []
      | some above =>
          if d.heirs keys generalization = [] then []
          else
            (d.heirs keys generalization).flatMap (subtypeKeyStatements (keys.endAt above))
              ++ (hierarchyPlans (keys.endAt above) (d.heirs keys generalization)
                    (generalization.kind == .generalizationDisjoint)
                    (d.isTotal generalization)).map (·.unnumbered) := by
  unfold generalizationSketch heirs writesKeys
  cases d.superclassEnd? generalization with
  | none => rfl
  | some above =>
      dsimp only
      by_cases childless : (d.subtypeEnds generalization).isEmpty
      · simp [List.isEmpty_iff.1 childless, strongSubtypes, Sketch.statements, Omission.sketch]
      by_cases keyless : (d.superclassKeys generalization).isEmpty
      · simp [childless, keyless, Sketch.statements, Omission.sketch]
      by_cases usable : (keys above.2).length = (d.superclassKeys generalization).length
      · have written : (!(d.superclassKeys generalization).isEmpty
            && (keys above.2).length == (d.superclassKeys generalization).length) = true := by
          simp [keyless, usable]
        rw [if_neg childless, if_neg keyless, if_pos usable, if_pos written]
        by_cases none : d.strongSubtypes generalization = []
        · simp [none, Sketch.statements]
        · rw [if_neg none, if_neg (by simpa using none)]
          simp only [Sketch.statements, hierarchyParts, List.map_append, List.map_flatMap,
            Sketch.statements_of_map, Sketch.statements_of_triggers]
      · simp [childless, keyless, usable, Sketch.statements]

/-! ### Relationships -/

/-- How a relationship is encoded. -/
inductive Encoding where
  | leftOut
  | junction (ends : List KeyedEnd)
  | embedding (how : Embedding)

/-- The encoding of a relationship with some ends. -/
def Encoding.ofEnds (ends : List KeyedEnd) : Encoding :=
  match Cardinality.ofEnds? (ends.map (·.link.kind)) with
  | none => .leftOut
  | some cardinality =>
      if ends.any (·.keys.isEmpty) then .leftOut
      else if cardinality = .manyToMany then .junction ends
      else
        match ends with
        | [first, second] => .embedding (.ofPair first second cardinality)
        | _ => .leftOut

def encodingIn (d : Classified) (keys : KeyTable) (node : Construct) : Encoding :=
  .ofEnds (d.relationshipEnds keys node)

/-- Both ends of an embedding take part in the relationship and have keys. -/
theorem ends_of_embedding {node : Construct} {how : Embedding}
    (encoded : d.encodingIn keys node = .embedding how) :
    how.holder ∈ d.relationshipEnds keys node ∧ how.target ∈ d.relationshipEnds keys node ∧
      ∀ place ∈ d.relationshipEnds keys node, place.keys ≠ [] := by
  unfold encodingIn Encoding.ofEnds at encoded
  split at encoded
  · cases encoded
  rename_i cardinality matched
  split at encoded
  · cases encoded
  rename_i keyed
  split at encoded
  · cases encoded
  split at encoded
  · rename_i first second pair
    obtain rfl := Encoding.embedding.inj encoded
    obtain ⟨holderIn, targetIn⟩ := mem_ofPair first second cardinality
    rw [pair] at keyed ⊢
    exact ⟨holderIn, targetIn, by simpa using keyed⟩
  · cases encoded

/-- The entity that holds an embedding is one of the diagram, and so is the other. -/
theorem mem_entities_of_embedding {node : Construct} {how : Embedding}
    (encoded : d.encodingIn keys node = .embedding how) :
    how.holder.node ∈ d.ofKinds (·.isEntity) ∧ how.target.node ∈ d.ofKinds (·.isEntity) := by
  obtain ⟨holderIn, targetIn, -⟩ := ends_of_embedding encoded
  have holder := places_of_mem_relationshipEnds holderIn
  have target := places_of_mem_relationshipEnds targetIn
  exact ⟨mem_ofKinds_iff.2 ⟨holder.inNodes, holder.isEntity⟩,
    mem_ofKinds_iff.2 ⟨target.inNodes, target.isEntity⟩⟩

/-- The reference that an embedding makes, with what is reserved before it. -/
def referenceAfter (d : Classified) (keys : KeyTable) (reserved : Reservations) (how : Embedding) :
    Reference :=
  embeddedReference (d.takenIn keys reserved how.holder.node) how

theorem unnumbered_junctionParts (site : Site) (table : String) (references : List Reference) :
    (junctionParts site table references).map Part.unnumbered = junctionKeys table references := by
  simp [junctionParts, junctionKeys, referenceKeys, Part.unnumbered, List.mapIdx_eq_zipIdx_map]

theorem statements_junctionSketch (d : Classified) (node : Construct) (ends : List KeyedEnd) :
    (d.junctionSketch node ends).statements = junctionStatements d node ends := by
  rw [junctionSketch, Sketch.statements, List.map_cons, unnumbered_junctionParts]
  rfl

theorem statements_embeddingSketch (d : Classified) (node : Construct) (how : Embedding)
    (reference : Reference) :
    (d.embeddingSketch node how reference).statements =
      embeddingStatements d node how reference
        ++ (embeddingPlans node how reference).map (·.unnumbered) := by
  rw [embeddingSketch, Sketch.statements, List.map_append, Sketch.statements_of_map,
    Sketch.statements_of_triggers]

/-- The sketch of a relationship by its encoding, and what is reserved after it. -/
theorem relationshipSketch_eq (d : Classified) (keys : KeyTable) (reserved : Reservations)
    (node : Construct) :
    ((d.relationshipSketch keys reserved node).1.statements,
        (d.relationshipSketch keys reserved node).2) =
      match d.encodingIn keys node with
      | .leftOut => ([], reserved)
      | .junction ends => (junctionStatements d node ends, reserved)
      | .embedding how =>
          (embeddingStatements d node how (d.referenceAfter keys reserved how)
              ++ (embeddingPlans node how (d.referenceAfter keys reserved how)).map (·.unnumbered),
            (how.holder.node.id, (d.referenceAfter keys reserved how).columns
              ++ d.takenIn keys reserved how.holder.node) :: reserved) := by
  unfold relationshipSketch encodingIn Encoding.ofEnds
  generalize d.relationshipEnds keys node = ends
  dsimp only
  cases Cardinality.ofEnds? (ends.map (·.link.kind)) with
  | none => rfl
  | some cardinality =>
      have keyless : (!((ends.filter (·.keys.isEmpty)).map (·.table)).isEmpty) =
          ends.any (·.keys.isEmpty) := by
        cases found : ends.any (·.keys.isEmpty) <;> simpa using found
      dsimp only
      rw [keyless]
      cases ends.any (·.keys.isEmpty) with
      | true => rfl
      | false =>
          by_cases many : cardinality = .manyToMany
          · subst many
            exact Prod.ext (statements_junctionSketch d node ends) rfl
          · simp only [Bool.false_eq_true, if_false, if_neg many]
            rcases ends with _ | ⟨first, _ | ⟨second, _ | ⟨third, others⟩⟩⟩
            · rfl
            · rfl
            · exact Prod.ext (statements_embeddingSketch _ _ _ _) rfl
            · rfl

/-- What a relationship contributes. -/
theorem statements_relationshipSketch (d : Classified) (keys : KeyTable) (reserved : Reservations)
    (node : Construct) :
    (d.relationshipSketch keys reserved node).1.statements =
      match d.encodingIn keys node with
      | .leftOut => []
      | .junction ends => junctionStatements d node ends
      | .embedding how =>
          embeddingStatements d node how (d.referenceAfter keys reserved how)
            ++ (embeddingPlans node how (d.referenceAfter keys reserved how)).map
                (·.unnumbered) := by
  have sketch := congrArg Prod.fst (relationshipSketch_eq d keys reserved node)
  dsimp only at sketch
  rw [sketch]
  cases d.encodingIn keys node <;> rfl

/-- What is reserved after a relationship. -/
theorem reserved_relationshipSketch (d : Classified) (keys : KeyTable) (reserved : Reservations)
    (node : Construct) :
    (d.relationshipSketch keys reserved node).2 =
      match d.encodingIn keys node with
      | .leftOut | .junction _ => reserved
      | .embedding how =>
          (how.holder.node.id, (d.referenceAfter keys reserved how).columns
            ++ d.takenIn keys reserved how.holder.node) :: reserved := by
  have sketch := congrArg Prod.snd (relationshipSketch_eq d keys reserved node)
  dsimp only at sketch
  rw [sketch]
  cases d.encodingIn keys node <;> rfl

/-- A reading to which it does not matter what is reserved. -/
theorem flatMap_relationshipSketches {α : Type} {reading : Statement → List α}
    {contribution : Construct → List α}
    (same : ∀ reserved node,
      (d.relationshipSketch keys reserved node).1.statements.flatMap reading = contribution node)
    (reserved : Reservations) (nodes : List Construct) :
    (d.relationshipSketches keys reserved nodes).flatMap (·.statements.flatMap reading) =
      nodes.flatMap contribution := by
  induction nodes generalizing reserved with
  | nil => rfl
  | cons node rest ih => rw [relationshipSketches, List.flatMap_cons, List.flatMap_cons, same, ih]

theorem statements_associativeSketch (d : Classified) (keys : KeyTable) (entity : Construct) :
    (d.associativeSketch keys entity).statements =
      if d.referencesIn keys entity = [] then []
      else associativeStatements (tableName entity.label) (d.referencesIn keys entity) := by
  unfold associativeSketch
  dsimp only
  by_cases none : d.referencesIn keys entity = []
  · simp [none, Sketch.statements, Omission.sketch]
  · rw [if_neg none, if_neg (by simpa using none), Sketch.statements, List.map_append,
      unnumbered_junctionParts, List.map_map]
    rfl

/-! ### What alters tables only -/

section Alterations

variable {α : Type} {reading : Statement → List α}
  (blind : ∀ (table : String) (statement : Statement), statement.Alters table →
    reading statement = [])

include blind

theorem flatMap_strongKeySketch_of_alters (d : Classified) (keys : KeyTable) (entity : Construct) :
    (d.strongKeySketch keys entity).statements.flatMap reading = [] := by
  rw [statements_strongKeySketch]
  split
  · rw [List.flatMap_singleton]
    exact blind (tableName entity.label) _ rfl
  · rfl

theorem flatMap_weakKeySketch_of_alters (d : Classified) (keys : KeyTable) (weak : Construct) :
    (d.weakKeySketch keys weak).statements.flatMap reading = [] := by
  rw [statements_weakKeySketch]
  split
  · exact flatMap_eq_nil_of_alters (blind _) fun _ => alters_of_mem_weakKeyStatements
  · rfl

theorem flatMap_subtypeKeyStatements_of_alters (superclass : KeyedEnd) (subtypes : List KeyedEnd) :
    (subtypes.flatMap (subtypeKeyStatements superclass)).flatMap reading = [] := by
  rw [List.flatMap_assoc, List.flatMap_eq_nil_iff]
  intro subtype _
  exact flatMap_eq_nil_of_alters (blind _) fun _ => alters_of_mem_subtypeKeyStatements

theorem flatMap_associativeSketch_of_alters (d : Classified) (keys : KeyTable)
    (entity : Construct) : (d.associativeSketch keys entity).statements.flatMap reading = [] := by
  rw [statements_associativeSketch]
  split
  · rfl
  · exact flatMap_eq_nil_of_alters (blind _) fun _ => alters_of_mem_associativeStatements

end Alterations

/-! ### Attributes -/

/-- The owner of a multivalued attribute that has a child table. -/
def childOwner? (d : Classified) (keys : KeyTable) (item : Construct) : Option Construct :=
  (d.ownerOf? item).filter fun owner => !(keys owner).isEmpty

theorem statements_multivaluedSketch (d : Classified) (keys : KeyTable) (surrogateType : String)
    (item : Construct) :
    (d.multivaluedSketch keys surrogateType item).statements =
      match d.childOwner? keys item with
      | none => []
      | some owner => childTableStatements surrogateType item owner (keys owner) := by
  unfold multivaluedSketch childOwner?
  cases d.ownerOf? item with
  | none => rfl
  | some owner =>
      cases keyless : (keys owner).isEmpty with
      | true => simp [keyless, Sketch.statements, Omission.sketch, Option.filter]
      | false =>
          simp only [keyless, Option.filter, Bool.not_false, if_true]
          exact Sketch.statements_of_map _ _ _

end Classified

/-! ## Scripts -/

open Classified

/-- The statements of a phase are those of its constructs. -/
theorem flatMap_outline {α : Type} (reading : Statement → List α) (settings : Settings)
    (d : Classified) (keys : KeyTable) :
    ((outline settings d keys).map Part.unnumbered).flatMap reading =
      Phase.all.flatMap fun phase =>
        (phase.sketches settings d keys).flatMap (·.statements.flatMap reading) := by
  simp only [outline, Phase.sketch, Sketch.concat, List.map_flatMap, List.flatMap_assoc]
  rfl

/-- What a reading finds in a script: what it finds in the contributions of the
constructs, phase by phase. -/
theorem Skims.flatMap_statements {α : Type} {reading : Statement → List α} (skims : Skims reading)
    {settings : Settings} {diagram : Diagram} {d : Classified} {result : CompileResult}
    (read : diagram.classify = .ok d) (compiled : compile settings diagram = .ok result) :
    result.statements.flatMap reading =
      (d.ofKinds ownedKinds.contains).flatMap (fun entity => reading (d.tableStatement entity))
        ++ ((d.ofKind .strongEntity).flatMap fun entity =>
              (d.strongKeySketch (keysAfter settings diagram d) entity).statements.flatMap reading)
        ++ ((d.ofKind .weakEntity).flatMap fun weak =>
              (d.weakKeySketch (keysAfter settings diagram d) weak).statements.flatMap reading)
        ++ ((d.ofKind .associativeEntity).flatMap fun entity => reading (d.tableStatement entity))
        ++ ((d.ofKinds (·.isGeneralization)).flatMap fun generalization =>
              (d.generalizationSketch (keysAfter settings diagram d)
                generalization).statements.flatMap reading)
        ++ ((d.relationshipSketches (keysAfter settings diagram d) []
              (d.ofKind .relationship)).flatMap (·.statements.flatMap reading))
        ++ ((d.ofKind .associativeEntity).flatMap fun entity =>
              (d.associativeSketch (keysAfter settings diagram d)
                entity).statements.flatMap reading)
        ++ ((d.ofKind .multivaluedAttribute).flatMap fun item =>
              (d.multivaluedSketch (keysAfter settings diagram d) settings.surrogateKeyType
                item).statements.flatMap reading) := by
  have tables : ∀ entity, (d.tableSketch entity).statements.flatMap reading =
      reading (d.tableStatement entity) := by
    intro entity
    simp [tableSketch, Sketch.statements, Part.unnumbered]
  have associative : d.ofKinds ([NodeKind.associativeEntity].contains ·) =
      d.ofKind .associativeEntity := by
    apply List.filter_congr
    intro node _
    cases node.kind <;> rfl
  rw [skims.flatMap_of_fits (statements_fit_outline read compiled), flatMap_outline]
  simp only [Phase.all, Phase.sketches, List.flatMap_cons, List.flatMap_nil, List.append_nil,
    List.flatMap_append, List.flatMap_map, skims.flatMap_viewSketches, associative, tables,
    List.append_assoc]

end EntitySchema
