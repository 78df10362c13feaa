/-
# EntitySchema.Proofs.TriggerNames -- when no trigger replaces another

Triggers are written so that a second one of the same name takes the place of the
first.  Their names are made of tables: that of the entity guarded, for a
relationship with its own name before it.  So a name comes twice where one entity
is guarded twice: as a subtype and as a superclass, or as a subtype of two
generalizations, or at both ends of one relationship (`twiceGuarded`).

`Classified.GuardedOnce` says what it takes: no entity has two guarded roles in
generalizations, none is guarded twice by a relationship, and no two relationships
make one name of different parts.  `trigger_names_distinct_exactly` shows that this
is enough and that nothing less is.
-/
import EntitySchema.Proofs.Skimming

namespace EntitySchema

set_option autoImplicit false

/-! ## Names of triggers -/

def Statement.triggerName : Statement → List String
  | .createTrigger trigger => [trigger.name]
  | _ => []

def triggerNames (statements : List Statement) : List String :=
  statements.flatMap (·.triggerName)

theorem skims_triggerName : Skims Statement.triggerName where
  trigger _ := rfl
  view _ _ := rfl

section Statements

theorem triggerNames_append (first second : List Statement) :
    triggerNames (first ++ second) = triggerNames first ++ triggerNames second :=
  List.flatMap_append

theorem triggerNames_unnumbered (plans : List TriggerPlan) :
    triggerNames (plans.map (·.unnumbered)) = plans.map (·.name) := by
  rw [triggerNames, List.flatMap_map, List.map_eq_flatMap]
  rfl

/-- An alteration of a table makes no trigger. -/
theorem triggerName_of_alters (table : String) (statement : Statement)
    (alters : statement.Alters table) : statement.triggerName = [] := by
  cases statement with
  | createTrigger => exact alters.elim
  | _ => rfl

end Statements

namespace Classified

variable {d : Classified} {keys : KeyTable}

/-! ## Guarded entities -/

/-- Whether a subtype has rules: it may not be left out, or it may not be shared. -/
def subtypeGuarded (d : Classified) (generalization : Construct) (heirs : List KeyedEnd)
    (subtype : KeyedEnd) : Bool :=
  d.isTotal generalization ||
    (generalization.kind == .generalizationDisjoint && !(siblingsOf heirs subtype).isEmpty)

/-- The entities that the triggers of a generalization guard. -/
def hierarchyGuards (d : Classified) (keys : KeyTable) (generalization : Construct) :
    List Construct :=
  let heirs := d.heirs keys generalization
  if heirs = [] then []
  else
    (if d.isTotal generalization then
        (d.superclassEnd? generalization).toList.map (·.2) else [])
      ++ (heirs.filter (d.subtypeGuarded generalization heirs)).map (·.node)

/-- The entities that the triggers of a relationship guard. -/
def relationshipGuards (d : Classified) (keys : KeyTable) (node : Construct) : List Construct :=
  match d.encodingIn keys node with
  | .embedding how => if how.guarded then [how.target.node, how.holder.node] else []
  | _ => []

/-- The name that a relationship gives to what guards an entity. -/
def guardName (node entity : Construct) : String :=
  tableName node.label ++ "_" ++ tableName entity.label

/-- No entity is guarded twice under one name. -/
structure GuardedOnce (d : Classified) (keys : KeyTable) : Prop where
  hierarchies : ((d.ofKinds (·.isGeneralization)).flatMap (d.hierarchyGuards keys)).Nodup
  relationships : ∀ node ∈ d.ofKind .relationship, (d.relationshipGuards keys node).Nodup
  spelled : ∀ first ∈ d.ofKind .relationship, ∀ second ∈ d.ofKind .relationship,
    ∀ one ∈ d.relationshipGuards keys first, ∀ other ∈ d.relationshipGuards keys second,
      guardName first one = guardName second other → first = second

/-! ## The triggers of a construct -/

theorem map_name_subtypePlan (superclass subtype : KeyedEnd) (siblings : List KeyedEnd)
    (disjoint total : Bool) :
    (subtypePlan? superclass subtype siblings disjoint total).map (·.name) =
      if total || (disjoint && !siblings.isEmpty) then some ("genspecTrigger_" ++ subtype.table)
      else none := by
  unfold subtypePlan? disjointRules
  cases total <;> cases disjoint <;> cases siblings <;> simp

/-- The triggers of a hierarchy are named after the tables they guard.  Nothing of the
generalization is in the name, which is why an entity that two of them guard has two triggers of one
name. -/
theorem map_name_hierarchyPlans (superclass : KeyedEnd) (subtypes : List KeyedEnd)
    (disjoint total : Bool) :
    (hierarchyPlans superclass subtypes disjoint total).map (·.name) =
      (if total then ["genspecTrigger_" ++ superclass.table] else [])
        ++ (subtypes.filter fun subtype =>
              total || (disjoint && !(siblingsOf subtypes subtype).isEmpty)).map
            ("genspecTrigger_" ++ ·.table) := by
  have chosen : (subtypes.filterMap fun subtype =>
        subtypePlan? superclass subtype (siblingsOf subtypes subtype) disjoint total).map
          (·.name) =
      (subtypes.filter fun subtype =>
          total || (disjoint && !(siblingsOf subtypes subtype).isEmpty)).map
        ("genspecTrigger_" ++ ·.table) := by
    rw [List.map_filterMap, ← List.filterMap_eq_map, List.filterMap_filter]
    simp only [map_name_subtypePlan, Function.comp_apply]
  rw [hierarchyPlans, List.map_append, chosen]
  cases total <;> rfl

/-- The triggers of a generalization, by the entities that they guard. -/
theorem triggerNames_generalizationSketch (d : Classified) (keys : KeyTable)
    (generalization : Construct) :
    triggerNames (d.generalizationSketch keys generalization).statements =
      (d.hierarchyGuards keys generalization).map ("genspecTrigger_" ++ tableName ·.label) := by
  have keysOnly : ∀ (superclass : KeyedEnd) (subtypes : List KeyedEnd),
      triggerNames (subtypes.flatMap (subtypeKeyStatements superclass)) = [] :=
    flatMap_subtypeKeyStatements_of_alters triggerName_of_alters
  rw [statements_generalizationSketch, hierarchyGuards]
  unfold subtypeGuarded
  cases found : d.superclassEnd? generalization with
  | none => simp [heirs, writesKeys, found, triggerNames]
  | some above =>
      dsimp only
      split
      · rfl
      · rw [triggerNames_append, keysOnly, List.nil_append, triggerNames_unnumbered,
          map_name_hierarchyPlans, List.map_append, List.map_map]
        cases d.isTotal generalization <;> rfl

/-- The triggers of a relationship are named after it and after the entity that they guard. -/
theorem triggerNames_relationshipSketch (d : Classified) (keys : KeyTable)
    (reserved : Reservations) (node : Construct) :
    triggerNames (d.relationshipSketch keys reserved node).1.statements =
      (d.relationshipGuards keys node).map ("relTrigger_" ++ guardName node ·) := by
  rw [statements_relationshipSketch, relationshipGuards]
  cases d.encodingIn keys node with
  | leftOut => rfl
  | junction ends =>
      have keysOnly :
          triggerNames (junctionKeys (junctionTable ends) (planReferences [] ends)) = [] :=
        flatMap_eq_nil_of_alters (triggerName_of_alters _) fun _ => alters_of_mem_junctionKeys
      exact keysOnly
  | embedding how =>
      have keyOnly : triggerNames
          (embeddingStatements d node how (d.referenceAfter keys reserved how)) = [] :=
        flatMap_eq_nil_of_alters (triggerName_of_alters _) fun _ =>
          alters_of_mem_embeddingStatements
      dsimp only
      rw [triggerNames_append, keyOnly, List.nil_append, triggerNames_unnumbered]
      unfold embeddingPlans
      cases guarded : how.guarded with
      | false => simp
      | true =>
          simp [targetPlan, holderPlan, guardName, KeyedEnd.table, String.append_assoc]

/-! ## The triggers of a script -/

variable {settings : Settings} {diagram : Diagram} {result : CompileResult}

/-- The triggers of a script, by the entities that they guard. -/
theorem triggerNames_statements (read : diagram.classify = .ok d)
    (compiled : compile settings diagram = .ok result) :
    triggerNames result.statements =
      ((d.ofKinds (·.isGeneralization)).flatMap
          (d.hierarchyGuards (keysAfter settings diagram d))).map
            ("genspecTrigger_" ++ tableName ·.label)
        ++ (d.ofKind .relationship).flatMap fun node =>
            (d.relationshipGuards (keysAfter settings diagram d) node).map
              ("relTrigger_" ++ guardName node ·) := by
  have tables : ∀ entity, (d.tableStatement entity).triggerName = [] := fun _ => rfl
  have multivalued : ∀ item, triggerNames (d.multivaluedSketch (keysAfter settings diagram d)
      settings.surrogateKeyType item).statements = [] := by
    intro item
    rw [statements_multivaluedSketch]
    split <;> rfl
  have hierarchies := triggerNames_generalizationSketch d (keysAfter settings diagram d)
  have relationships :=
    flatMap_relationshipSketches (triggerNames_relationshipSketch d (keysAfter settings diagram d))
      [] (d.ofKind .relationship)
  unfold triggerNames at multivalued hierarchies relationships ⊢
  rw [skims_triggerName.flatMap_statements read compiled]
  simp only [tables, flatMap_strongKeySketch_of_alters triggerName_of_alters,
    flatMap_weakKeySketch_of_alters triggerName_of_alters, hierarchies, relationships,
    flatMap_associativeSketch_of_alters triggerName_of_alters, multivalued,
    flatMap_nothing, List.nil_append, List.append_nil, List.map_flatMap]

/-! ## Distinct names -/

/-- A generalization guards entities only, on whichever side of it they are. -/
theorem mem_entities_of_mem_hierarchyGuards {generalization entity : Construct}
    (guarded : entity ∈ d.hierarchyGuards keys generalization) :
    entity ∈ d.ofKinds (·.isEntity) := by
  unfold hierarchyGuards at guarded
  dsimp only at guarded
  split at guarded
  · simp at guarded
  rcases List.mem_append.1 guarded with above | below
  · split at above
    · obtain ⟨superclass, found, rfl⟩ := List.mem_map.1 above
      obtain ⟨next, kind, _⟩ := superclassEnd_spec (Option.mem_toList.1 found)
      exact mem_ofKinds_iff.2 ⟨mem_nodes_of_mem_neighbours next, kind⟩
    · simp at above
  · obtain ⟨subtype, chosen, rfl⟩ := List.mem_map.1 below
    exact mem_entities_of_mem_heirs (List.mem_filter.1 chosen).1

theorem mem_entities_of_mem_relationshipGuards {node entity : Construct}
    (guarded : entity ∈ d.relationshipGuards keys node) : entity ∈ d.ofKinds (·.isEntity) := by
  unfold relationshipGuards at guarded
  split at guarded
  · rename_i how encoded
    obtain ⟨holderIn, targetIn⟩ := mem_entities_of_embedding encoded
    split at guarded
    · rcases List.mem_pair.1 guarded with rfl | rfl
      · exact targetIn
      · exact holderIn
    · simp at guarded
  · simp at guarded

section Distinct

variable (entities : ((d.ofKinds (·.isEntity)).map (tableName ·.label)).Nodup)

include entities

theorem hierarchyNames_nodup_iff :
    (((d.ofKinds (·.isGeneralization)).flatMap (d.hierarchyGuards keys)).map
        ("genspecTrigger_" ++ tableName ·.label)).Nodup ↔
      ((d.ofKinds (·.isGeneralization)).flatMap (d.hierarchyGuards keys)).Nodup := by
  apply nodup_map_iff_of_injOn
  intro one oneIn other otherIn same
  obtain ⟨_, _, oneGuarded⟩ := List.mem_flatMap.1 oneIn
  obtain ⟨_, _, otherGuarded⟩ := List.mem_flatMap.1 otherIn
  exact List.inj_on_of_nodup_map entities (mem_entities_of_mem_hierarchyGuards oneGuarded)
    (mem_entities_of_mem_hierarchyGuards otherGuarded) (by simpa using same)

theorem relationshipNames_nodup_iff (node : Construct) :
    ((d.relationshipGuards keys node).map ("relTrigger_" ++ guardName node ·)).Nodup ↔
      (d.relationshipGuards keys node).Nodup := by
  apply nodup_map_iff_of_injOn
  intro one oneIn other otherIn same
  exact List.inj_on_of_nodup_map entities (mem_entities_of_mem_relationshipGuards oneIn)
    (mem_entities_of_mem_relationshipGuards otherIn) (by simpa [guardName] using same)

omit entities in
theorem genspecTrigger_ne_relTrigger (first second : String) :
    "genspecTrigger_" ++ first ≠ "relTrigger_" ++ second := by
  intro same
  have letters := congrArg String.toList same
  simp [String.toList_append] at letters

/-- The triggers have names of their own exactly when no entity is guarded twice under
one name. -/
theorem names_nodup_iff :
    (((d.ofKinds (·.isGeneralization)).flatMap (d.hierarchyGuards keys)).map
          ("genspecTrigger_" ++ tableName ·.label)
        ++ (d.ofKind .relationship).flatMap fun node =>
            (d.relationshipGuards keys node).map ("relTrigger_" ++ guardName node ·)).Nodup ↔
      d.GuardedOnce keys := by
  have distinct : (d.ofKind .relationship).Nodup := d.nodes_nodup.filter _
  rw [List.nodup_append, hierarchyNames_nodup_iff entities, nodup_flatMap_iff distinct]
  constructor
  · rintro ⟨roles, ⟨each, across⟩, -⟩
    refine ⟨roles, fun node inKind => ?_, ?_⟩
    · exact (relationshipNames_nodup_iff entities node).1 (each node inKind)
    · intro first firstIn second secondIn one oneIn other otherIn spelled
      apply across first firstIn second secondIn ("relTrigger_" ++ guardName first one)
      · exact List.mem_map_of_mem oneIn
      · rw [spelled]
        exact List.mem_map_of_mem otherIn
  · rintro ⟨roles, each, spelled⟩
    refine ⟨roles, ⟨fun node inKind => ?_, ?_⟩, ?_⟩
    · exact (relationshipNames_nodup_iff entities node).2 (each node inKind)
    · intro first firstIn second secondIn name inFirst inSecond
      obtain ⟨one, oneIn, rfl⟩ := List.mem_map.1 inFirst
      obtain ⟨other, otherIn, same⟩ := List.mem_map.1 inSecond
      exact spelled first firstIn second secondIn one oneIn other otherIn (by simpa using same.symm)
    · intro first firstIn second secondIn
      obtain ⟨one, _, rfl⟩ := List.mem_map.1 firstIn
      obtain ⟨node, _, guarded⟩ := List.mem_flatMap.1 secondIn
      obtain ⟨other, _, rfl⟩ := List.mem_map.1 guarded
      exact genspecTrigger_ne_relTrigger _ _

end Distinct

end Classified

/-! ## Scripts -/

open Classified

/-- The triggers of a script have names of their own exactly when no entity is guarded
twice under one name. -/
theorem trigger_names_distinct_exactly {settings : Settings} {diagram : Diagram} {d : Classified}
    {result : CompileResult} (read : diagram.classify = .ok d)
    (compiled : compile settings diagram = .ok result)
    (entities : ((d.ofKinds (·.isEntity)).map (tableName ·.label)).Nodup) :
    (triggerNames result.statements).Nodup ↔ d.GuardedOnce (keysAfter settings diagram d) := by
  rw [triggerNames_statements read compiled]
  exact names_nodup_iff entities

/-- A total hierarchy below the subtype of another one. -/
def twiceGuarded : Diagram :=
  { nodes :=
      [.drawn "p" "P" "StrongEntity", .drawn "k" "k" "KeyAttribute",
       .drawn "g" "G" "GeneralizationDisjoint", .drawn "e" "E" "StrongEntity",
       .drawn "h" "H" "GeneralizationDisjoint", .drawn "s" "S" "StrongEntity"]
    connections :=
      [.drawn "1" "p" "k", .drawn "2" "g" "p" "DoubleLineGeneralization",
       .drawn "3" "g" "e" "GeneralizationToSubtype",
       .drawn "4" "h" "e" "DoubleLineGeneralization",
       .drawn "5" "h" "s" "GeneralizationToSubtype"]
    node_ids_nodup := by decide
    connection_ids_nodup := by decide }

/-- A trigger may be made twice under one name, and the second takes the place of the first: the
subtype of one total hierarchy is the superclass of another. -/
theorem twiceGuarded_trigger_replaced :
    ¬∀ (settings : Settings) (diagram : Diagram) (d : Classified) (result : CompileResult),
      diagram.classify = .ok d → compile settings diagram = .ok result →
        ((d.ofKinds (·.isEntity)).map (tableName ·.label)).Nodup →
        ((d.ofKind .relationship).map (tableName ·.label)).Nodup →
          (triggerNames result.statements).Nodup := by
  intro distinct
  have tables : classifiesTo twiceGuarded (fun d => decide
      (((d.ofKinds (·.isEntity)).map (tableName ·.label)).Nodup ∧
        ((d.ofKind .relationship).map (tableName ·.label)).Nodup)) = true := by decide +kernel
  have named : compilesTo {} twiceGuarded (fun statements => decide
      (triggerNames statements =
        ["genspecTrigger_P", "genspecTrigger_E", "genspecTrigger_E", "genspecTrigger_S"])) =
          true := by decide +kernel
  obtain ⟨d, read, holds⟩ := exists_of_classifiesTo tables
  obtain ⟨entities, relationships⟩ := of_decide_eq_true holds
  obtain ⟨result, compiled, names⟩ := exists_of_compilesTo named
  have once := distinct {} twiceGuarded d result read compiled entities relationships
  rw [of_decide_eq_true names] at once
  exact absurd once (by decide)

/-- A total and disjoint hierarchy of three, and a relationship with a guarded end. -/
def guardedApart : Diagram :=
  { nodes :=
      [.drawn "p" "P" "StrongEntity", .drawn "k" "k" "KeyAttribute",
       .drawn "g" "G" "GeneralizationDisjoint", .drawn "e" "E" "StrongEntity",
       .drawn "s" "S" "StrongEntity", .drawn "r" "R" "Relationship"]
    connections :=
      [.drawn "1" "p" "k", .drawn "2" "g" "p" "DoubleLineGeneralization",
       .drawn "3" "g" "e" "GeneralizationToSubtype",
       .drawn "4" "g" "s" "GeneralizationToSubtype",
       .drawn "5" "r" "e" "DoubleLineToOne", .drawn "6" "r" "s" "DoubleLineToMany"]
    node_ids_nodup := by decide
    connection_ids_nodup := by decide }

/-- A hierarchy and a relationship that guard the same entities do not meet in a name. -/
theorem guardedApart_trigger_names_distinct :
    ∃ d result, guardedApart.classify = .ok d ∧ compile {} guardedApart = .ok result ∧
      ((d.ofKinds (·.isEntity)).map (tableName ·.label)).Nodup ∧
      triggerNames result.statements =
        ["genspecTrigger_P", "genspecTrigger_E", "genspecTrigger_S", "relTrigger_R_E",
         "relTrigger_R_S"] ∧
      d.GuardedOnce (keysAfter {} guardedApart d) := by
  have tables : classifiesTo guardedApart (fun d => decide
      ((d.ofKinds (·.isEntity)).map (tableName ·.label)).Nodup) = true := by decide +kernel
  have named : compilesTo {} guardedApart (fun statements => decide
      (triggerNames statements =
        ["genspecTrigger_P", "genspecTrigger_E", "genspecTrigger_S", "relTrigger_R_E",
         "relTrigger_R_S"])) = true := by decide +kernel
  obtain ⟨d, read, holds⟩ := exists_of_classifiesTo tables
  obtain ⟨result, compiled, names⟩ := exists_of_compilesTo named
  have entities := of_decide_eq_true holds
  have exactly := trigger_names_distinct_exactly read compiled entities
  rw [of_decide_eq_true names] at exactly
  exact ⟨d, result, read, compiled, entities, of_decide_eq_true names, exactly.1 (by decide)⟩

end EntitySchema
