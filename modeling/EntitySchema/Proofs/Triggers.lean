/-
# EntitySchema.Proofs.Triggers -- the triggers of an outline

Triggers come from generalizations and from relationships that are embedded.
`Guards` says once which plans each of them makes, and every trigger of an outline
is one of those (`triggers_of_mem_sketch`), so what holds of all triggers is proved
by cases.

The first such fact: a trigger guards the table of an entity (`Guards.table_spec`).
-/
import EntitySchema.Proofs.References

namespace EntitySchema

set_option autoImplicit false

/-! ## Plans of a construct -/

section Plans

variable {plan : TriggerPlan}

theorem mem_hierarchyPlans_iff {superclass : KeyedEnd} {subtypes : List KeyedEnd}
    {disjoint total : Bool} :
    plan ∈ hierarchyPlans superclass subtypes disjoint total ↔
      (total = true ∧ plan = superclassPlan superclass subtypes) ∨
        ∃ subtype ∈ subtypes,
          subtypePlan? superclass subtype (siblingsOf subtypes subtype) disjoint total =
            some plan := by
  cases total <;> simp [hierarchyPlans]

theorem mem_embeddingPlans_iff {node : Construct} {how : Embedding} {reference : Reference} :
    plan ∈ embeddingPlans node how reference ↔
      how.guarded = true ∧
        (plan = targetPlan (tableName node.label) how.holder how.target reference ∨
          plan = holderPlan (tableName node.label) how.holder reference how.oneToOne) := by
  cases guarded : how.guarded <;> simp [embeddingPlans, guarded]

/-- What the trigger of a subtype is, if there is one. -/
theorem eq_of_subtypePlan {superclass subtype : KeyedEnd} {siblings : List KeyedEnd}
    {disjoint total : Bool}
    (planned : subtypePlan? superclass subtype siblings disjoint total = some plan) :
    plan.rules ≠ [] ∧
      plan =
        { name := "genspecTrigger_" ++ subtype.table
          table := subtype.table
          arity := siblings.length + (if total then 1 else 0)
          rules :=
            (if disjoint && !siblings.isEmpty then disjointRules subtype siblings else [])
              ++ (if total then [totalRule superclass subtype siblings] else []) } := by
  unfold subtypePlan? at planned
  dsimp only at planned
  generalize (if disjoint && !siblings.isEmpty then disjointRules subtype siblings else [])
    ++ (if total then [totalRule superclass subtype siblings] else []) = rules at planned ⊢
  split at planned
  · simp at planned
  · rename_i some
    obtain rfl := Option.some.inj planned
    exact ⟨by simpa using some, rfl⟩

/-- The trigger of a subtype guards its table, has a rule, and declares one variable for each
sibling and one more for the superclass if the generalization is total. -/
theorem subtypePlan_spec {superclass subtype : KeyedEnd} {siblings : List KeyedEnd}
    {disjoint total : Bool}
    (planned : subtypePlan? superclass subtype siblings disjoint total = some plan) :
    plan.table = subtype.table ∧
      plan.rules =
        (if disjoint && !siblings.isEmpty then disjointRules subtype siblings else [])
          ++ (if total then [totalRule superclass subtype siblings] else []) ∧
      plan.rules ≠ [] ∧ plan.arity = siblings.length + (if total then 1 else 0) := by
  obtain ⟨some, rfl⟩ := eq_of_subtypePlan planned
  exact ⟨rfl, rfl, some, rfl⟩

/-- A rule of a subtype is one of the two against its siblings or the one about the superclass
row. -/
theorem rules_of_subtypePlan {superclass subtype : KeyedEnd} {siblings : List KeyedEnd}
    {disjoint total : Bool}
    (planned : subtypePlan? superclass subtype siblings disjoint total = some plan)
    {rule : TriggerRule} (mem : rule ∈ plan.rules) :
    (siblings ≠ [] ∧ rule ∈ disjointRules subtype siblings) ∨
      (total = true ∧ rule = totalRule superclass subtype siblings) := by
  rw [(subtypePlan_spec planned).2.1] at mem
  rcases List.mem_append.1 mem with inDisjoint | inTotal
  · split at inDisjoint
    · rename_i both
      exact .inl ⟨by simpa using (Bool.and_eq_true_iff.1 both).2, inDisjoint⟩
    · exact absurd inDisjoint List.not_mem_nil
  · split at inTotal
    · rename_i isTotal
      exact .inr ⟨isTotal, List.mem_singleton.1 inTotal⟩
    · exact absurd inTotal List.not_mem_nil

/-! Rules of relationships count the rows that refer to a row before or after the event. -/

/-- What the counts of referring rows are compared with. -/
def referringComparisons : List String := ["= 0", "!= 0", "> 0", "<= 1"]

/-- A rule about the rows of the holder that refer by their columns to the key of a row. -/
def ReferringRule (holder : KeyedEnd) (columns key : List String) (rule : TriggerRule) : Prop :=
  ∃ event row, ∃ comparison ∈ referringComparisons,
    rule = referringRule event (" " ++ comparison)
      (referringCount holder columns (rowColumns row key))

variable {relationship : String} {holder target : KeyedEnd} {reference : Reference}
  {rule : TriggerRule}

theorem referringRule_of_mem_targetPlan
    (mem : rule ∈ (targetPlan relationship holder target reference).rules) :
    ReferringRule holder reference.columns reference.refColumns rule := by
  simp only [targetPlan, List.mem_cons, List.not_mem_nil, or_false] at mem
  rcases mem with rfl | rfl | rfl
  · exact ⟨_, _, "= 0", by decide, rfl⟩
  · exact ⟨_, _, "!= 0", by decide, rfl⟩
  · exact ⟨_, _, "!= 0", by decide, rfl⟩

theorem referringRule_of_mem_holderPlan {oneToOne : Bool}
    (mem : rule ∈ (holderPlan relationship holder reference oneToOne).rules) :
    ReferringRule holder reference.columns reference.columns rule := by
  simp only [holderPlan, List.mem_append, List.mem_cons, List.not_mem_nil, or_false] at mem
  rcases mem with first | rfl | rfl
  · split at first
    · obtain rfl := List.mem_singleton.1 first
      exact ⟨_, _, "> 0", by decide, rfl⟩
    · exact absurd first List.not_mem_nil
  · exact ⟨_, _, "<= 1", by decide, rfl⟩
  · exact ⟨_, _, "<= 1", by decide, rfl⟩

end Plans

namespace Part

def Triggers : Part → Prop
  | .plain (.createTrigger _) | .trigger _ => True
  | .plain _ | .reference _ _ _ => False

variable {part : Part} {site : Site} {target : Construct}

theorem triggers_of_fits {trigger : Trigger} (fits : part.Fits (.createTrigger trigger)) :
    part.Triggers := by
  cases part with
  | plain statement =>
      obtain rfl := Option.some.inj fits
      trivial
  | reference => exact absurd (Option.some.inj fits) (by simp)
  | trigger plan => trivial

theorem not_triggers_of_mem_map {statements : List Statement}
    (without : ∀ statement ∈ statements, ¬(plain statement).Triggers)
    (mem : part ∈ statements.map (Part.of site target)) : ¬part.Triggers := by
  obtain ⟨statement, inStatements, rfl⟩ := List.mem_map.1 mem
  have none := without statement inStatements
  cases statement <;> exact none

/-- Plans are not among the parts that statements become. -/
theorem trigger_not_mem_map_of (site : Site) (target : Construct) (statements : List Statement)
    (plan : TriggerPlan) : trigger plan ∉ statements.map (Part.of site target) := by
  intro mem
  obtain ⟨statement, _, impossible⟩ := List.mem_map.1 mem
  cases statement <;> exact Part.noConfusion impossible

theorem not_triggers_of_mem_addKeyColumns {table : String} {taken : List Key}
    {statement : Statement} (mem : statement ∈ addKeyColumns table taken) :
    ¬(plain statement).Triggers := by
  obtain ⟨key, _, rfl⟩ := List.mem_map.1 mem
  exact id

theorem not_triggers_of_mem_junctionParts {table : String} {references : List Reference}
    (mem : part ∈ Classified.junctionParts site table references) : ¬part.Triggers := by
  obtain inKeys | inPrimary := List.mem_append.1 mem
  · obtain ⟨position, inside, rfl⟩ := List.mem_mapIdx.1 inKeys
    exact id
  · obtain rfl := List.mem_singleton.1 inPrimary
    exact id

theorem not_triggers_of_mem_junctionSketch {d : Classified} {node : Construct}
    {ends : List KeyedEnd} (mem : part ∈ (d.junctionSketch node ends).parts) : ¬part.Triggers := by
  rcases List.mem_cons.1 mem with rfl | inKeys
  · exact id
  · exact not_triggers_of_mem_junctionParts inKeys

end Part

namespace Classified

/-! ## What guards what -/

/-- A trigger that a sketch makes in a phase. -/
inductive Guards (d : Classified) (keys : KeyTable) : Phase → Sketch → TriggerPlan → Prop
  | superclass {generalization : Construct} {above : Link × Construct} :
      generalization ∈ d.ofKinds (·.isGeneralization) →
        d.superclassEnd? generalization = some above → d.isTotal generalization = true →
          Guards d keys .generalizations (d.generalizationSketch keys generalization)
            (superclassPlan (keys.endAt above) (d.strongSubtypes generalization))
  | subtype {generalization : Construct} {above : Link × Construct} {subtype : KeyedEnd}
      {plan : TriggerPlan} :
      generalization ∈ d.ofKinds (·.isGeneralization) →
        d.superclassEnd? generalization = some above →
        subtype ∈ d.strongSubtypes generalization →
        subtypePlan? (keys.endAt above) subtype
            (siblingsOf (d.strongSubtypes generalization) subtype)
            (generalization.kind == .generalizationDisjoint) (d.isTotal generalization) =
          some plan →
          Guards d keys .generalizations (d.generalizationSketch keys generalization) plan
  | target {node : Construct} {how : Embedding} {taken : List String} :
      node ∈ d.ofKind .relationship → how.holder ∈ d.relationshipEnds keys node →
        how.target ∈ d.relationshipEnds keys node → how.guarded = true →
          Guards d keys .relationships (d.embeddingSketch node how (embeddedReference taken how))
            (targetPlan (tableName node.label) how.holder how.target (embeddedReference taken how))
  | holder {node : Construct} {how : Embedding} {taken : List String} :
      node ∈ d.ofKind .relationship → how.holder ∈ d.relationshipEnds keys node →
        how.target ∈ d.relationshipEnds keys node → how.guarded = true →
          Guards d keys .relationships (d.embeddingSketch node how (embeddedReference taken how))
            (holderPlan (tableName node.label) how.holder (embeddedReference taken how)
              how.oneToOne)

variable {d : Classified} {keys : KeyTable} {part : Part} {plan : TriggerPlan}

def MakesTrigger (d : Classified) (keys : KeyTable) (phase : Phase) (sketch : Sketch)
    (part : Part) : Prop :=
  ∃ plan, part = .trigger plan ∧ d.Guards keys phase sketch plan

/-- The triggers of a generalization are the plans for its sides, and it makes none if it is left
out. -/
theorem triggers_of_generalizationSketch {generalization : Construct}
    (inKinds : generalization ∈ d.ofKinds (·.isGeneralization))
    (mem : part ∈ (d.generalizationSketch keys generalization).parts) (triggers : part.Triggers) :
    d.MakesTrigger keys .generalizations (d.generalizationSketch keys generalization) part := by
  obtain none | ⟨above, found, _, _, parts⟩ := generalizationSketch_cases d keys generalization
  · simp [none] at mem
  rw [parts] at mem
  obtain inKeys | inTriggers := List.mem_append.1 mem
  · obtain ⟨subtype, _, inStatements⟩ := List.mem_flatMap.1 inKeys
    refine absurd triggers (Part.not_triggers_of_mem_map (fun statement made => ?_) inStatements)
    obtain inColumns | inRest := List.mem_append.1 made
    · exact Part.not_triggers_of_mem_addKeyColumns inColumns
    · simp only [List.mem_cons, List.not_mem_nil, or_false] at inRest
      rcases inRest with rfl | rfl <;> exact id
  · obtain ⟨plan, planned, rfl⟩ := List.mem_map.1 inTriggers
    obtain ⟨total, rfl⟩ | ⟨subtype, heir, made⟩ := mem_hierarchyPlans_iff.1 planned
    · exact ⟨_, rfl, .superclass inKinds found total⟩
    · exact ⟨plan, rfl, .subtype inKinds found heir made⟩

/-- Only an embedding has triggers, and only if it is guarded; a junction table has none. -/
theorem triggers_of_relationshipSketch {reserved : Reservations} {node : Construct}
    (inKind : node ∈ d.ofKind .relationship)
    (mem : part ∈ (d.relationshipSketch keys reserved node).1.parts) (triggers : part.Triggers) :
    d.MakesTrigger keys .relationships (d.relationshipSketch keys reserved node).1 part := by
  obtain none | ⟨_, _, same⟩ | ⟨how, holderIn, targetIn, _, same⟩ :=
    relationshipSketch_cases d keys reserved node
  · simp [none] at mem
  · rw [same] at mem
    exact absurd triggers (Part.not_triggers_of_mem_junctionSketch mem)
  · rw [same] at mem ⊢
    obtain inStatements | inTriggers := List.mem_append.1 mem
    · refine absurd triggers (Part.not_triggers_of_mem_map (fun statement made => ?_) inStatements)
      obtain inColumns | inKey := List.mem_append.1 made
      · obtain own | stored := List.mem_append.1 inColumns
        · obtain ⟨column, _, rfl⟩ := List.mem_map.1 own
          exact id
        · obtain ⟨column, _, rfl⟩ := List.mem_map.1 stored
          exact id
      · obtain rfl := List.mem_singleton.1 inKey
        exact id
    · obtain ⟨plan, planned, rfl⟩ := List.mem_map.1 inTriggers
      obtain ⟨guarded, rfl | rfl⟩ := mem_embeddingPlans_iff.1 planned
      · exact ⟨_, rfl, .target inKind holderIn targetIn guarded⟩
      · exact ⟨_, rfl, .holder inKind holderIn targetIn guarded⟩

theorem not_triggers_of_associativeSketch {entity : Construct}
    (mem : part ∈ (d.associativeSketch keys entity).parts) : ¬part.Triggers := by
  unfold associativeSketch at mem
  dsimp only at mem
  split at mem
  · simp [Omission.sketch] at mem
  · obtain inColumns | inKeys := List.mem_append.1 mem
    · obtain ⟨column, _, rfl⟩ := List.mem_map.1 inColumns
      exact id
    · exact Part.not_triggers_of_mem_junctionParts inKeys

theorem not_triggers_of_weakKeySketch {weak : Construct}
    (mem : part ∈ (d.weakKeySketch keys weak).parts) : ¬part.Triggers := by
  unfold weakKeySketch at mem
  split at mem
  · simp [Omission.sketch] at mem
  split at mem
  · simp [Omission.sketch] at mem
  refine Part.not_triggers_of_mem_map (fun statement made => ?_) mem
  obtain inColumns | inRest := List.mem_append.1 made
  · exact Part.not_triggers_of_mem_addKeyColumns inColumns
  · simp only [List.mem_cons, List.not_mem_nil, or_false] at inRest
    rcases inRest with rfl | rfl <;> exact id

theorem not_triggers_of_strongKeySketch {entity : Construct}
    (mem : part ∈ (d.strongKeySketch keys entity).parts) : ¬part.Triggers := by
  unfold strongKeySketch at mem
  split at mem
  · simp at mem
  split at mem
  · simp [Omission.sketch] at mem
  obtain rfl := List.mem_singleton.1 mem
  exact id

theorem not_triggers_of_multivaluedSketch {surrogateType : String} {item : Construct}
    (mem : part ∈ (d.multivaluedSketch keys surrogateType item).parts) : ¬part.Triggers := by
  unfold multivaluedSketch at mem
  split at mem
  · simp [Omission.sketch] at mem
  split at mem
  · simp [Omission.sketch] at mem
  refine Part.not_triggers_of_mem_map (fun statement made => ?_) mem
  simp only [childTableStatements, List.mem_cons, List.not_mem_nil, or_false] at made
  rcases made with rfl | rfl | rfl <;> exact id

/-- Every trigger of a sketch is one of those that `Guards` lists. -/
theorem triggers_of_mem_sketch {settings : Settings} {phase : Phase} {sketch : Sketch}
    (inPhase : sketch ∈ phase.sketches settings d keys) (mem : part ∈ sketch.parts)
    (triggers : part.Triggers) : d.MakesTrigger keys phase sketch part := by
  cases phase with
  | tables | associativeEntities =>
      obtain ⟨entity, _, rfl⟩ := List.mem_map.1 inPhase
      obtain rfl := List.mem_singleton.1 mem
      exact triggers.elim
  | primaryKeys =>
      obtain ⟨entity, _, rfl⟩ := List.mem_map.1 inPhase
      exact absurd triggers (not_triggers_of_strongKeySketch mem)
  | partialKeys =>
      obtain ⟨weak, _, rfl⟩ := List.mem_map.1 inPhase
      exact absurd triggers (not_triggers_of_weakKeySketch mem)
  | generalizations =>
      obtain ⟨generalization, inKinds, rfl⟩ := List.mem_map.1 inPhase
      exact triggers_of_generalizationSketch inKinds mem triggers
  | relationships =>
      obtain encoded | associative := List.mem_append.1 inPhase
      · obtain ⟨node, inKind, before, rfl⟩ := mem_relationshipSketches encoded
        exact triggers_of_relationshipSketch inKind mem triggers
      · obtain ⟨entity, _, rfl⟩ := List.mem_map.1 associative
        exact absurd triggers (not_triggers_of_associativeSketch mem)
  | multivaluedAttributes =>
      obtain ⟨item, _, rfl⟩ := List.mem_map.1 inPhase
      exact absurd triggers (not_triggers_of_multivaluedSketch mem)
  | derivedAttributes =>
      obtain none | ⟨name, query, view⟩ := parts_of_mem_viewSketches inPhase
      · simp [none] at mem
      · rw [view] at mem
        obtain rfl := List.mem_singleton.1 mem
        exact triggers.elim

/-! ## Guarded tables -/

/-- A strong subtype is a strong entity of the diagram. -/
theorem strongSubtype_spec {generalization : Construct} {subtype : KeyedEnd}
    (heir : subtype ∈ d.strongSubtypes generalization) :
    subtype.node ∈ d.nodes ∧ subtype.node.kind = .strongEntity := by
  obtain ⟨⟨link, other⟩, chosen, rfl⟩ := List.mem_map.1 heir
  obtain ⟨inEnds, strong⟩ := List.mem_filter.1 chosen
  exact ⟨mem_nodes_of_mem_neighbours (mem_subtypeEnds_iff.1 inEnds).1, beq_iff_eq.1 strong⟩

/-- A trigger guards the table of an entity. -/
theorem Guards.table_spec {phase : Phase} {sketch : Sketch}
    (guards : d.Guards keys phase sketch plan) :
    ∃ entity ∈ d.nodes, entity.kind.isEntity = true ∧ plan.table = tableName entity.label := by
  cases guards with
  | superclass _ found =>
      obtain ⟨next, kind, _⟩ := superclassEnd_spec found
      exact ⟨_, mem_nodes_of_mem_neighbours next, kind, rfl⟩
  | subtype _ _ heir planned =>
      obtain ⟨inNodes, strong⟩ := strongSubtype_spec heir
      exact ⟨_, inNodes, by simp [strong, NodeKind.isEntity], (subtypePlan_spec planned).1⟩
  | target _ _ targetIn =>
      have placed := places_of_mem_relationshipEnds targetIn
      exact ⟨_, placed.inNodes, placed.isEntity, rfl⟩
  | holder _ holderIn =>
      have placed := places_of_mem_relationshipEnds holderIn
      exact ⟨_, placed.inNodes, placed.isEntity, rfl⟩

/-- Triggers are made for generalizations and relationships. -/
theorem Guards.phase_eq {phase : Phase} {sketch : Sketch}
    (guards : d.Guards keys phase sketch plan) :
    phase = .generalizations ∨ phase = .relationships := by
  cases guards with
  | superclass | subtype => exact .inl rfl
  | target | holder => exact .inr rfl

end Classified

end EntitySchema
