/-
# EntitySchema.Proofs.HierarchyTriggers -- which triggers a generalization makes

Whether a generalization is total, whether it is disjoint and how many strong subtypes it has
decide which triggers stand behind the keys of its subtypes and what they watch:

* the superclass has a trigger if the generalization is total;
* the subtypes have triggers, one each, if it is total or if it is disjoint and there are at
  least two of them;
* the blocks about new and changed keys are there in the second case, the block about deleted
  rows in the first.

`GuardsHierarchy` says so of the plans, and what their blocks count.  A subtype is told from its
siblings by its node, so where no node is a subtype twice the siblings are all others
(`cons_siblingsOf_perm`).  `hierarchyRaises` is how many numbers the plans take.
-/
import EntitySchema.Proofs.AnyRun
import EntitySchema.Proofs.TriggerBodies
import EntitySchema.Proofs.Wholeness

namespace EntitySchema

set_option autoImplicit false

/-! ## What the triggers watch -/

/-- Counts of the rows that hold a key in some tables, one for each table and in order, and each
into a variable of its own. -/
structure CountsHolders (places : List KeyedEnd) (references : List String)
    (counts : List RowCount) : Prop where
  each : List.Forall₂ (fun place count => count.table = place.table ∧
    count.columns = place.columns ∧ count.references = references) places counts
  apart : (counts.map (·.variableName)).Nodup

/-- The trigger of a superclass: a new row needs a row in some subtype. -/
structure GuardsSuperclass (superclass : KeyedEnd) (subtypes : List KeyedEnd)
    (plan : TriggerPlan) : Prop where
  name : plan.name = "genspecTrigger_" ++ superclass.table
  table : plan.table = superclass.table
  rules : ∃ counts, CountsHolders subtypes (rowColumns ":n" superclass.columns) counts ∧
    plan.rules =
      [{ event := "INSERTING", counts
         violation := sumOf (counts.map (·.variableName)) ++ " < 1" }]

/-- The rules of a subtype that no sibling may hold its key, new or changed. -/
def KeepsApart (subtype : KeyedEnd) (others : List KeyedEnd) (rules : List TriggerRule) : Prop :=
  ∃ counts, CountsHolders others (rowColumns ":n" subtype.columns) counts ∧
    rules = ["INSERTING", "UPDATING AND (" ++ changed subtype.columns ++ ")"].map fun event =>
      { event, counts, violation := sumOf (counts.map (·.variableName)) ++ " != 0" }

/-- The rule of a subtype that a row which stays in the superclass needs a row in a sibling. -/
def KeepsCovered (superclass subtype : KeyedEnd) (others : List KeyedEnd) (rule : TriggerRule) :
    Prop :=
  ∃ parent counts, parent.table = superclass.table ∧ parent.columns = superclass.columns ∧
    parent.references = rowColumns ":o" subtype.columns ∧
    CountsHolders others (rowColumns ":o" subtype.columns) counts ∧
    parent.variableName ∉ counts.map (·.variableName) ∧
    rule =
      { event := "DELETING", counts := parent :: counts
        violation := parent.variableName ++ " > 0 AND "
          ++ sumOf (counts.map (·.variableName)) ++ " < 1" }

/-- The trigger of a subtype, beside all other subtypes and never itself. -/
structure GuardsSubtype (disjoint total : Bool) (superclass : KeyedEnd) (subtypes : List KeyedEnd)
    (subtype : KeyedEnd) (plan : TriggerPlan) : Prop where
  name : plan.name = "genspecTrigger_" ++ subtype.table
  table : plan.table = subtype.table
  rules : ∃ others apart covered, (subtype :: others).Perm subtypes ∧
    subtype.node ∉ others.map (·.node) ∧ plan.rules = apart ++ covered ∧
    (if disjoint ∧ 2 ≤ subtypes.length then KeepsApart subtype others apart else apart = []) ∧
    (if total then ∃ rule, covered = [rule] ∧ KeepsCovered superclass subtype others rule
      else covered = [])

/-- The triggers of a generalization: that of the superclass, then those of the subtypes. -/
def GuardsHierarchy (disjoint total : Bool) (superclass : KeyedEnd) (subtypes : List KeyedEnd)
    (plans : List TriggerPlan) : Prop :=
  ∃ above below, plans = above ++ below ∧
    (if total then ∃ plan, above = [plan] ∧ GuardsSuperclass superclass subtypes plan
      else above = []) ∧
    (if total ∨ disjoint ∧ 2 ≤ subtypes.length then
      List.Forall₂ (GuardsSubtype disjoint total superclass subtypes) subtypes below
      else below = [])

/-- How many numbers the triggers of a generalization take. -/
def hierarchyRaises (disjoint total : Bool) (count : Nat) : Nat :=
  (if total then 1 + count else 0) + (if disjoint ∧ 2 ≤ count then 2 * count else 0)

/-! ## Lists of triggers -/

section Lists

variable {α β : Type} {R : α → β → Prop}

theorem forall₂_filterMap {make : α → Option β} {items : List α}
    (made : ∀ item ∈ items, ∃ b, make item = some b ∧ R item b) :
    List.Forall₂ R items (items.filterMap make) := by
  induction items with
  | nil => exact .nil
  | cons item rest ih =>
      obtain ⟨b, here, related⟩ := made item List.mem_cons_self
      rw [List.filterMap_cons_some here]
      exact .cons related (ih fun other mem => made other (List.mem_cons_of_mem item mem))

theorem sum_map_of_forall₂ {size : β → Nat} {count : Nat} {items : List α} {values : List β}
    (each : ∀ item b, R item b → size b = count) (related : List.Forall₂ R items values) :
    (values.map size).sum = items.length * count := by
  induction related with
  | nil => simp
  | cons here _ ih =>
      rw [List.map_cons, List.sum_cons, ih, each _ _ here, List.length_cons, Nat.add_mul,
        Nat.one_mul, Nat.add_comm]

end Lists

/-! ## Siblings -/

section Siblings

variable {superclass subtype : KeyedEnd} {subtypes : List KeyedEnd} {disjoint total : Bool}

theorem variableName_injective : Function.Injective TriggerDraft.variableName := by
  intro first second same
  have digits : toString first = toString second := by
    simpa [TriggerDraft.variableName] using same
  exact toString_injective digits

theorem countsHolders_holderCounts (places : List KeyedEnd) (references : List String) :
    CountsHolders places references (holderCounts places references) where
  each := forall₂_mapIdx fun _ _ _ => ⟨rfl, rfl, rfl⟩
  apart := by
    rw [map_variableName_holderCounts]
    exact List.nodup_range.map variableName_injective

/-- With its siblings a subtype makes up all subtypes, if none has the id of another. -/
theorem cons_siblingsOf_perm (distinct : (subtypes.map (·.node.id)).Nodup)
    (mem : subtype ∈ subtypes) : (subtype :: siblingsOf subtypes subtype).Perm subtypes := by
  have others : siblingsOf subtypes subtype = subtypes.filter (· != subtype) := by
    refine List.filter_congr fun other inSubtypes => ?_
    have same : other.node.id = subtype.node.id ↔ other = subtype :=
      ⟨fun alike => List.inj_on_of_nodup_map distinct inSubtypes mem alike,
        fun alike => by rw [alike]⟩
    rw [Bool.eq_iff_iff, bne_iff_ne, bne_iff_ne, ne_eq, same]
  rw [others, ← (List.Nodup.of_map _ distinct).erase_eq_filter]
  exact (List.perm_cons_erase mem).symm

theorem node_notMem_siblingsOf (subtypes : List KeyedEnd) (subtype : KeyedEnd) :
    subtype.node ∉ (siblingsOf subtypes subtype).map (·.node) := by
  intro mem
  obtain ⟨other, inSiblings, same⟩ := List.mem_map.1 mem
  obtain ⟨_, apart⟩ := List.mem_filter.1 inSiblings
  simp [same] at apart

/-! ## The plans of a generalization -/

theorem keepsApart_disjointRules (subtype : KeyedEnd) (siblings : List KeyedEnd) :
    KeepsApart subtype siblings (disjointRules subtype siblings) := by
  refine ⟨_, countsHolders_holderCounts siblings _, ?_⟩
  rw [map_variableName_holderCounts, disjointRules, List.map_cons, List.map_singleton]

theorem keepsCovered_totalRule (superclass subtype : KeyedEnd) (siblings : List KeyedEnd) :
    KeepsCovered superclass subtype siblings (totalRule superclass subtype siblings) := by
  refine ⟨{ variableName := TriggerDraft.variableName siblings.length, table := superclass.table
            columns := superclass.columns, references := rowColumns ":o" subtype.columns },
    _, rfl, rfl, rfl, countsHolders_holderCounts siblings _, ?_, ?_⟩
  · rw [map_variableName_holderCounts]
    intro mem
    obtain ⟨position, inRange, same⟩ := List.mem_map.1 mem
    rw [variableName_injective same] at inRange
    exact absurd (List.mem_range.1 inRange) (Nat.lt_irrefl _)
  · rw [map_variableName_holderCounts, totalRule]

theorem guardsSuperclass_superclassPlan (superclass : KeyedEnd) (subtypes : List KeyedEnd) :
    GuardsSuperclass superclass subtypes (superclassPlan superclass subtypes) where
  name := rfl
  table := rfl
  rules := by
    refine ⟨_, countsHolders_holderCounts subtypes _, ?_⟩
    rw [map_variableName_holderCounts, superclassPlan]

variable (distinct : (subtypes.map (·.node.id)).Nodup) (mem : subtype ∈ subtypes)

include distinct mem

theorem siblings_ne_nil_iff : siblingsOf subtypes subtype ≠ [] ↔ 2 ≤ subtypes.length := by
  have all := (cons_siblingsOf_perm distinct mem).length_eq
  rw [List.length_cons] at all
  rw [← List.length_pos_iff]
  omega

/-- The trigger of a subtype is there, and as described, exactly if one of its blocks is. -/
theorem guardsSubtype_subtypePlan :
    if total ∨ disjoint ∧ 2 ≤ subtypes.length then
      ∃ plan, subtypePlan? superclass subtype (siblingsOf subtypes subtype) disjoint total =
          some plan ∧ GuardsSubtype disjoint total superclass subtypes subtype plan
    else subtypePlan? superclass subtype (siblingsOf subtypes subtype) disjoint total = none := by
  have several : (disjoint && !(siblingsOf subtypes subtype).isEmpty) = true ↔
      disjoint ∧ 2 ≤ subtypes.length := by
    rw [← siblings_ne_nil_iff distinct mem, Bool.and_eq_true, Bool.not_eq_true',
      List.isEmpty_eq_false_iff]
  simp only [subtypePlan?, several]
  by_cases guarded : total ∨ disjoint ∧ 2 ≤ subtypes.length
  · have some : ((if disjoint ∧ 2 ≤ subtypes.length then
          disjointRules subtype (siblingsOf subtypes subtype) else [])
        ++ if total then [totalRule superclass subtype (siblingsOf subtypes subtype)]
          else []).isEmpty = false := by
      obtain covered | apart := guarded
      · simp [covered]
      · simp [apart, disjointRules]
    rw [if_pos guarded]
    refine ⟨_, if_neg (by rw [some]; exact Bool.false_ne_true), rfl, rfl, _, _, _,
      cons_siblingsOf_perm distinct mem, node_notMem_siblingsOf subtypes subtype, rfl, ?_, ?_⟩
    · split
      · exact keepsApart_disjointRules subtype _
      · rfl
    · split
      · exact ⟨_, rfl, keepsCovered_totalRule superclass subtype _⟩
      · rfl
  · obtain ⟨partly, overlapping⟩ := not_or.1 guarded
    rw [if_neg guarded, if_neg partly, if_neg overlapping]
    rfl

omit mem in
/-- The plans that a generalization drafts are the triggers that its sides call for, in this order
and with the tables, columns and conditions that `GuardsSuperclass` and `GuardsSubtype` spell out.
-/
theorem guardsHierarchy_hierarchyPlans : GuardsHierarchy disjoint total superclass subtypes
    (hierarchyPlans superclass subtypes disjoint total) := by
  have each : ∀ subtype ∈ subtypes, if total ∨ disjoint ∧ 2 ≤ subtypes.length then
        ∃ plan, subtypePlan? superclass subtype (siblingsOf subtypes subtype) disjoint total =
          some plan ∧ GuardsSubtype disjoint total superclass subtypes subtype plan
      else subtypePlan? superclass subtype (siblingsOf subtypes subtype) disjoint total = none :=
    fun subtype mem => guardsSubtype_subtypePlan distinct mem
  refine ⟨_, _, rfl, ?_, ?_⟩
  · split
    · exact ⟨_, rfl, guardsSuperclass_superclassPlan superclass subtypes⟩
    · rfl
  · by_cases guarded : total ∨ disjoint ∧ 2 ≤ subtypes.length
    · simp only [if_pos guarded] at each ⊢
      exact forall₂_filterMap each
    · simp only [if_neg guarded] at each ⊢
      exact List.filterMap_eq_nil_iff.2 each

end Siblings

/-! ## How many numbers they take -/

/-- How many rules a subtype has is read off the generalization: two against siblings if there are
any to be kept apart from, and one against rows left without a subtype. -/
theorem GuardsSubtype.length_rules {disjoint total : Bool} {superclass subtype : KeyedEnd}
    {subtypes : List KeyedEnd} {plan : TriggerPlan}
    (guards : GuardsSubtype disjoint total superclass subtypes subtype plan) :
    plan.rules.length =
      (if disjoint ∧ 2 ≤ subtypes.length then 2 else 0) + if total then 1 else 0 := by
  obtain ⟨others, apart, covered, _, _, rules, keepsApart, keepsCovered⟩ := guards.rules
  have early : apart.length = if disjoint ∧ 2 ≤ subtypes.length then 2 else 0 := by
    split at keepsApart <;> rename_i several
    · obtain ⟨_, _, rfl⟩ := keepsApart
      rw [if_pos several]
      rfl
    · rw [keepsApart, if_neg several, List.length_nil]
  have late : covered.length = if total then 1 else 0 := by
    split at keepsCovered <;> rename_i isTotal
    · obtain ⟨_, rfl, _⟩ := keepsCovered
      rw [if_pos isTotal, List.length_singleton]
    · rw [keepsCovered, if_neg isTotal, List.length_nil]
  rw [rules, List.length_append, early, late]

/-- The triggers of a generalization take one number for every block. -/
theorem GuardsHierarchy.sum_rules {disjoint total : Bool} {superclass : KeyedEnd}
    {subtypes : List KeyedEnd} {plans : List TriggerPlan}
    (guards : GuardsHierarchy disjoint total superclass subtypes plans) :
    (plans.map fun plan => plan.rules.length).sum =
      hierarchyRaises disjoint total subtypes.length := by
  obtain ⟨above, below, rfl, top, others⟩ := guards
  have first : (above.map fun plan => plan.rules.length).sum = if total then 1 else 0 := by
    split at top <;> rename_i isTotal
    · obtain ⟨plan, rfl, covers⟩ := top
      obtain ⟨_, _, rules⟩ := covers.rules
      simp [rules, isTotal]
    · simp [top, isTotal]
  have rest : (below.map fun plan => plan.rules.length).sum = subtypes.length *
      ((if disjoint ∧ 2 ≤ subtypes.length then 2 else 0) + if total then 1 else 0) := by
    split at others
    · exact sum_map_of_forall₂ (fun _ _ guards => guards.length_rules) others
    · rename_i unguarded
      obtain ⟨partly, overlapping⟩ := not_or.1 unguarded
      rw [others, if_neg overlapping, if_neg partly]
      rfl
  rw [List.map_append, List.sum_append, first, rest, hierarchyRaises]
  by_cases apart : disjoint ∧ 2 ≤ subtypes.length
  · cases total <;> simp only [apart, and_self, if_true, Bool.false_eq_true, if_false] <;> omega
  · cases total <;> simp only [apart, if_true, Bool.false_eq_true, if_false] <;> omega

/-! ## Encoded generalizations -/

namespace Classified

variable {d : Classified}

/-- What a generalization that makes statements in the middle of a run has made, and which
numbers it has taken: the keys of its strong subtypes, each referring to the key that is found
for the superclass, and the triggers of the hierarchy. -/
def HierarchyEncoded (d : Classified) (message : String) (generalization : Construct)
    (before after : Run) (statements : List Statement) : Prop :=
  let disjoint := generalization.kind == .generalizationDisjoint
  let total := d.isTotal generalization
  let subtypes := d.strongSubtypes generalization
  ∃ above superclass groups plans,
    d.superclassEnd? generalization = some above ∧
    superclass = { node := above.2, link := above.1
                   keys := (d.tableKey above.2).answer before.session } ∧
    subtypes ≠ [] ∧ d.superclassKeys generalization ≠ [] ∧
    List.Forall₂ (d.KeysSubtype generalization superclass)
      ((d.subtypeEnds generalization).filter (·.2.kind == .strongEntity)) groups ∧
    GuardsHierarchy disjoint total superclass subtypes plans ∧
    statements =
      groups.flatten ++ (issuedFrom message before.codes.next plans).map .createTrigger ∧
    after.codes = before.codes.advance (hierarchyRaises disjoint total subtypes.length)

theorem raisesIn_hierarchyParts (generalization : Construct) (superclass : KeyedEnd) :
    raisesIn (d.hierarchyParts generalization superclass) =
      ((hierarchyPlans superclass (d.strongSubtypes generalization)
        (generalization.kind == .generalizationDisjoint) (d.isTotal generalization)).map
          fun plan => plan.rules.length).sum := by
  rw [hierarchyParts, raisesIn_append, raisesIn_plans,
    raisesIn_of_unplanned (unplanned_subtypeKeys generalization superclass), Nat.zero_add]

theorem mem_nodes_of_mem_strongSubtypes {generalization : Construct} {subtype : KeyedEnd}
    (mem : subtype ∈ d.strongSubtypes generalization) : subtype.node ∈ d.nodes := by
  obtain ⟨neighbour, chosen, rfl⟩ := List.mem_map.1 mem
  exact mem_nodes_of_mem_neighbours (mem_subtypeEnds_iff.1 (List.mem_filter.1 chosen).1).1

/-- A generalization whose strong subtypes are distinct keys them and guards the hierarchy as its
constraints demand, no more and no less. -/
theorem generalization_encoded {message : String} {generalization : Construct}
    (listed : generalization ∈ d.ofKinds (·.isGeneralization)) {run after : Run} {output : Output}
    (ran : outcome (generalizationRules d message generalization) run = (.ok output, after))
    (emits : output.statements ≠ [])
    (distinct : ((d.strongSubtypes generalization).map (·.node)).Nodup) :
    d.HierarchyEncoded message generalization run after output.statements := by
  have ids : ((d.strongSubtypes generalization).map (·.node.id)).Nodup := by
    rw [← Function.comp_def, ← List.map_map]
    refine distinct.map_on fun node mem other memToo same => ?_
    obtain ⟨subtype, heir, rfl⟩ := List.mem_map.1 mem
    obtain ⟨sibling, heirToo, rfl⟩ := List.mem_map.1 memToo
    exact eq_of_id_eq (mem_nodes_of_mem_strongSubtypes heir)
      (mem_nodes_of_mem_strongSubtypes heirToo) same
  obtain ⟨same, codes⟩ := generalizationRules_ran ran
  have some : (d.generalizationSketch after.keys generalization).parts ≠ [] := by
    intro none
    rw [same, Sketch.numbered, none] at emits
    exact emits rfl
  obtain none | ⟨above, found, keyed, usable, parts⟩ :=
    generalizationSketch_cases d after.keys generalization
  · exact absurd none some
  have someStrong := strongSubtypes_ne_nil some
  have someSubtype : d.subtypeEnds generalization ≠ [] := by
    intro none
    simp [strongSubtypes, none] at someStrong
  have answered := superclassKey_ran listed found someSubtype keyed ran
  have guards : GuardsHierarchy (generalization.kind == .generalizationDisjoint)
      (d.isTotal generalization) (after.keys.endAt above) (d.strongSubtypes generalization) _ :=
    guardsHierarchy_hierarchyPlans ids
  have numbered := congrArg Output.statements (numbered_hierarchyParts (d := d) generalization
    (after.keys.endAt above) output.issues message run.codes.next)
  have emitted : output.statements = _ :=
    (congrArg Output.statements same).trans
      ((congrArg (numberParts message run.codes.next) parts).trans numbered)
  refine ⟨above, after.keys.endAt above, _, _, found, ?_, someStrong, keyed, ?_, guards, emitted, ?_⟩
  · rw [answered]
    rfl
  · exact List.forall₂_map_right_iff.2 (List.forall₂_same.2 fun neighbour _ =>
      keysSubtype usable neighbour)
  · rw [codes, parts, raisesIn_hierarchyParts, guards.sum_rules]

end Classified

open Classified

/-- A total and disjoint generalization of two strong entities, with a weak entity between them;
the key of the superclass has two columns. -/
def mixedSubtypes : Diagram :=
  { nodes :=
      [.drawn "s" "S" "StrongEntity", .drawn "k" "k" "KeyAttribute",
       .drawn "l" "l" "KeyAttribute", .drawn "g" "G" "GeneralizationDisjoint",
       .drawn "a" "A" "StrongEntity", .drawn "w" "W" "WeakEntity", .drawn "b" "B" "StrongEntity"]
    connections :=
      [.drawn "1" "s" "k", .drawn "2" "s" "l", .drawn "3" "g" "s" "DoubleLineGeneralization",
       .drawn "4" "g" "a" "GeneralizationToSubtype", .drawn "5" "g" "w" "GeneralizationToSubtype",
       .drawn "6" "g" "b" "GeneralizationToSubtype"]
    node_ids_nodup := by decide
    connection_ids_nodup := by decide }

/-- The two strong subtypes are keyed, and the three triggers of the hierarchy take seven
numbers. -/
theorem mixedSubtypes_encoded :
    ∃ d, mixedSubtypes.classify = .ok d ∧ ∃ generalization ∈ d.ofKinds (·.isGeneralization),
      ((d.strongSubtypes generalization).map (·.node)).Nodup ∧
      ∃ output after, outcome (generalizationRules d "" generalization) (Run.start 20000) =
          (.ok output, after) ∧
        output.statements ≠ [] ∧ after.codes = ⟨20000, 7⟩ ∧
        d.HierarchyEncoded "" generalization (Run.start 20000) after output.statements := by
  have checked : classifiesTo mixedSubtypes (fun d =>
      (d.ofKinds (·.isGeneralization)).any fun generalization =>
        decide ((d.strongSubtypes generalization).map (·.node)).Nodup
          && (outcome (generalizationRules d "" generalization) (Run.start 20000)).1.toOption.any
              (!·.statements.isEmpty)
          && decide ((outcome (generalizationRules d "" generalization) (Run.start 20000)).2.codes =
              ⟨20000, 7⟩)) = true := by decide +kernel
  obtain ⟨d, read, found⟩ := exists_of_classifiesTo checked
  obtain ⟨generalization, listed, holds⟩ := List.any_eq_true.1 found
  simp only [Bool.and_eq_true, decide_eq_true_eq, Option.any_eq_true] at holds
  obtain ⟨⟨distinct, output, made, emits⟩, codes⟩ := holds
  have emits : output.statements ≠ [] := by simpa using emits
  have ran : outcome (generalizationRules d "" generalization) (Run.start 20000) =
      (.ok output, _) := Prod.ext (eq_ok_of_toOption made) rfl
  exact ⟨d, read, generalization, listed, distinct, output, _, ran, emits, codes,
    generalization_encoded listed ran emits distinct⟩

end EntitySchema
