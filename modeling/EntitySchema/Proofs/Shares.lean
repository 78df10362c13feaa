/-
# EntitySchema.Proofs.Shares -- what each construct contributed to a result

A phase goes through the constructs that it handles (`Classified.handledIn`) one by one, and
what it contributes to a result is what each of them does, in order.  `exists_shares` divides
a result in this way: the share of a construct in a phase is its sketch (`Classified.Drafts`),
numbered from some number on.

The output of a sketch without triggers does not depend on the number
(`numbered_of_unplanned`); with triggers, only the triggers do (`numbered_of_plans`).
-/
import EntitySchema.Proofs.Portions
import EntitySchema.Proofs.Skimming

namespace EntitySchema

set_option autoImplicit false

/-! ## Numbering sketches -/

section Numbering

variable (message : String)

/-- The outputs of sketches, their raises numbered one after the other. -/
def numberSketches (code : Int) (sketches : List Sketch) : List Output :=
  numberedFrom (fun sketch => raisesIn sketch.parts) (fun sketch => sketch.numbered message) code
    sketches

theorem numbered_concat (code : Int) (sketches : List Sketch) :
    (Sketch.concat sketches).numbered message code =
      .concat (numberSketches message code sketches) := by
  induction sketches generalizing code with
  | nil => rfl
  | cons sketch rest ih =>
      have others := ih (code + raisesIn sketch.parts)
      simp only [Sketch.numbered, Sketch.concat, Output.concat, Output.mk.injEq] at others ⊢
      rw [List.flatMap_cons, List.flatMap_cons, numberParts_append, others.1, others.2]
      exact ⟨rfl, rfl⟩

/-- Without triggers there is nothing to number. -/
theorem numberParts_of_unplanned {parts : List Part} (unplanned : ∀ plan, .trigger plan ∉ parts)
    (code : Int) : numberParts message code parts = parts.map Part.unnumbered := by
  induction parts generalizing code with
  | nil => rfl
  | cons part rest ih =>
      have others := ih (fun plan mem => unplanned plan (List.mem_cons_of_mem part mem))
        (code + part.raises)
      have here : part.numbered message code = part.unnumbered := by
        cases part with
        | plain | reference => rfl
        | trigger plan => exact absurd List.mem_cons_self (unplanned plan)
      rw [List.map_cons, ← others, ← here]
      rfl

/-- A trigger that is issued for a plan. -/
def TriggerPlan.IssuedAs (plan : TriggerPlan) (trigger : Trigger) : Prop :=
  ∃ code, trigger = plan.numbered message code

def issuedFrom (code : Int) (plans : List TriggerPlan) : List Trigger :=
  numberedFrom (fun plan => plan.rules.length) (TriggerPlan.numbered message) code plans

theorem forall₂_issuedFrom (code : Int) (plans : List TriggerPlan) :
    List.Forall₂ (TriggerPlan.IssuedAs message) plans (issuedFrom message code plans) := by
  induction plans generalizing code with
  | nil => exact .nil
  | cons plan rest ih => exact .cons ⟨code, rfl⟩ (ih _)

/-- Plans are issued one after the other. -/
theorem numberParts_plans (code : Int) (plans : List TriggerPlan) :
    numberParts message code (plans.map .trigger) =
      (issuedFrom message code plans).map .createTrigger := by
  induction plans generalizing code with
  | nil => rfl
  | cons plan rest ih => exact congrArg (Statement.createTrigger _ :: ·) (ih _)

theorem flatMap_errorCodes_issuedFrom (code : Int) (plans : List TriggerPlan) :
    (issuedFrom message code plans).flatMap (·.errorCodes) =
      codesFrom code (plans.map fun plan => plan.rules.length).sum := by
  induction plans generalizing code with
  | nil => rfl
  | cons plan rest ih =>
      rw [List.map_cons, List.sum_cons, codesFrom_add, ← ih]
      rfl

theorem raisesIn_of_unplanned {parts : List Part} (unplanned : ∀ plan, .trigger plan ∉ parts) :
    raisesIn parts = 0 := by
  induction parts with
  | nil => rfl
  | cons part rest ih =>
      have others := ih fun plan mem => unplanned plan (List.mem_cons_of_mem part mem)
      cases part with
      | plain | reference => simpa [raisesIn, Part.raises] using others
      | trigger plan => exact absurd List.mem_cons_self (unplanned plan)

theorem raisesIn_plans (plans : List TriggerPlan) :
    raisesIn (plans.map .trigger) = (plans.map fun plan => plan.rules.length).sum := by
  rw [raisesIn, List.map_map]
  rfl

/-- The output of a sketch whose triggers come last. -/
theorem numbered_of_plans {parts : List Part} (unplanned : ∀ plan, .trigger plan ∉ parts)
    (plans : List TriggerPlan) (issues : List Issue) (code : Int) :
    (Sketch.mk (parts ++ plans.map .trigger) issues).numbered message code =
      ⟨parts.map Part.unnumbered ++ (issuedFrom message code plans).map .createTrigger,
        issues⟩ := by
  rw [Sketch.numbered, numberParts_append, numberParts_of_unplanned message unplanned,
    raisesIn_of_unplanned unplanned, Int.natCast_zero, Int.add_zero, numberParts_plans]

/-- The output of a sketch without triggers. -/
theorem numbered_of_unplanned {sketch : Sketch} (unplanned : ∀ plan, .trigger plan ∉ sketch.parts)
    (code : Int) : sketch.numbered message code = ⟨sketch.statements, sketch.issues⟩ :=
  congrArg (Output.mk · sketch.issues) (numberParts_of_unplanned message unplanned code)

theorem numbered_of_statements (site : Site) (target : Construct) (statements : List Statement)
    (issues : List Issue) (code : Int) :
    (Sketch.mk (statements.map (Part.of site target)) issues).numbered message code =
      ⟨statements, issues⟩ := by
  rw [numbered_of_unplanned message (Part.trigger_not_mem_map_of site target statements),
    Sketch.statements, Sketch.statements_of_map]

end Numbering

/-! ## Constructs of a phase -/

/-- The values of distinct items, given as a list, are those of a function. -/
theorem exists_map_eq_of_forall₂ {α β : Type} [DecidableEq α] {R : α → β → Prop} {items : List α}
    {values : List β} (elsewhere : α → β) (distinct : items.Nodup)
    (related : List.Forall₂ R items values) :
    ∃ f : α → β, items.map f = values ∧ ∀ item ∈ items, R item (f item) := by
  induction related with
  | nil => exact ⟨elsewhere, rfl, fun _ mem => absurd mem List.not_mem_nil⟩
  | @cons item value rest _ here _ ih =>
      obtain ⟨new, distinctRest⟩ := List.nodup_cons.1 distinct
      obtain ⟨f, same, holds⟩ := ih distinctRest
      -- the item is not among the rest, so giving it a value leaves theirs as they are
      have others : ∀ other ∈ rest, Function.update f item value other = f other :=
        fun other mem => Function.update_of_ne (ne_of_mem_of_not_mem mem new) value f
      refine ⟨Function.update f item value, ?_, fun other mem => ?_⟩
      · rw [List.map_cons, Function.update_self, List.map_congr_left others, same]
      · rcases List.mem_cons.1 mem with rfl | mem
        · rw [Function.update_self]
          exact here
        · rw [others other mem]
          exact holds other mem

namespace Classified

/-- The constructs that a phase handles, in order. -/
def handledIn (d : Classified) : Phase → List Construct
  | .tables => d.ofKinds ownedKinds.contains
  | .primaryKeys => d.ofKind .strongEntity
  | .partialKeys => d.ofKind .weakEntity
  | .associativeEntities => d.ofKinds ([NodeKind.associativeEntity].contains ·)
  | .generalizations => d.ofKinds (·.isGeneralization)
  | .relationships => d.ofKind .relationship ++ d.ofKind .associativeEntity
  | .multivaluedAttributes => d.ofKind .multivaluedAttribute
  | .derivedAttributes => d.ofKind .derivedAttribute

/-- A sketch that a phase makes of a construct. -/
inductive Drafts (settings : Settings) (d : Classified) (keys : KeyTable) :
    Phase → Construct → Sketch → Prop
  | ownedTable {entity : Construct} : Drafts settings d keys .tables entity (d.tableSketch entity)
  | strongKey {entity : Construct} :
      Drafts settings d keys .primaryKeys entity (d.strongKeySketch keys entity)
  | weakKey {weak : Construct} :
      Drafts settings d keys .partialKeys weak (d.weakKeySketch keys weak)
  | associativeTable {entity : Construct} :
      Drafts settings d keys .associativeEntities entity (d.tableSketch entity)
  | generalization {generalization : Construct} :
      Drafts settings d keys .generalizations generalization
        (d.generalizationSketch keys generalization)
  | relationship {node : Construct} {reserved : Reservations} :
      node.kind = .relationship →
        Drafts settings d keys .relationships node (d.relationshipSketch keys reserved node).1
  | associativeEntity {entity : Construct} :
      entity.kind = .associativeEntity →
        Drafts settings d keys .relationships entity (d.associativeSketch keys entity)
  | multivaluedAttribute {item : Construct} :
      Drafts settings d keys .multivaluedAttributes item
        (d.multivaluedSketch keys settings.surrogateKeyType item)
  | derivedAttribute {item : Construct} {used : List String} {sketch : Sketch} :
      d.viewSketches used [item] = [sketch] →
        Drafts settings d keys .derivedAttributes item sketch

variable {settings : Settings} {d : Classified} {keys : KeyTable}

theorem nodup_ofKinds (accepts : NodeKind → Bool) : (d.ofKinds accepts).Nodup :=
  d.nodes_nodup.filter _

theorem nodup_handledIn (d : Classified) (phase : Phase) : (d.handledIn phase).Nodup := by
  cases phase with
  | relationships =>
      refine List.Nodup.append (nodup_ofKinds _) (nodup_ofKinds _) ?_
      intro node related associative
      have impossible := (mem_ofKind_iff.1 related).2.symm.trans (mem_ofKind_iff.1 associative).2
      cases impossible
  | tables | associativeEntities | generalizations => exact nodup_ofKinds _
  | primaryKeys | partialKeys | multivaluedAttributes | derivedAttributes =>
      exact nodup_ofKinds (· == _)

/-- No phase handles weak relationships. -/
theorem kind_of_mem_handledIn {phase : Phase} {node : Construct} (mem : node ∈ d.handledIn phase) :
    node ∈ d.nodes ∧ node.kind ≠ .weakRelationship := by
  cases phase with
  | tables | associativeEntities | generalizations =>
      obtain ⟨inNodes, accepted⟩ := mem_ofKinds_iff.1 mem
      refine ⟨inNodes, fun weak => ?_⟩
      rw [weak] at accepted
      revert accepted
      decide
  | relationships =>
      rcases List.mem_append.1 mem with inKind | inKind <;>
      · obtain ⟨inNodes, kind⟩ := mem_ofKind_iff.1 inKind
        exact ⟨inNodes, by rw [kind]; decide⟩
  | primaryKeys | partialKeys | multivaluedAttributes | derivedAttributes =>
      obtain ⟨inNodes, kind⟩ := mem_ofKind_iff.1 mem
      exact ⟨inNodes, by rw [kind]; decide⟩

theorem forall₂_relationshipSketches {nodes : List Construct}
    (related : ∀ node ∈ nodes, node.kind = .relationship) (reserved : Reservations) :
    List.Forall₂ (Drafts settings d keys .relationships) nodes
      (d.relationshipSketches keys reserved nodes) := by
  induction nodes generalizing reserved with
  | nil => exact .nil
  | cons node rest ih =>
      exact .cons (.relationship (related node List.mem_cons_self))
        (ih (fun other mem => related other (List.mem_cons_of_mem node mem)) _)

/-- The sketch of a view depends on the names in use before it, so that it is drafted in its turn.
-/
theorem forall₂_viewSketches (items : List Construct) (used : List String) :
    List.Forall₂ (Drafts settings d keys .derivedAttributes) items (d.viewSketches used items) := by
  induction items generalizing used with
  | nil => exact .nil
  | cons item rest ih =>
      have alone : ∃ sketch later, d.viewSketches used [item] = [sketch] ∧
          d.viewSketches used (item :: rest) = sketch :: d.viewSketches later rest := by
        simp only [viewSketches]
        cases d.ownerOf? item with
        | none => exact ⟨_, _, rfl, rfl⟩
        | some owner =>
            cases queryOf? item with
            | none => exact ⟨_, _, rfl, rfl⟩
            | some query => exact ⟨_, _, rfl, rfl⟩
      obtain ⟨sketch, later, first, split⟩ := alone
      rw [split]
      exact .cons (.derivedAttribute first) (ih later)

/-- A phase makes one sketch of each construct that it handles, in order. -/
theorem forall₂_sketches (settings : Settings) (d : Classified) (keys : KeyTable) (phase : Phase) :
    List.Forall₂ (Drafts settings d keys phase) (d.handledIn phase)
      (phase.sketches settings d keys) := by
  have each : ∀ {items : List Construct} {sketch : Construct → Sketch},
      (∀ item ∈ items, Drafts settings d keys phase item (sketch item)) →
        List.Forall₂ (Drafts settings d keys phase) items (items.map sketch) := by
    intro items sketch drafts
    exact List.forall₂_map_right_iff.2 (List.forall₂_same.2 drafts)
  cases phase with
  | tables => exact each fun _ _ => .ownedTable
  | primaryKeys => exact each fun _ _ => .strongKey
  | partialKeys => exact each fun _ _ => .weakKey
  | associativeEntities => exact each fun _ _ => .associativeTable
  | generalizations => exact each fun _ _ => .generalization
  | relationships =>
      refine List.rel_append (forall₂_relationshipSketches ?_ []) (each fun _ mem => ?_)
      · exact fun _ mem => (mem_ofKind_iff.1 mem).2
      · exact .associativeEntity (mem_ofKind_iff.1 mem).2
  | multivaluedAttributes => exact each fun _ _ => .multivaluedAttribute
  | derivedAttributes => exact forall₂_viewSketches _ []

theorem exists_drafts_of_mem_sketches {phase : Phase} {sketch : Sketch}
    (inPhase : sketch ∈ phase.sketches settings d keys) :
    ∃ node ∈ d.handledIn phase, Drafts settings d keys phase node sketch :=
  exists_of_mem_right (forall₂_sketches settings d keys phase) inPhase

end Classified

/-! ## Shares of a result -/

/-- What each phase contributed is divided among the constructs that it handles. -/
structure CompileResult.DividesInto (result : CompileResult) (d : Classified)
    (share : Phase → Construct → Output) : Prop where
  statements : ∀ phase, result.statementsOf phase =
    (d.handledIn phase).flatMap fun node => (share phase node).statements
  issues : ∀ phase, result.issuesOf phase =
    (d.handledIn phase).flatMap fun node => (share phase node).issues

namespace CompileResult.DividesInto

variable {result : CompileResult} {d : Classified} {share : Phase → Construct → Output}
  (divides : result.DividesInto d share) {phase : Phase} {node : Construct}

include divides

theorem statements_subset (mem : node ∈ d.handledIn phase) :
    (share phase node).statements ⊆ result.statements := by
  intro statement inShare
  have inPhase : statement ∈ result.statementsOf phase := by
    rw [divides.statements phase]
    exact List.mem_flatMap_of_mem mem inShare
  exact portionOf_subset _ phase _ _ inPhase

theorem issues_subset (mem : node ∈ d.handledIn phase) :
    (share phase node).issues ⊆ result.issues := by
  intro issue inShare
  have inPhase : issue ∈ result.issuesOf phase := by
    rw [divides.issues phase]
    exact List.mem_flatMap_of_mem mem inShare
  exact portionOf_subset _ phase _ _ inPhase

end CompileResult.DividesInto

open Classified

/-- Sketches are numbered one by one, each from a number of its own. -/
theorem forall₂_numberSketches {R : Construct → Sketch → Prop} {items : List Construct}
    {sketches : List Sketch} (related : List.Forall₂ R items sketches) (message : String)
    (code : Int) :
    List.Forall₂ (fun item output =>
        ∃ sketch first, R item sketch ∧ output = sketch.numbered message first)
      items (numberSketches message code sketches) := by
  induction related generalizing code with
  | nil => exact .nil
  | cons here _ ih => exact .cons ⟨_, _, here, rfl⟩ (ih _)

/-- A result divides into the numbered sketches of its constructs. -/
theorem exists_shares {settings : Settings} {diagram : Diagram} {d : Classified}
    {result : CompileResult} (read : diagram.classify = .ok d)
    (compiled : compile settings diagram = .ok result) :
    ∃ share, result.DividesInto d share ∧
      ∀ phase, ∀ node ∈ d.handledIn phase, ∃ sketch code,
        Drafts settings d (keysAfter settings diagram d) phase node sketch ∧
          share phase node = sketch.numbered settings.violationMessage code := by
  have divided : ∀ phase, ∃ share : Construct → Output,
      result.statementsOf phase =
          (d.handledIn phase).flatMap (fun node => (share node).statements) ∧
      result.issuesOf phase = (d.handledIn phase).flatMap (fun node => (share node).issues) ∧
      ∀ node ∈ d.handledIn phase, ∃ sketch code,
        Drafts settings d (keysAfter settings diagram d) phase node sketch ∧
          share node = sketch.numbered settings.violationMessage code := by
    intro phase
    obtain ⟨_, made⟩ := result_eq_ofOutputs read compiled
    obtain ⟨first, statements, issues⟩ := CompileResult.exists_portion settings d
      (keysAfter settings diagram d) _ phase.mem_all settings.errorCodeBase
    rw [← made] at statements issues
    have output := numbered_concat settings.violationMessage first
      (phase.sketches settings d (keysAfter settings diagram d))
    obtain ⟨share, shares, drafted⟩ := exists_map_eq_of_forall₂ (fun _ => {})
      (d.nodup_handledIn phase)
      (forall₂_numberSketches (forall₂_sketches settings d (keysAfter settings diagram d) phase)
        settings.violationMessage first)
    rw [← shares] at output
    refine ⟨share, ?_, ?_, drafted⟩
    · rw [statements, ← List.flatMap_map (f := share) (g := (·.statements))]
      exact congrArg Output.statements output
    · rw [issues, ← List.flatMap_map (f := share) (g := (·.issues))]
      exact congrArg Output.issues output
  choose share statements issues drafted using divided
  exact ⟨share, ⟨statements, issues⟩, drafted⟩

end EntitySchema
