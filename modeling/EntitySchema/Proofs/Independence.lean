/-
# EntitySchema.Proofs.Independence -- diagrams that are not connected do not interfere

When two diagrams that share no id are put into one, each phase makes of it what it makes
of each of them, except for the numbers of the raises, which are handed out across both
(`compile_append`).  The statements of a phase may come in another order: relationships
come before associative entities.

Three things are shared by all constructs of a run: the memo, the columns reserved for
relationships and the names of the views in use.  The first two are kept by id
(`Classified.Shares`).  Views are named after labels, so here it takes an assumption: that
the two scripts have no view name in common.
-/
import EntitySchema.Proofs.Juxtaposition
import EntitySchema.Proofs.Portions
import EntitySchema.Proofs.References

namespace EntitySchema

set_option autoImplicit false

/-! ## Sketches of two diagrams -/

/-- The last sketch has the content and the issues of the others, in some order. -/
structure Sketch.Combines (first second whole : Sketch) : Prop where
  content : (whole.parts.map Part.content).Perm ((first.parts ++ second.parts).map Part.content)
  issues : whole.issues.Perm (first.issues ++ second.issues)

namespace Classified

variable {first second : Classified} (apart : first.written.Apart second.written)

section Combining

variable {apart} {firsts seconds front back whole : List Sketch}

/-- Sketches of a common run may be listed in any order between those of the two diagrams, and hold
together what those hold. -/
theorem combines_concat (inFirst : List.Forall₂ (component_first apart).copy.Copies firsts front)
    (inSecond : List.Forall₂ (component_second apart).copy.Copies seconds back)
    (mixed : whole.Perm (front ++ back)) :
    Sketch.Combines (.concat firsts) (.concat seconds) (.concat whole) := by
  have firstCopied := Copy.copies_concat inFirst
  have secondCopied := Copy.copies_concat inSecond
  constructor
  · have parts : (Sketch.concat whole).parts.Perm
        ((Sketch.concat front).parts ++ (Sketch.concat back).parts) := by
      simpa only [Sketch.concat, List.flatMap_append] using mixed.flatMap_right (·.parts)
    refine (parts.map Part.content).trans (.of_eq ?_)
    rw [List.map_append, List.map_append, firstCopied.content, secondCopied.content]
  · have issues : (Sketch.concat whole).issues.Perm
        ((Sketch.concat front).issues ++ (Sketch.concat back).issues) := by
      simpa only [Sketch.concat, List.flatMap_append] using mixed.flatMap_right (·.issues)
    rwa [(component_first apart).keepsIds.issues_eq firstCopied.issues,
      (component_second apart).keepsIds.issues_eq secondCopied.issues] at issues

end Combining

/-- Constructs that contribute one by one. -/
theorem combines_each {accepts : NodeKind → Bool} {drawFirst drawSecond draw : Construct → Sketch}
    (inFirst : ∀ node ∈ first.ofKinds accepts,
      (component_first apart).copy.Copies (drawFirst node) (draw node))
    (inSecond : ∀ node ∈ second.ofKinds accepts,
      (component_second apart).copy.Copies (drawSecond node) (draw node)) :
    Sketch.Combines (.concat ((first.ofKinds accepts).map drawFirst))
      (.concat ((second.ofKinds accepts).map drawSecond))
      (.concat (((append apart).ofKinds accepts).map draw)) := by
  have front := (component_first apart).copies_map inFirst
  have back := (component_second apart).copies_map inSecond
  refine combines_concat front back (.of_eq ?_)
  rw [ofKinds_append, List.map_append]

/-! ### Relationships -/

/-- The columns that the relationships of one diagram reserve are none of the other's. -/
theorem copies_relationships :
    ∃ front back,
      (append apart).relationshipSketches (append apart).keysAsked []
          ((append apart).ofKind .relationship) = front ++ back ∧
        List.Forall₂ (component_first apart).copy.Copies
          (first.relationshipSketches first.keysAsked [] (first.ofKind .relationship)) front ∧
        List.Forall₂ (component_second apart).copy.Copies
          (second.relationshipSketches second.keysAsked [] (second.ofKind .relationship)) back := by
  have none : Shares (β := List String) first second [] [] [] := shares_nil
  obtain ⟨front, reserved⟩ := Copy.copies_relationshipSketches (carries_first apart)
    (Copy.tracks_beside _ []) (none.beside_first apart)
    fun (item : Construct) (mem : item ∈ first.ofKind .relationship) => (mem_ofKind_iff.1 mem).1
  have shared := none.after_first apart reserved
  obtain ⟨back, _⟩ := Copy.copies_relationshipSketches (carries_second apart)
    (Copy.tracks_beside _ _) (shared.beside_second apart)
    fun (item : Construct) (mem : item ∈ second.ofKind .relationship) => (mem_ofKind_iff.1 mem).1
  simp only [Component.map_node] at front back
  refine ⟨_, _, ?_, front, back⟩
  rw [Classified.ofKind, ofKinds_append, relationshipSketches_append]
  rfl

/-! ### Views -/

variable {apart} in
/-- If no view of one diagram has the name of a view of the other, the views are named as
they are alone. -/
theorem copies_views
    (viewsApart : (first.viewsAfter [] (first.ofKind .derivedAttribute)).Disjoint
      (second.viewsAfter [] (second.ofKind .derivedAttribute))) :
    ∃ front back,
      (append apart).viewSketches [] ((append apart).ofKind .derivedAttribute) = front ++ back ∧
        List.Forall₂ (component_first apart).copy.Copies
          (first.viewSketches [] (first.ofKind .derivedAttribute)) front ∧
        List.Forall₂ (component_second apart).copy.Copies
          (second.viewSketches [] (second.ofKind .derivedAttribute)) back := by
  have inFirst : ∀ item ∈ first.ofKind .derivedAttribute, item ∈ first.nodes :=
    fun _ mem => (mem_ofKind_iff.1 mem).1
  have inSecond : ∀ item ∈ second.ofKind .derivedAttribute, item ∈ second.nodes :=
    fun _ mem => (mem_ofKind_iff.1 mem).1
  let made := (append apart).viewsAfter [] (first.ofKind .derivedAttribute)
  have unused : ∀ name : String, name ∈ ([] : List String) ↔
      name ∈ ([] : List String) ∨ name ∈ ([] : List String) := by simp
  have used : ∀ name, name ∈ made ↔ name ∈ ([] : List String) ∨ name ∈ made := by simp
  obtain ⟨front, named⟩ := (component_first apart).copy.copies_viewSketches [] inFirst unused
    fun _ _ => .inr List.not_mem_nil
  rw [Component.map_node] at named
  obtain ⟨back, _⟩ := (component_second apart).copy.copies_viewSketches made inSecond used
    fun name mem => .inr fun madeFirst =>
      viewsApart (((named name).1 madeFirst).resolve_right List.not_mem_nil) mem
  simp only [Component.map_node] at front back
  refine ⟨_, _, ?_, front, back⟩
  rw [Classified.ofKind, ofKinds_append, viewSketches_append]
  rfl

/-! ### Phases -/

/-- Every phase contributes for the whole what it contributes for the two diagrams. -/
theorem combines_sketch (settings : Settings)
    (viewsApart : (first.viewsAfter [] (first.ofKind .derivedAttribute)).Disjoint
      (second.viewsAfter [] (second.ofKind .derivedAttribute))) (phase : Phase) :
    Sketch.Combines (phase.sketch settings first first.keysAsked)
      (phase.sketch settings second second.keysAsked)
      (phase.sketch settings (append apart) (append apart).keysAsked) := by
  have carriesFirst := carries_first apart
  have carriesSecond := carries_second apart
  cases phase with
  | tables | associativeEntities =>
      exact combines_each apart
        (fun _ mem => Copy.copies_tableSketch (mem_ofKinds_iff.1 mem).1)
        fun _ mem => Copy.copies_tableSketch (mem_ofKinds_iff.1 mem).1
  | primaryKeys =>
      exact combines_each apart
        (fun _ mem => Copy.copies_strongKeySketch carriesFirst (mem_ofKinds_iff.1 mem).1)
        fun _ mem => Copy.copies_strongKeySketch carriesSecond (mem_ofKinds_iff.1 mem).1
  | partialKeys =>
      exact combines_each apart
        (fun _ mem => Copy.copies_weakKeySketch carriesFirst (mem_ofKinds_iff.1 mem).1)
        fun _ mem => Copy.copies_weakKeySketch carriesSecond (mem_ofKinds_iff.1 mem).1
  | generalizations =>
      refine combines_each apart (fun _ mem => ?_) fun _ mem => ?_
      · obtain ⟨inFirst, isGeneralization⟩ := mem_ofKinds_iff.1 mem
        exact Copy.copies_generalizationSketch carriesFirst inFirst isGeneralization
      · obtain ⟨inSecond, isGeneralization⟩ := mem_ofKinds_iff.1 mem
        exact Copy.copies_generalizationSketch carriesSecond inSecond isGeneralization
  | relationships =>
      obtain ⟨front, back, same, inFirst, inSecond⟩ := copies_relationships apart
      have associatedFirst := (component_first apart).copies_map
        fun entity (mem : entity ∈ first.ofKind .associativeEntity) =>
          Copy.copies_associativeSketch carriesFirst (mem_ofKind_iff.1 mem).1
      have associatedSecond := (component_second apart).copies_map
        fun entity (mem : entity ∈ second.ofKind .associativeEntity) =>
          Copy.copies_associativeSketch carriesSecond (mem_ofKind_iff.1 mem).1
      have associative : (append apart).ofKind .associativeEntity = _ := ofKinds_append apart _
      refine combines_concat (List.rel_append inFirst associatedFirst)
        (List.rel_append inSecond associatedSecond) ?_
      rw [Phase.sketches, same, associative, List.map_append, List.append_assoc, List.append_assoc]
      -- the relationships of both come before all associative entities
      exact (List.perm_append_comm_assoc back _ _).append_left front
  | multivaluedAttributes =>
      exact combines_each apart
        (fun _ mem => Copy.copies_multivaluedSketch carriesFirst (mem_ofKinds_iff.1 mem).1 _)
        fun _ mem => Copy.copies_multivaluedSketch carriesSecond (mem_ofKinds_iff.1 mem).1 _
  | derivedAttributes =>
      obtain ⟨front, back, same, inFirst, inSecond⟩ := copies_views viewsApart
      exact combines_concat inFirst inSecond (.of_eq same)

end Classified

/-! ## Compilation -/

def Statement.viewName? : Statement → Option String
  | .createView name _ => some name
  | _ => none

def CompileResult.viewNames (result : CompileResult) : List String :=
  result.statements.filterMap (·.viewName?)

open Classified

section Compiled

variable {settings : Settings} {diagram : Diagram} {d : Classified} {result : CompileResult}
  (read : diagram.classify = .ok d) (compiled : compile settings diagram = .ok result)

include read compiled

theorem viewsAfter_subset_viewNames :
    d.viewsAfter [] (d.ofKind .derivedAttribute) ⊆ result.viewNames := by
  intro name mem
  obtain ⟨query, sketch, inViews, made⟩ :=
    (exists_of_mem_viewsAfter mem).resolve_left List.not_mem_nil
  have inSketch : Part.plain (.createView name query) ∈
      (Phase.derivedAttributes.sketch settings d d.keysAsked).parts :=
    List.mem_flatMap.2 ⟨sketch, inViews, made⟩
  obtain ⟨first, statements, _⟩ := exists_portion_of_compiled read compiled .derivedAttributes
  have inPhase : Statement.createView name query ∈ result.statementsOf .derivedAttributes :=
    statements ▸ mem_numberParts_of_plain inSketch _ first
  exact List.mem_filterMap.2 ⟨_, portionOf_subset _ _ _ _ inPhase, rfl⟩

end Compiled

/-- Two diagrams without a common id are compiled in one diagram as they are alone: each
phase has the statements and the issues of both, except for the numbers of the raises.
Only the names of views are shared. -/
theorem compile_append {settings : Settings} {first second : Diagram} (apart : first.Apart second)
    {one other whole : CompileResult} (compiledFirst : compile settings first = .ok one)
    (compiledSecond : compile settings second = .ok other)
    (compiled : compile settings (first.append second apart) = .ok whole)
    (viewsApart : one.viewNames.Disjoint other.viewNames) (phase : Phase) :
    ((whole.statementsOf phase).map (·.withoutNumbers)).Perm
        ((one.statementsOf phase ++ other.statementsOf phase).map (·.withoutNumbers)) ∧
      (whole.issuesOf phase).Perm (one.issuesOf phase ++ other.issuesOf phase) := by
  obtain ⟨d, readFirst⟩ := exists_classified compiledFirst
  obtain ⟨e, readSecond⟩ := exists_classified compiledSecond
  obtain rfl := classify_eq_ok_iff.1 readFirst
  obtain rfl := classify_eq_ok_iff.1 readSecond
  have read : (d.written.append e.written apart).classify = .ok (Classified.append apart) :=
    classify_eq_ok_iff.2 (written_append apart)
  have combined := combines_sketch apart settings (fun name inFirst inSecond =>
    viewsApart (viewsAfter_subset_viewNames readFirst compiledFirst inFirst)
      (viewsAfter_subset_viewNames readSecond compiledSecond inSecond)) phase
  obtain ⟨_, _, issues⟩ := exists_portion_of_compiled read compiled phase
  obtain ⟨_, _, issuesFirst⟩ := exists_portion_of_compiled readFirst compiledFirst phase
  obtain ⟨_, _, issuesSecond⟩ := exists_portion_of_compiled readSecond compiledSecond phase
  constructor
  · rw [List.map_append, map_withoutNumbers_statementsOf read compiled,
      map_withoutNumbers_statementsOf readFirst compiledFirst,
      map_withoutNumbers_statementsOf readSecond compiledSecond, ← List.map_append,
      ← List.map_append]
    exact combined.content.map _
  · rw [issues, issuesFirst, issuesSecond]
    exact combined.issues

/-- Two entities with a relationship and an associative entity between them. -/
def linkedTwice : Diagram :=
  { nodes :=
      [.drawn "a" "A" "StrongEntity", .drawn "k" "k" "KeyAttribute",
       .drawn "b" "B" "StrongEntity", .drawn "l" "l" "KeyAttribute",
       .drawn "x" "X" "AssociativeEntity", .drawn "r" "R" "Relationship",
       { Node.drawn "v" "V" "DerivedAttribute" with sqlExpression := some "SELECT k FROM A" }]
    connections :=
      [.drawn "1" "a" "k", .drawn "2" "b" "l", .drawn "3" "x" "a", .drawn "4" "x" "b",
       .drawn "5" "r" "a" "DoubleLineToOne", .drawn "6" "r" "b" "SingleLineToMany",
       .drawn "7" "a" "v"]
    node_ids_nodup := by decide
    connection_ids_nodup := by decide }

/-- Two entities with a relationship between them, and one without a key. -/
def linkedOnce : Diagram :=
  { nodes :=
      [.drawn "c" "C" "StrongEntity", .drawn "m" "m" "KeyAttribute",
       .drawn "d" "D" "StrongEntity", .drawn "n" "n" "KeyAttribute",
       .drawn "q" "Q" "Relationship", .drawn "z" "Z" "StrongEntity",
       { Node.drawn "w" "W" "DerivedAttribute" with sqlExpression := some "SELECT m FROM C" }]
    connections :=
      [.drawn "11" "c" "m", .drawn "12" "d" "n", .drawn "13" "q" "c" "DoubleLineToOne",
       .drawn "14" "q" "d" "SingleLineToMany", .drawn "15" "c" "w"]
    node_ids_nodup := by decide
    connection_ids_nodup := by decide }

theorem linkedTwice_apart_linkedOnce : linkedTwice.Apart linkedOnce :=
  ⟨List.disjoint_left.2 (by decide), List.disjoint_left.2 (by decide)⟩

theorem linkedTwice_append_linkedOnce :
    ∃ one other whole, compile {} linkedTwice = .ok one ∧ compile {} linkedOnce = .ok other ∧
      compile {} (linkedTwice.append linkedOnce linkedTwice_apart_linkedOnce) = .ok whole ∧
      one.viewNames = ["VW_A"] ∧ other.viewNames = ["VW_C"] ∧
      ∀ phase, ((whole.statementsOf phase).map (·.withoutNumbers)).Perm
          ((one.statementsOf phase ++ other.statementsOf phase).map (·.withoutNumbers)) ∧
        (whole.issuesOf phase).Perm (one.issuesOf phase ++ other.issuesOf phase) := by
  have firstMade : compilesTo {} linkedTwice (fun statements => decide
      (statements.filterMap (·.viewName?) = ["VW_A"])) = true := by decide +kernel
  have secondMade : compilesTo {} linkedOnce (fun statements => decide
      (statements.filterMap (·.viewName?) = ["VW_C"])) = true := by decide +kernel
  have made : compilesTo {} (linkedTwice.append linkedOnce linkedTwice_apart_linkedOnce)
      (fun _ => true) = true := by decide +kernel
  obtain ⟨one, compiledFirst, firstViews⟩ := exists_of_compilesTo firstMade
  obtain ⟨other, compiledSecond, secondViews⟩ := exists_of_compilesTo secondMade
  obtain ⟨whole, compiled, _⟩ := exists_of_compilesTo made
  have firstNamed : one.viewNames = ["VW_A"] := of_decide_eq_true firstViews
  have secondNamed : other.viewNames = ["VW_C"] := of_decide_eq_true secondViews
  have viewsApart : one.viewNames.Disjoint other.viewNames := by
    rw [firstNamed, secondNamed]
    exact List.disjoint_left.2 (by decide)
  exact ⟨one, other, whole, compiledFirst, compiledSecond, compiled, firstNamed, secondNamed,
    compile_append linkedTwice_apart_linkedOnce compiledFirst compiledSecond compiled viewsApart⟩

end EntitySchema
