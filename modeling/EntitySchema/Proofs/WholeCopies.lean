/-
# EntitySchema.Proofs.WholeCopies -- diagrams that are compiled alike

A run goes through the nodes of six groups of kinds (`NodeKind.groups`), each in the order
of the diagram.  A copy is whole if the other diagram lists the same constructs in
every group, in the same order (`Copy.Whole`).  Then the other run asks the same
questions, so its keys are the same (`Whole.carries`), and each phase is a
copy of its original (`Whole.copies_sketch`).

A diagram with a whole copy of it compiles where the diagram does, to the same script
(`Whole.compile_copied`).  If no id is changed the outcomes are the same in every respect,
failures included (`Whole.compile_eq`).
-/
import EntitySchema.Proofs.Counterparts
import EntitySchema.Proofs.Questions

namespace EntitySchema

open Inquiry

set_option autoImplicit false

/-- The kinds of nodes that a run goes through, those that it goes through together in one
group. -/
def NodeKind.groups : List (List NodeKind) :=
  [[.strongEntity, .weakEntity], [.associativeEntity],
   [.generalizationDisjoint, .generalizationOverlap], [.relationship], [.multivaluedAttribute],
   [.derivedAttribute]]

/-! ## Numbering contents -/

def numberContent (message : String) : Statement ⊕ TriggerPlan → Numbering Statement
  | .inl statement => return statement
  | .inr plan => return .createTrigger (← plan.number message)

theorem number_eq_numberContent (message : String) :
    Part.number message = numberContent message ∘ Part.content := by
  funext part
  cases part <;> rfl

/-- Sketches with the same content are numbered alike. -/
theorem Sketch.number_congr (message : String) {sketch other : Sketch}
    (content : other.parts.map Part.content = sketch.parts.map Part.content)
    (issues : other.issues = sketch.issues) : other.number message = sketch.number message := by
  have parts : other.parts.mapM (Part.number message) =
      sketch.parts.mapM (Part.number message) := by
    rw [number_eq_numberContent, ← List.mapM_map, ← List.mapM_map, content]
  rw [Sketch.number, parts, issues, Sketch.number]

/-- The content of a part says how many numbers it takes, and what becomes of it. -/
def numberedContent (message : String) : Statement ⊕ TriggerPlan → Nat × (Int → Statement)
  | .inl statement => (0, fun _ => statement)
  | .inr plan => (plan.rules.length, fun code => .createTrigger (plan.numbered message code))

theorem numbered_eq_numberedContent (message : String) (part : Part) :
    (part.raises, part.numbered message) = numberedContent message part.content := by
  cases part <;> rfl

/-- Parts with the same content take as many numbers, and become the same statements. -/
theorem numberParts_congr (message : String) {parts others : List Part}
    (content : others.map Part.content = parts.map Part.content) :
    raisesIn others = raisesIn parts ∧
      ∀ code, numberParts message code others = numberParts message code parts := by
  induction parts generalizing others with
  | nil =>
      obtain rfl : others = [] := by simpa using content
      exact ⟨rfl, fun _ => rfl⟩
  | cons part rest ih =>
      cases others with
      | nil => simp at content
      | cons other remaining =>
          obtain ⟨here, there⟩ := List.cons.inj content
          obtain ⟨count, statements⟩ := ih there
          have same : (other.raises, other.numbered message) =
              (part.raises, part.numbered message) := by
            rw [numbered_eq_numberedContent, here, numbered_eq_numberedContent]
          obtain ⟨raises, numbered⟩ := Prod.mk.inj same
          simp only [raisesIn, numberParts] at count statements
          constructor
          · simp only [raisesIn, List.map_cons, List.sum_cons, raises, count]
          · intro code
            simp only [numberParts, numberedFrom, raises, numbered, statements]

namespace Classified.Copy

variable {d e : Classified} {copy : Copy d e}

variable (copy) in
/-- The other diagram lists the copies of all constructs, those of a group in the same order. -/
def Whole : Prop :=
  ∀ group ∈ NodeKind.groups,
    e.ofKinds group.contains = (d.ofKinds group.contains).map copy.node

variable (copy) in
/-- The output of a phase of the other run is that of the phase, but for the ids in issues. -/
structure CopiesOutput (output image : Phase × Output) : Prop where
  phase : image.1 = output.1
  statements : image.2.statements = output.2.statements
  issues : List.Forall₂ copy.CopiesIssue output.2.issues image.2.issues

theorem map_eq_of_copiesOutput {γ : Type} {outputs images : List (Phase × Output)}
    (copied : List.Forall₂ copy.CopiesOutput outputs images) {f : Phase × Output → γ}
    (same : ∀ output image, copy.CopiesOutput output image → f image = f output) :
    images.map f = outputs.map f := by
  induction copied with
  | nil => rfl
  | cons head _ ih => rw [List.map_cons, List.map_cons, same _ _ head, ih]

namespace Whole

variable (whole : copy.Whole)

include whole

theorem ofKind {kind : NodeKind} (grouped : ∃ group ∈ NodeKind.groups, kind ∈ group) :
    e.ofKind kind = (d.ofKind kind).map copy.node := by
  obtain ⟨group, known, mem⟩ := grouped
  have narrower : ∀ c : Classified, c.ofKind kind =
      (c.ofKinds group.contains).filter (·.kind == kind) := by
    intro c
    rw [Classified.ofKind, ofKinds, ofKinds, List.filter_filter]
    refine List.filter_congr fun node _ => ?_
    by_cases same : node.kind = kind
    · simp [same, mem]
    · simp [same]
  rw [narrower, whole group known, List.filter_map, narrower]
  rfl

theorem generalizations :
    e.ofKinds (·.isGeneralization) = (d.ofKinds (·.isGeneralization)).map copy.node := by
  have same : (·.isGeneralization) =
      [NodeKind.generalizationDisjoint, .generalizationOverlap].contains := by
    funext kind
    cases kind <;> rfl
  rw [same]
  exact whole _ (by decide)

theorem asksAbout (phase : Phase) : phase.asksAbout e = (phase.asksAbout d).map copy.node := by
  cases phase with
  | primaryKeys | partialKeys | multivaluedAttributes => exact whole.ofKind (by decide)
  | generalizations => exact whole.generalizations
  | relationships =>
      have relationships : e.ofKind .relationship = _ := whole.ofKind (by decide)
      have associative : e.ofKind .associativeEntity = _ := whole.ofKind (by decide)
      simp only [Phase.asksAbout, relationships, associative, List.map_append]
  | tables | associativeEntities | derivedAttributes => rfl

/-- All questions of the diagrams have the same answers. -/
theorem carries : copy.Carries d.keysAsked e.keysAsked := by
  have tracks := copy.tracks_beside (β := List Key) []
  have asked : Mirrors (copy.Beside []) id (d.questionsOf Phase.all)
      (e.questionsOf (Phase.all.map id)) := by
    refine mirrors_forM fun phase _ => ?_
    rw [id_eq, whole.asksAbout]
    exact mirrors_forM fun node mem =>
      mirrors_questionsAbout tracks (mem_nodes_of_mem_asksAbout mem)
  rw [List.map_id] at asked
  have start : copy.Beside (β := List Key) [] [] [] := ⟨fun _ _ => rfl, fun _ _ => rfl⟩
  have ended := (asked {} {} start).2
  intro node inNodes
  rw [keysAsked, keysAsked, KeyTable.ofMemo, KeyTable.ofMemo, node_id, ended.copied node inNodes]

/-- Every phase contributes the copies of what it contributes for the diagram. -/
theorem copies_sketch (settings : Settings) (phase : Phase) :
    copy.Copies (phase.sketch settings d d.keysAsked) (phase.sketch settings e e.keysAsked) := by
  have carries := whole.carries
  have inNodes : ∀ {kind}, ∀ node ∈ d.ofKind kind, node ∈ d.nodes :=
    fun node mem => (mem_ofKind_iff.1 mem).1
  refine copies_concat ?_
  cases phase with
  | tables =>
      rw [Phase.sketches, Phase.sketches, ownedKinds,
        whole [.strongEntity, .weakEntity] (by decide)]
      exact copies_map fun node mem => copies_tableSketch (mem_ofKinds_iff.1 mem).1
  | primaryKeys =>
      rw [Phase.sketches, Phase.sketches, whole.ofKind (by decide)]
      exact copies_map fun node mem => copies_strongKeySketch carries (inNodes node mem)
  | partialKeys =>
      rw [Phase.sketches, Phase.sketches, whole.ofKind (by decide)]
      exact copies_map fun node mem => copies_weakKeySketch carries (inNodes node mem)
  | associativeEntities =>
      have listed : e.ofKinds ([NodeKind.associativeEntity].contains ·) = _ :=
        whole [.associativeEntity] (by decide)
      rw [Phase.sketches, Phase.sketches, listed]
      exact copies_map fun node mem => copies_tableSketch (mem_ofKinds_iff.1 mem).1
  | generalizations =>
      rw [Phase.sketches, Phase.sketches, whole.generalizations]
      exact copies_map fun node mem => copies_generalizationSketch carries
        (mem_ofKinds_iff.1 mem).1 (mem_ofKinds_iff.1 mem).2
  | relationships =>
      have related : copy.Beside (β := List String) [] [] [] := ⟨fun _ _ => rfl, fun _ _ => rfl⟩
      have relationships : e.ofKind .relationship = _ := whole.ofKind (by decide)
      have associative : e.ofKind .associativeEntity = _ := whole.ofKind (by decide)
      rw [Phase.sketches, Phase.sketches, relationships, associative]
      refine List.rel_append
        (copies_relationshipSketches carries (copy.tracks_beside []) related inNodes).1 ?_
      exact copies_map fun node mem => copies_associativeSketch carries (inNodes node mem)
  | multivaluedAttributes =>
      rw [Phase.sketches, Phase.sketches, whole.ofKind (by decide)]
      exact copies_map fun node mem => copies_multivaluedSketch carries (inNodes node mem) _
  | derivedAttributes =>
      rw [Phase.sketches, Phase.sketches, whole.ofKind (by decide)]
      refine (copies_viewSketches [] inNodes (fun name => ?_) fun name _ => ?_).1
      · simp
      · exact .inr List.not_mem_nil

/-- From the same number on, the phases have the same outputs. -/
theorem copies_numberedPhases (settings : Settings) (phases : List Phase) (code : Int) :
    List.Forall₂ copy.CopiesOutput (numberedPhases settings d d.keysAsked phases code)
      (numberedPhases settings e e.keysAsked phases code) := by
  induction phases generalizing code with
  | nil => exact .nil
  | cons phase rest ih =>
      have copied := whole.copies_sketch settings phase
      obtain ⟨raises, statements⟩ := numberParts_congr settings.violationMessage copied.content
      simp only [numberedPhases, numberedFrom] at ih ⊢
      rw [raises]
      exact .cons ⟨rfl, statements code, copied.issues⟩ (ih _)

theorem raisesOf_eq (settings : Settings) (phases : List Phase) :
    raisesOf settings e e.keysAsked phases = raisesOf settings d d.keysAsked phases := by
  refine (numberParts_congr settings.violationMessage ?_).1
  rw [List.map_flatMap, List.map_flatMap]
  exact List.flatMap_congr fun phase _ => (whole.copies_sketch settings phase).content

/-! ### Outcomes -/

variable {settings : Settings} {diagram other : Diagram} (read : diagram.classify = .ok d)
  (readOther : other.classify = .ok e)

include read readOther

/-- If no id is changed, the diagrams are compiled with the same outcome. -/
theorem compile_eq (keeps : copy.KeepsIds) : compile settings other = compile settings diagram := by
  have sketches : ∀ phase : Phase,
      (phase.sketch settings e e.keysAsked).number settings.violationMessage =
        (phase.sketch settings d d.keysAsked).number settings.violationMessage := by
    intro phase
    have copied := whole.copies_sketch settings phase
    exact Sketch.number_congr _ copied.content (keeps.issues_eq copied.issues)
  have phases : numberPhases settings e e.keysAsked Phase.all =
      numberPhases settings d d.keysAsked Phase.all := by
    simp only [numberPhases, sketches]
  obtain ⟨said, after, ended, outcome⟩ := compile_eq_numberPhases settings read
  obtain ⟨saidOther, afterOther, endedOther, outcomeOther⟩ :=
    compile_eq_numberPhases settings readOther
  rw [phases] at endedOther
  obtain ⟨rfl, rfl⟩ := Prod.mk.inj (ended.symm.trans endedOther)
  rw [outcome, outcomeOther]

/-- Where the diagram compiles, so does its copy, and only ids in issues are changed. -/
theorem compile_copied {result : CompileResult} (compiled : compile settings diagram = .ok result) :
    ∃ image, compile settings other = .ok image ∧ image.statements = result.statements ∧
      image.phases = result.phases ∧ image.errorCodes = result.errorCodes ∧
        List.Forall₂ copy.CopiesIssue result.issues image.issues := by
  obtain ⟨room, rfl⟩ := (compile_eq_ok_iff read).1 compiled
  have outputs := whole.copies_numberedPhases settings Phase.all settings.errorCodeBase
  have count := whole.raisesOf_eq settings Phase.all
  refine ⟨_, (compile_eq_ok_iff readOther).2 ⟨count ▸ room, rfl⟩, ?_, ?_, ?_, ?_⟩
  · have statements := map_eq_of_copiesOutput outputs (f := (·.2.statements))
      fun _ _ copied => copied.statements
    simp only [CompileResult.ofOutputs, List.flatMap_def, statements]
  · simp only [CompileResult.ofOutputs]
    refine map_eq_of_copiesOutput outputs fun _ _ copied => ?_
    rw [copied.phase, copied.statements, copied.issues.length_eq]
  · rw [CompileResult.ofOutputs, CompileResult.ofOutputs, count]
  · exact List.rel_flatMap outputs fun _ _ copied => copied.issues

end Whole

end Classified.Copy

end EntitySchema
