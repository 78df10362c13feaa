/-
# EntitySchema.Proofs.AnyRun -- a construct is encoded in the middle of a run

When a construct has its turn, keys are remembered already, columns are reserved and
numbers have been handed out.  None of this needs to be known: whatever is remembered
before a question, its answer is what is remembered from then on (`answered_always`).

So a step from any run has the outcome of its sketch for the keys that are remembered after
it (`Run.keys`), and what it asked for first was answered from the same table
(`answer_of_memoAfter`).  There is one lemma for each of the constructs that refer to several
entities: `generalizationRules_ran`, `relationship_ran` and `associativeEntity_ran`.
-/
import EntitySchema.Proofs.Questions

namespace EntitySchema

open Inquiry

set_option autoImplicit false

/-! ## Answers whatever is remembered -/

namespace Classified

variable {d : Classified}

/-- A question remembers keys for available entities only, and the key of the entity it is
about if that is available.  The induction is on the ids that are available. -/
theorem meets_keyAmong_beside {available : List String} (nodup : available.Nodup)
    (before : Memo) (entity : Construct) :
    Meets (fun memo => ∀ id, id ∉ available → memo.lookup id = before.lookup id)
      (d.keyAmong available entity)
      fun keys later => entity.id ∈ available → later.lookup entity.id = some keys := by
  induction size : available.length using Nat.strongRecOn generalizing available before entity with
  | ind count ih =>
      intro session beside
      cases known : session.resolved.lookup entity.id with
      | some keys =>
          simp only [answer, memoAfter, keyAmong_of_known known]
          exact ⟨.refl _, beside, fun later grows _ => grows _ _ known⟩
      | none =>
          by_cases free : entity.id ∈ available
          · have shorter : (available.erase entity.id).length < count := by
              have taken := List.length_erase_of_mem free
              have some := List.length_pos_of_mem free
              omega
            have asks : ∀ source ∈ d.keySources entity,
                Meets (fun memo => ∀ id, id ∉ available.erase entity.id →
                    memo.lookup id = session.resolved.lookup id)
                  (d.keyAmong (available.erase entity.id) source) fun _ _ => True :=
              fun source _ =>
                (ih _ shorter (nodup.erase _) session.resolved source rfl).mono
                  fun _ _ _ => trivial
            obtain ⟨grows, kept, _⟩ :=
              meets_computeKeyWith (T := fun _ _ _ => True) asks session fun _ _ => rfl
            have ran := keyAmong_of_available (d := d) known free
            simp only [answer, memoAfter, ran] at grows kept ⊢
            have still := (kept entity.id nodup.not_mem_erase).trans known
            refine ⟨grows.trans (Memo.grows_cons still _), fun id absent => ?_,
              fun later reached _ => reached _ _ List.lookup_cons_self⟩
            have different : id ≠ entity.id := fun same => absent (same ▸ free)
            rw [Memo.lookup_cons_of_ne different, ← beside id absent]
            exact kept id fun mem => absent (List.mem_of_mem_erase mem)
          · obtain ⟨_, untouched⟩ := keyAmong_of_busy (d := d) known free
            rw [untouched]
            exact ⟨.refl _, beside, fun _ _ asked => absurd asked free⟩

/-- Questions are answered by what is remembered from then on, whatever was before. -/
theorem answered_always (d : Classified) : d.Answered fun _ => True := by
  intro entity inNodes session _
  obtain ⟨grows, _, said⟩ :=
    meets_keyAmong_beside (d := d) d.ids_nodup session.resolved entity session fun _ _ => rfl
  exact ⟨grows, trivial, fun later reached => said later reached (id_mem_ids inNodes)⟩

end Classified

/-! ## Steps -/

section Steps

variable {α β : Type} {P : Memo → Prop}

def Run.keys (run : Run) : KeyTable := .ofMemo run.session.resolved

/-- What was answered first is in the table of what is remembered in the end. -/
theorem answer_of_memoAfter {first : Inquiry α} {next : α → Inquiry β} {answers : KeyTable → α}
    (reads : Reads P first answers) (proper : ∀ a, Proper P (next a)) {session : Session}
    (kept : P session.resolved) :
    first.answer session = answers (.ofMemo ((first >>= next).memoAfter session)) := by
  obtain ⟨_, keptOn, read⟩ := reads session kept
  obtain ⟨growsOn, _, _⟩ := proper (first.answer session) (StateT.run first session).2 keptOn
  exact read _ growsOn _ (KeyTable.ofMemo_holds _)

/-- A step has the outcome of its numbering for the keys that are remembered after it. -/
theorem Follows.outcome_eq {m : Issuing α} {numbering : KeyTable → Numbering α}
    (follows : Follows (fun _ => True) m numbering) {run after : Run}
    {result : Except CompileError α} (ran : outcome m run = (result, after)) :
    outcome (numbering after.keys) run.codes = (result, after.codes) :=
  (follows run result after ran trivial).2.2 _ (.refl _) _ (KeyTable.ofMemo_holds _)

/-- Numbers that were handed out without a failure are the next ones. -/
theorem Numbers.of_ok {m : Numbering α} {count : Nat} {value : Int → α}
    (numbers : Numbers m count value) {codes after : ErrorCodes} {a : α}
    (ran : outcome m codes = (.ok a, after)) :
    a = value codes.next ∧ after = codes.advance count := by
  by_cases room : codes.Room count
  · obtain ⟨same, rfl⟩ := Prod.mk.inj ((numbers.enough codes room).symm.trans ran)
    exact ⟨(Except.ok.inj same).symm, rfl⟩
  · obtain ⟨_, _, _, _, failed⟩ := numbers.short codes room
    rw [failed] at ran
    cases (Prod.mk.inj ran).1

/-- Computations that only take numbers fail when there are no more. -/
theorem Numbers.of_error {m : Numbering α} {count : Nat} {value : Int → α}
    (numbers : Numbers m count value) {codes after : ErrorCodes} {cause : CompileError}
    (ran : outcome m codes = (.error cause, after)) : cause = .codesExhausted after := by
  by_cases room : codes.Room count
  · rw [numbers.enough codes room] at ran
    cases (Prod.mk.inj ran).1
  · obtain ⟨_, _, _, _, failed⟩ := numbers.short codes room
    obtain ⟨same, rfl⟩ := Prod.mk.inj (failed.symm.trans ran)
    exact (Except.error.inj same).symm

/-- A sketch without triggers has the output that it has from any number on. -/
theorem Sketch.Yields.eq_numbered {sketch : Sketch} {output : Output}
    (yields : sketch.Yields output) (message : String) :
    ∃ code, output = sketch.numbered message code := by
  have ran : outcome (sketch.number message) { base := 0 } = (.ok output, { base := 0 }) := by
    rw [yields.number_eq, outcome_pure]
  exact ⟨_, ((numbers_sketch message sketch).of_ok ran).1⟩

end Steps

namespace Classified

variable {d : Classified}

/-- A generalization that is encoded has the output of its sketch. -/
theorem generalizationRules_ran {message : String} {generalization : Construct} {run after : Run}
    {output : Output}
    (ran : outcome (generalizationRules d message generalization) run = (.ok output, after)) :
    output = (d.generalizationSketch after.keys generalization).numbered message run.codes.next ∧
      after.codes =
        run.codes.advance (raisesIn (d.generalizationSketch after.keys generalization).parts) :=
  (numbers_sketch message _).of_ok
    ((follows_generalizationRules (answered_always d) message generalization).outcome_eq ran)

/-- The key of the superclass is the first that a generalization asks for. -/
theorem superclassKey_ran {message : String} {generalization : Construct}
    (listed : generalization ∈ d.ofKinds (·.isGeneralization)) {above : Link × Construct}
    (found : d.superclassEnd? generalization = some above)
    (someSubtype : d.subtypeEnds generalization ≠ []) (keyed : d.superclassKeys generalization ≠ [])
    {run after : Run} {output : Output}
    (ran : outcome (generalizationRules d message generalization) run = (.ok output, after)) :
    (d.tableKey above.2).answer run.session = after.keys above.2 := by
  obtain ⟨_, kind⟩ := mem_ofKinds_iff.1 listed
  have aboveIn := mem_nodes_of_mem_neighbours (superclassEnd_spec found).1
  obtain ⟨neighbour, rest, ends⟩ := List.exists_cons_of_ne_nil someSubtype
  have asked : d.questionsAbout generalization =
      d.tableKey above.2 >>= fun _ => d.tableKey neighbour.2 >>= fun _ =>
        rest.forM (fun other => do
          let _ ← d.tableKey above.2
          let _ ← d.tableKey other.2) := by
    have questions : (d.subtypeEnds generalization).isEmpty = false ∧
        (d.superclassKeys generalization).isEmpty = false := by simp [someSubtype, keyed]
    unfold questionsAbout
    cases known : generalization.kind with
    | generalizationDisjoint | generalizationOverlap =>
        simp only [found, questions, Bool.or_self, Bool.false_eq_true, if_false]
        rw [ends]
        rfl
    | _ =>
        rw [known] at kind
        simp [NodeKind.isGeneralization] at kind
  have mem : ∀ other ∈ neighbour :: rest, other ∈ d.subtypeEnds generalization :=
    fun other mem => ends ▸ mem
  have later : Proper (fun _ => True) (d.tableKey neighbour.2 >>= fun _ => rest.forM fun other => do
      let _ ← d.tableKey above.2
      let _ ← d.tableKey other.2) :=
    proper_bind (answered_always d _ (mem_nodes_of_mem_neighbours
        (mem_subtypeEnds_iff.1 (mem _ List.mem_cons_self)).1)).proper fun _ =>
      proper_forM fun other inRest =>
        proper_pair (answered_always d) found (mem other (List.mem_cons_of_mem _ inRest))
  have answered : (d.tableKey above.2).answer run.session = _ :=
    answer_of_memoAfter (reads_tableKey (answered_always d) aboveIn) (fun _ => later) trivial
  have remembers := (asks_generalizationRules (answered_always d) message kind run run.session rfl
    trivial _ after ran).2 output rfl
  rw [answered, ← asked, ← remembers]
  rfl

/-- How a relationship is numbered, with what is reserved after it. -/
def numberedSketch (d : Classified) (message : String) (keys : KeyTable) (reserved : Reservations)
    (node : Construct) : Numbering (Output × Reservations) := do
  let output ← (d.relationshipSketch keys reserved node).1.number message
  return (output, (d.relationshipSketch keys reserved node).2)

theorem numbers_numberedSketch (message : String) (keys : KeyTable) (reserved : Reservations)
    (node : Construct) :
    Numbers (d.numberedSketch message keys reserved node)
      (raisesIn (d.relationshipSketch keys reserved node).1.parts) fun code =>
        ((d.relationshipSketch keys reserved node).1.numbered message code,
          (d.relationshipSketch keys reserved node).2) :=
  numbers_bind (G := fun output _ => (output, (d.relationshipSketch keys reserved node).2))
    (numbers_sketch message _) fun _ => numbers_pure _

/-- A relationship has the outcome of its sketch for the keys that its participants have. -/
theorem relationship_ran {message : String} {reserved : Reservations} {node : Construct}
    (listed : node ∈ d.ofKind .relationship) {run after : Run}
    {result : Except CompileError (Output × Reservations)}
    (ran : outcome (relationship d message reserved node) run = (result, after)) :
    ((d.participants node).answer run.session).filter (·.link.kind.isCardinality) =
        d.relationshipEnds after.keys node ∧
      outcome (d.numberedSketch message after.keys reserved node) run.codes =
        (result, after.codes) := by
  obtain ⟨inNodes, kind⟩ := mem_ofKind_iff.1 listed
  have near := (answered_always d).participants node
  have remembers := memo_relationship (answered_always d) message reserved inNodes kind ran trivial
  obtain ⟨_, _, read⟩ := reads_participants near run.session trivial
  have ends := read _ (.refl _) _ (KeyTable.ofMemo_holds _)
  rw [← remembers] at ends
  refine ⟨by rw [ends]; rfl, ?_⟩
  rw [numberedSketch, ← numberRelationship_eq message after.keys reserved inNodes kind]
  exact (follows_relationship message reserved inNodes kind near).outcome_eq ran

/-- An associative entity has the output of its sketch for the keys that its participants have. -/
theorem associativeEntity_ran (entity : Construct) (session : Session) :
    let keys := KeyTable.ofMemo ((associativeEntity d entity).memoAfter session)
    (d.participants entity).answer session = d.participantsIn keys entity ∧
      (d.associativeSketch keys entity).Yields ((associativeEntity d entity).answer session) := by
  have near := (answered_always d).participants entity
  have proper : ∀ ends : List KeyedEnd, Proper (fun _ => True) (do
      note .debug .relationships
        ("Associative entity " ++ tableName entity.label ++ " participants "
          ++ Text.showList (ends.map (·.table)) ++ " ("
          ++ ((Cardinality.ofEnds? ((ends.map (·.link.kind)).filter (·.isCardinality))).map
              (·.text)).getD "unlabelled" ++ ")")
      let references ← d.associativeReferences entity
      if references.isEmpty then leaveOut (.associativeWithoutKey entity)
      else return .emit (associativeStatements (tableName entity.label) references)) := by
    intro ends
    refine proper_bind meets_note.proper fun _ => proper_bind
      (reads_associativeReferences (answered_always d) entity).proper fun references => ?_
    split
    · exact (draws_leaveOut _).proper
    · exact proper_pure _
  obtain ⟨_, _, drawn⟩ := draws_associativeEntity (answered_always d) entity session trivial
  exact ⟨answer_of_memoAfter (reads_participants near) proper trivial,
    drawn _ (.refl _) _ (KeyTable.ofMemo_holds _)⟩

end Classified

end EntitySchema
