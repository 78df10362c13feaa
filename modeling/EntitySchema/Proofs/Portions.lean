/-
# EntitySchema.Proofs.Portions -- what each phase contributed to a result

A result lists the statements and the issues of all phases one after the other, and how
many there are of each.  `CompileResult.statementsOf` and `CompileResult.issuesOf` cut
out those of a phase; together they are all there is (`flatMap_statementsOf`), and each is
the sketch of its phase, numbered from some number on (`exists_portion_of_compiled`).

Which number that is depends on the phases before it and on nothing else about the
construct.  `Statement.withoutNumbers` leaves the numbers of a trigger out, from the list of
its numbers and from the lines that raise them, and what is left is the content of the
sketch (`map_withoutNumbers_statementsOf`).
-/
import EntitySchema.Proofs.Raises
import EntitySchema.Proofs.WholeCopies

namespace EntitySchema

set_option autoImplicit false

/-! ## What a phase has contributed -/

/-- The entries of a phase, where those of all phases stand one after the other. -/
def portionOf {α : Type} (count : PhaseStatus → Nat) (phase : Phase) :
    List PhaseStatus → List α → List α
  | [], _ => []
  | status :: rest, items =>
      if status.phase = phase then items.take (count status)
      else portionOf count phase rest (items.drop (count status))

theorem portionOf_subset {α : Type} (count : PhaseStatus → Nat) (phase : Phase)
    (phases : List PhaseStatus) (items : List α) : portionOf count phase phases items ⊆ items := by
  induction phases generalizing items with
  | nil => exact List.nil_subset items
  | cons status rest ih =>
      rw [portionOf]
      split
      · exact List.take_subset _ items
      · exact List.Subset.trans (ih _) (List.drop_subset _ items)

/-- If no phase is listed twice and the counts add up to the entries, the portions of all
phases make up the entries. -/
theorem flatMap_portionOf {α : Type} {count : PhaseStatus → Nat} {phases : List PhaseStatus}
    (distinct : (phases.map (·.phase)).Nodup) {items : List α}
    (total : items.length = (phases.map count).sum) :
    (phases.map (·.phase)).flatMap (fun phase => portionOf count phase phases items) = items := by
  induction phases generalizing items with
  | nil => exact (List.length_eq_zero_iff.1 total).symm
  | cons status rest ih =>
      obtain ⟨new, distinctRest⟩ := List.nodup_cons.1 distinct
      rw [List.map_cons, List.sum_cons] at total
      have totalRest : (items.drop (count status)).length = (rest.map count).sum := by
        rw [List.length_drop, total, Nat.add_sub_cancel_left]
      have others : ∀ phase ∈ rest.map (·.phase), portionOf count phase (status :: rest) items =
          portionOf count phase rest (items.drop (count status)) := by
        intro phase mem
        have later : status.phase ≠ phase := by
          rintro rfl
          exact new mem
        rw [portionOf, if_neg later]
      rw [List.map_cons, List.flatMap_cons, List.flatMap_congr others, ih distinctRest totalRest,
        portionOf, if_pos rfl, List.take_append_drop]

namespace CompileResult

def statementsOf (result : CompileResult) (phase : Phase) : List Statement :=
  portionOf (·.statementCount) phase result.phases result.statements

def issuesOf (result : CompileResult) (phase : Phase) : List Issue :=
  portionOf (·.issueCount) phase result.phases result.issues

variable (phase other : Phase) (output : Output) (rest : List (Phase × Output)) (codes : ErrorCodes)

theorem statementsOf_ofOutputs_cons :
    (ofOutputs ((other, output) :: rest) codes).statementsOf phase =
      if other = phase then output.statements else (ofOutputs rest codes).statementsOf phase := by
  simp [statementsOf, ofOutputs, portionOf]

theorem issuesOf_ofOutputs_cons :
    (ofOutputs ((other, output) :: rest) codes).issuesOf phase =
      if other = phase then output.issues else (ofOutputs rest codes).issuesOf phase := by
  simp [issuesOf, ofOutputs, portionOf]

/-- The phases of an outline contribute their sketches, numbered from some number on. -/
theorem exists_portion (settings : Settings) (d : Classified) (keys : KeyTable) (codes : ErrorCodes)
    {phase : Phase} {phases : List Phase} (mem : phase ∈ phases) (code : Int) :
    ∃ first, (ofOutputs (numberedPhases settings d keys phases code) codes).statementsOf phase =
        numberParts settings.violationMessage first (phase.sketch settings d keys).parts ∧
      (ofOutputs (numberedPhases settings d keys phases code) codes).issuesOf phase =
        (phase.sketch settings d keys).issues := by
  induction phases generalizing code with
  | nil => exact absurd mem List.not_mem_nil
  | cons other rest ih =>
      simp only [numberedPhases, numberedFrom, statementsOf_ofOutputs_cons, issuesOf_ofOutputs_cons]
        at ih ⊢
      by_cases same : other = phase
      · subst same
        exact ⟨code, if_pos rfl, if_pos rfl⟩
      · rw [if_neg same, if_neg same]
        exact ih ((List.mem_cons.1 mem).resolve_left (Ne.symm same)) _

end CompileResult

theorem Phase.mem_all (phase : Phase) : phase ∈ all := by cases phase <;> decide

/-! ## Statements without numbers -/

/-- The line of a trigger without the number that it raises, if it is a raise. -/
def withoutNumber (line : String) : String :=
  match fromNumber? line with
  | none => line
  | some text =>
      String.ofList (line.toList.take (line.toList.length - text.length)
        ++ text.dropWhile (· ≠ ','))

/-- The statement with nothing said about numbers but how many there are. -/
def Statement.withoutNumbers : Statement → Statement
  | .createTrigger trigger =>
      .createTrigger
        { trigger with
          body := trigger.body.map withoutNumber
          errorCodes := trigger.errorCodes.map fun _ => 0 }
  | statement => statement

theorem withoutNumber_raiseLine {condition : String} (unbracketed : ')' ∉ condition.toList)
    (code : Int) (message : String) :
    withoutNumber ("\t" ++ raiseLine condition code message) =
      "\tIF (" ++ condition ++ ") THEN RAISE_APPLICATION_ERROR(-" ++ (", '" ++ message
        ++ "'); END IF;") := by
  have atComma : (", '" ++ message ++ "'); END IF;").toList.dropWhile (fun c => decide (c ≠ ',')) =
      (", '" ++ message ++ "'); END IF;").toList := by
    simp [String.toList_append]
  rw [withoutNumber, fromNumber?_raiseLine unbracketed]
  simp only [toList_raiseLine]
  rw [List.length_append, Nat.add_sub_cancel, List.take_left,
    List.dropWhile_append_of_pos (ne_comma_of_mem_toString code), atComma, ← String.toList_append,
    String.ofList_toList]

theorem map_withoutNumber_lines {rule : TriggerRule} (unbracketed : ')' ∉ rule.violation.toList)
    (message : String) (code other : Int) :
    (rule.lines message code).map withoutNumber = (rule.lines message other).map withoutNumber := by
  simp only [TriggerRule.lines, List.map_append, List.map_cons, List.map_nil,
    withoutNumber_raiseLine unbracketed]

theorem map_withoutNumber_linesFrom {rules : List TriggerRule} (unbracketed : Unbracketed rules)
    (message : String) (code other : Int) :
    (linesFrom message code rules).map withoutNumber =
      (linesFrom message other rules).map withoutNumber := by
  induction rules generalizing code other with
  | nil => rfl
  | cons rule rest ih =>
      have others := ih fun next mem => unbracketed next (List.mem_cons_of_mem rule mem)
      rw [linesFrom_cons, linesFrom_cons, List.map_append, List.map_append,
        map_withoutNumber_lines (unbracketed rule List.mem_cons_self) message code other,
        others (code + 1) (other + 1)]

/-- Without its numbers a trigger does not tell from which number on it was numbered. -/
theorem withoutNumbers_numbered {part : Part}
    (unbracketed : ∀ plan, part = .trigger plan → Unbracketed plan.rules) (message : String)
    (code other : Int) :
    (part.numbered message code).withoutNumbers = (part.numbered message other).withoutNumbers := by
  cases part with
  | plain | reference => rfl
  | trigger plan =>
      have body := map_withoutNumber_linesFrom (unbracketed plan rfl) (doubleQuotes message) code
        other
      have codes : ∀ first, (codesFrom first plan.rules.length).map (fun _ => (0 : Int)) =
          List.replicate plan.rules.length 0 := fun first => by
        rw [List.map_const', length_codesFrom]
      simp only [Part.numbered, TriggerPlan.numbered, Statement.withoutNumbers, body, codes]

/-- The statement of a content, without its numbers. -/
def bareContent (message : String) (content : Statement ⊕ TriggerPlan) : Statement :=
  ((numberedContent message content).2 0).withoutNumbers

/-- Without their numbers, statements depend on the content of parts alone, and no longer on what
was numbered before them. -/
theorem map_withoutNumbers_numberParts {parts : List Part}
    (unbracketed : ∀ plan, .trigger plan ∈ parts → Unbracketed plan.rules) (message : String)
    (code : Int) :
    (numberParts message code parts).map (·.withoutNumbers) =
      (parts.map Part.content).map (bareContent message) := by
  induction parts generalizing code with
  | nil => rfl
  | cons part rest ih =>
      have others := ih (fun plan mem => unbracketed plan (List.mem_cons_of_mem part mem))
        (code + part.raises)
      have here := withoutNumbers_numbered
        (fun plan same => unbracketed plan (same ▸ List.mem_cons_self)) message code 0
      have content : part.numbered message 0 = (numberedContent message part.content).2 0 :=
        congrArg (·.2 0) (numbered_eq_numberedContent message part)
      simp only [numberParts, numberedFrom, List.map_cons] at others ⊢
      rw [others, here, content, bareContent]

theorem mem_numberParts_of_plain {parts : List Part} {statement : Statement}
    (mem : .plain statement ∈ parts) (message : String) (code : Int) :
    statement ∈ numberParts message code parts := by
  induction parts generalizing code with
  | nil => exact absurd mem List.not_mem_nil
  | cons part rest ih =>
      rcases List.mem_cons.1 mem with rfl | inRest
      · exact List.mem_cons_self
      · exact List.mem_cons_of_mem _ (ih inRest _)

namespace Classified

/-- The conditions of the triggers of a phase have no closing bracket. -/
theorem unbracketed_of_mem_sketch {settings : Settings} {d : Classified} {keys : KeyTable}
    {phase : Phase} {plan : TriggerPlan}
    (mem : .trigger plan ∈ (phase.sketch settings d keys).parts) : Unbracketed plan.rules := by
  obtain ⟨sketch, inPhase, inSketch⟩ := List.mem_flatMap.1 mem
  obtain ⟨_, same, guards⟩ := triggers_of_mem_sketch inPhase inSketch trivial
  obtain rfl := Part.trigger.inj same
  exact guards.unbracketed

end Classified

/-! ## Results -/

open Classified

section Compiled

variable {settings : Settings} {diagram : Diagram} {d : Classified} {result : CompileResult}
  (read : diagram.classify = .ok d) (compiled : compile settings diagram = .ok result)

include read compiled

/-- The phases of a run contribute all there is in its result, one after the other. -/
theorem flatMap_statementsOf :
    Phase.all.flatMap result.statementsOf = result.statements ∧
      Phase.all.flatMap result.issuesOf = result.issues := by
  obtain ⟨_, same⟩ := (compile_eq_ok_iff read).1 compiled
  have phases : result.phases.map (·.phase) = Phase.all := by
    rw [same]
    rfl
  have distinct : (result.phases.map (·.phase)).Nodup := by
    rw [phases]
    decide
  rw [← phases]
  constructor
  · refine flatMap_portionOf distinct ?_
    simp [same, CompileResult.ofOutputs, List.length_flatMap, Function.comp_def]
  · refine flatMap_portionOf distinct ?_
    simp [same, CompileResult.ofOutputs, List.length_flatMap, Function.comp_def]

/-- A phase of a run contributes its sketch, numbered from some number on. -/
theorem exists_portion_of_compiled (phase : Phase) :
    ∃ first, result.statementsOf phase =
        numberParts settings.violationMessage first (phase.sketch settings d d.keysAsked).parts ∧
      result.issuesOf phase = (phase.sketch settings d d.keysAsked).issues := by
  obtain ⟨_, rfl⟩ := (compile_eq_ok_iff read).1 compiled
  exact CompileResult.exists_portion settings d d.keysAsked _ phase.mem_all _

/-- Without numbers the statements of a phase are the content of its sketch. -/
theorem map_withoutNumbers_statementsOf (phase : Phase) :
    (result.statementsOf phase).map (·.withoutNumbers) =
      ((phase.sketch settings d d.keysAsked).parts.map Part.content).map
        (bareContent settings.violationMessage) := by
  obtain ⟨first, statements, _⟩ := exists_portion_of_compiled read compiled phase
  rw [statements]
  exact map_withoutNumbers_numberParts (fun _ mem => unbracketed_of_mem_sketch mem) _ _

end Compiled

end EntitySchema
