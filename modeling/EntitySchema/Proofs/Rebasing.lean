/-
# EntitySchema.Proofs.Rebasing -- another base shifts the numbers and nothing else

Two runs of a diagram that differ in the base of their numbers make the same sketches
(`sketch_withBase`), so they take equally many numbers.  The base decides which numbers
those are and whether there are enough of them: a run from another base gets through
exactly if its last number can be raised, and otherwise it stops at the first number that
cannot (`compile_withBase`).

`Shifted` relates what the two runs yield, from a line of a trigger up to a result: all
is equal but for the numbers, and these differ by the difference of the bases.
-/
import EntitySchema.Proofs.Raises
import EntitySchema.Proofs.Questions

namespace EntitySchema

open Classified

set_option autoImplicit false

theorem ErrorCodeBase.first_le (base : ErrorCodeBase) : firstErrorCode ≤ base.1 := base.2.1

theorem ErrorCodeBase.le_last (base : ErrorCodeBase) : base.1 ≤ lastErrorCode := base.2.2

/-- The settings with another base of the numbers. -/
def Settings.withBase (settings : Settings) (base : ErrorCodeBase) : Settings :=
  { settings with
    errorCodeBase := base.1, first_le_base := base.first_le, base_le_last := base.le_last }

/-! ## Shifted numbers -/

/-- A line of a trigger and the line with the number that it raises shifted; a line that
is no raise stays as it is. -/
inductive LineShifted (shift : Int) : String → String → Prop
  | unnumbered {line : String} : raised? line = none → LineShifted shift line line
  | raise (condition message : String) (code : Int) :
      LineShifted shift ("\t" ++ raiseLine condition code message)
        ("\t" ++ raiseLine condition (code + shift) message)

/-- A trigger and the trigger with its numbers shifted, in the list of them and in the lines
that raise them. -/
structure Trigger.Shifted (shift : Int) (trigger image : Trigger) : Prop where
  name : image.name = trigger.name
  table : image.table = trigger.table
  counters : image.counters = trigger.counters
  autonomous : image.autonomous = trigger.autonomous
  body : List.Forall₂ (LineShifted shift) trigger.body image.body
  errorCodes : image.errorCodes = trigger.errorCodes.map (· + shift)

/-- A statement and the statement with its numbers shifted; only triggers have any. -/
inductive Statement.Shifted (shift : Int) : Statement → Statement → Prop
  | trigger {trigger image : Trigger} :
      trigger.Shifted shift image → Shifted shift (.createTrigger trigger) (.createTrigger image)
  | other {statement : Statement} :
      (∀ trigger, statement ≠ .createTrigger trigger) → Shifted shift statement statement

structure Output.Shifted (shift : Int) (output image : Output) : Prop where
  statements : List.Forall₂ (Statement.Shifted shift) output.statements image.statements
  issues : image.issues = output.issues

structure CompileResult.Shifted (shift : Int) (result image : CompileResult) : Prop where
  statements : List.Forall₂ (Statement.Shifted shift) result.statements image.statements
  phases : image.phases = result.phases
  issues : image.issues = result.issues
  errorCodes : image.errorCodes = result.errorCodes.map (· + shift)

section Shifting

variable {shift : Int}

theorem map_add_codesFrom (first shift : Int) (count : Nat) :
    (codesFrom first count).map (· + shift) = codesFrom (first + shift) count := by
  simp [codesFrom, Function.comp_def, Int.add_right_comm]

/-- Items that are numbered from a shifted number on have shifted values. -/
theorem shifted_numberedFrom {α β : Type} {R : β → β → Prop} {count : α → Nat}
    {value image : α → Int → β} {items : List α}
    (each : ∀ item ∈ items, ∀ code, R (value item code) (image item (code + shift)))
    (code : Int) :
    List.Forall₂ R (numberedFrom count value code items)
      (numberedFrom count image (code + shift) items) := by
  induction items generalizing code with
  | nil => exact .nil
  | cons item rest ih =>
      have others := ih (fun other mem => each other (List.mem_cons_of_mem item mem))
        (code + count item)
      rw [numberedFrom, numberedFrom, Int.add_right_comm]
      exact .cons (each item List.mem_cons_self code) others

/-! ### From rules to phases -/

/-- Only the last line but one of a block has a number in it, and this one is shifted. -/
theorem shifted_lines (rule : TriggerRule) (message : String) (code : Int) :
    List.Forall₂ (LineShifted shift) (rule.lines message code)
      (rule.lines message (code + shift)) := by
  have opened : List.Forall₂ (LineShifted shift) ["IF " ++ rule.event ++ " THEN"]
      ["IF " ++ rule.event ++ " THEN"] :=
    .cons (.unnumbered (raised?_event rule.event)) .nil
  have counted : List.Forall₂ (LineShifted shift) (rule.counts.map fun count => "\t" ++ count.line)
      (rule.counts.map fun count => "\t" ++ count.line) := by
    refine List.forall₂_same.2 fun line mem => ?_
    obtain ⟨count, _, rfl⟩ := List.mem_map.1 mem
    exact .unnumbered (raised?_count count)
  have raised : List.Forall₂ (LineShifted shift) ["\t" ++ raiseLine rule.violation code message]
      ["\t" ++ raiseLine rule.violation (code + shift) message] :=
    .cons (.raise rule.violation message code) .nil
  have closed : List.Forall₂ (LineShifted shift) ["END IF;"] ["END IF;"] :=
    .cons (.unnumbered rfl) .nil
  simp only [TriggerRule.lines, List.map_append, List.map_map, List.map_cons, List.map_nil]
  exact List.rel_append (List.rel_append opened (List.rel_append counted raised)) closed

theorem shifted_numbered (message : String) (plan : TriggerPlan) (code : Int) :
    (plan.numbered message code).Shifted shift (plan.numbered message (code + shift)) where
  name := rfl
  table := rfl
  counters := rfl
  autonomous := rfl
  body := List.rel_flatten <| shifted_numberedFrom
    (fun rule _ code => shifted_lines rule (doubleQuotes message) code) code
  errorCodes := (map_add_codesFrom code shift plan.rules.length).symm

/-- Parts whose triggers are all plans have shifted statements. -/
theorem shifted_numberParts {parts : List Part}
    (planned : ∀ part ∈ parts, part.Triggers → ∃ plan, part = .trigger plan)
    (message : String) (code : Int) :
    List.Forall₂ (Statement.Shifted shift) (numberParts message code parts)
      (numberParts message (code + shift) parts) := by
  refine shifted_numberedFrom (fun part mem code => ?_) code
  cases part with
  | plain statement =>
      refine .other fun trigger same => ?_
      subst same
      obtain ⟨_, isPlan⟩ := planned _ mem trivial
      exact Part.noConfusion isPlan
  | reference => exact .other fun _ => Statement.noConfusion
  | trigger plan => exact .trigger (shifted_numbered message plan code)

variable (settings : Settings) (base : ErrorCodeBase) (d : Classified) (keys : KeyTable)

/-- What a phase contributes does not depend on the base. -/
theorem sketch_withBase (phase : Phase) :
    phase.sketch (settings.withBase base) d keys = phase.sketch settings d keys := by
  cases phase <;> rfl

theorem raisesOf_withBase (phases : List Phase) :
    raisesOf (settings.withBase base) d keys phases = raisesOf settings d keys phases := by
  simp only [raisesOf, sketch_withBase]

theorem shifted_numberedPhases (shift : Int) (phases : List Phase) (code : Int) :
    List.Forall₂ (fun output image => image.1 = output.1 ∧ Output.Shifted shift output.2 image.2)
      (numberedPhases settings d keys phases code)
      (numberedPhases (settings.withBase base) d keys phases (code + shift)) := by
  have planned : ∀ phase : Phase, ∀ part ∈ (phase.sketch settings d keys).parts,
      part.Triggers → ∃ plan, part = .trigger plan := by
    intro phase part mem triggers
    obtain ⟨sketch, inPhase, inSketch⟩ := List.mem_flatMap.1 mem
    obtain ⟨plan, same, _⟩ := triggers_of_mem_sketch inPhase inSketch triggers
    exact ⟨plan, same⟩
  simp only [numberedPhases, sketch_withBase]
  exact shifted_numberedFrom (fun phase _ code =>
    ⟨rfl, shifted_numberParts (planned phase) settings.violationMessage code, rfl⟩) code

end Shifting

/-! ## Results -/

/-- Outputs with shifted numbers make a result with shifted numbers. -/
theorem shifted_ofOutputs {shift : Int} {outputs images : List (Phase × Output)}
    (shifted : List.Forall₂
      (fun output image => image.1 = output.1 ∧ Output.Shifted shift output.2 image.2)
      outputs images)
    {codes image : ErrorCodes} (issued : image.issued = codes.issued.map (· + shift)) :
    (CompileResult.ofOutputs outputs codes).Shifted shift (.ofOutputs images image) where
  statements := List.rel_flatMap shifted fun _ _ related => related.2.statements
  phases := by
    induction shifted with
    | nil => rfl
    | cons here _ ih =>
        simp only [CompileResult.ofOutputs, List.map_cons] at ih ⊢
        rw [ih, here.1, here.2.issues, here.2.statements.length_eq]
  issues := by
    induction shifted with
    | nil => rfl
    | cons here _ ih =>
        simp only [CompileResult.ofOutputs, List.flatMap_cons] at ih ⊢
        rw [ih, here.2.issues]
  errorCodes := issued

theorem issued_start_advance (settings : Settings) (count : Nat) :
    ((Run.start settings.errorCodeBase).codes.advance count).issued =
      codesFrom settings.errorCodeBase count :=
  ErrorCodes.issued_advance settings.errorCodeBase count

/-- A run that does not get through has handed out every number from its base on and asks
for the one past the last. -/
theorem exhausted_of_error {settings : Settings} {diagram : Diagram} {d : Classified}
    (read : diagram.classify = .ok d) {cause : CompileError}
    (failed : compile settings diagram = .error cause) :
    ∃ codes : ErrorCodes, cause = .codesExhausted codes ∧ codes.base = settings.errorCodeBase ∧
      codes.next = lastErrorCode + 1 := by
  have numbers := numbers_phases settings d d.keysAsked Phase.all
  obtain ⟨said, after, ended, same⟩ := compile_eq_numberPhases settings read
  rw [failed] at same
  have short : ¬(Run.start settings.errorCodeBase).codes.Room
      (raisesOf settings d d.keysAsked Phase.all) := by
    intro room
    obtain ⟨rfl, _⟩ := Prod.mk.inj ((numbers.enough _ room).symm.trans ended)
    simp [Except.map] at same
  obtain ⟨taken, _, room, last, stopped⟩ := numbers.short _ short
  obtain ⟨rfl, _⟩ := Prod.mk.inj (stopped.symm.trans ended)
  refine ⟨_, Except.error.inj same, rfl, ?_⟩
  have inRange := settings.base_le_last
  simp only [ErrorCodes.Room, ErrorCodes.next_advance] at room last ⊢
  simp only [ErrorCodes.next, Run.start] at room last ⊢
  omega

/-- From another base a run gets through exactly if all its numbers can be raised.  If it
does, its result is the same but for the numbers, which are shifted by the difference of the
bases; if not, it stops at the first number past the last. -/
theorem compile_withBase {settings : Settings} {diagram : Diagram} {result : CompileResult}
    (compiled : compile settings diagram = .ok result) (base : ErrorCodeBase) :
    ((∃ image, compile (settings.withBase base) diagram = .ok image) ↔
        base.1 + result.errorCodes.length ≤ lastErrorCode + 1) ∧
      (∀ image, compile (settings.withBase base) diagram = .ok image →
        result.Shifted (base.1 - settings.errorCodeBase) image) ∧
      ∀ cause, compile (settings.withBase base) diagram = .error cause →
        ∃ codes : ErrorCodes, cause = .codesExhausted codes ∧ codes.base = base.1 ∧
          codes.next = lastErrorCode + 1 := by
  obtain ⟨d, read⟩ := exists_classified compiled
  obtain ⟨_, rfl⟩ := (compile_eq_ok_iff read).1 compiled
  set count := raisesOf settings d d.keysAsked Phase.all with countEq
  -- both runs take `count` numbers; the base decides only whether there are as many
  have taken : raisesOf (settings.withBase base) d d.keysAsked Phase.all = count :=
    raisesOf_withBase settings base d d.keysAsked Phase.all
  have long : (CompileResult.ofOutputs
      (numberedPhases settings d d.keysAsked Phase.all settings.errorCodeBase)
      ((Run.start settings.errorCodeBase).codes.advance count)).errorCodes.length = count := by
    rw [CompileResult.ofOutputs, issued_start_advance, length_codesFrom]
  have room : (Run.start (settings.withBase base).errorCodeBase).codes.Room count ↔
      base.1 + count ≤ lastErrorCode + 1 := by
    have inRange := base.le_last
    simp only [ErrorCodes.Room, ErrorCodes.next, Run.start, Settings.withBase]
    omega
  have moved : settings.errorCodeBase + (base.1 - settings.errorCodeBase) = base.1 := by omega
  refine ⟨?_, fun image made => ?_, fun cause failed => exhausted_of_error read failed⟩
  · rw [long, ← room]
    constructor
    · rintro ⟨image, made⟩
      exact taken ▸ ((compile_eq_ok_iff read).1 made).1
    · intro enough
      exact ⟨_, (compile_eq_ok_iff read).2 ⟨taken ▸ enough, rfl⟩⟩
  · obtain ⟨_, rfl⟩ := (compile_eq_ok_iff read).1 made
    have outputs := shifted_numberedPhases settings base d d.keysAsked
      (base.1 - settings.errorCodeBase) Phase.all settings.errorCodeBase
    rw [moved] at outputs
    refine shifted_ofOutputs outputs ?_
    rw [issued_start_advance, issued_start_advance, map_add_codesFrom, moved, taken]
    rfl

/-- The twelve raises of `guarded` fit from the number 20988 on, and not from the next. -/
theorem guarded_withBase :
    ∃ result, compile { errorCodeBase := 20988 } guarded = .ok result ∧
      (∃ image, compile (Settings.withBase { errorCodeBase := 20988 } ⟨20000, by decide⟩) guarded =
          .ok image ∧ result.Shifted (-988) image) ∧
      ∃ codes : ErrorCodes, codes.next = 21000 ∧
        compile (Settings.withBase { errorCodeBase := 20988 } ⟨20989, by decide⟩) guarded =
          .error (.codesExhausted codes) := by
  have checked : (compile { errorCodeBase := 20988 } guarded).toOption.map
      (·.errorCodes.length) = some 12 := by decide +kernel
  obtain ⟨result, found, twelve⟩ := Option.map_eq_some_iff.1 checked
  have compiled := eq_ok_of_toOption found
  obtain ⟨fits, shifted, _⟩ := compile_withBase compiled ⟨20000, by decide⟩
  obtain ⟨fitsLater, _, exhausted⟩ := compile_withBase compiled ⟨20989, by decide⟩
  rw [twelve] at fits fitsLater
  obtain ⟨image, made⟩ := fits.2 (by decide)
  refine ⟨result, compiled, ⟨image, made, shifted image made⟩, ?_⟩
  cases ended : compile (Settings.withBase { errorCodeBase := 20988 } ⟨20989, by decide⟩)
      guarded with
  | ok image => exact absurd (fitsLater.1 ⟨image, ended⟩) (by decide)
  | error cause =>
      obtain ⟨codes, rfl, _, past⟩ := exhausted cause ended
      exact ⟨codes, past, rfl⟩

end EntitySchema
