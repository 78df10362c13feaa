/-
# EntitySchema.Proofs.Numbering -- numbers are handed out one after the other

How many numbers a trigger takes is known before any is handed out: one for each
rule.  So a computation that hands out numbers either has a value that depends on
the first number only, or stops at the first number that cannot be raised
(`Numbers`); which of the two it is depends only on how many are left
(`ErrorCodes.Room`).  Both are kept by sequencing (`numbers_bind`), so the statements
of an outline can be written down for any first number (`numberParts`).

`compile_eq_phases` says that a run, also one that fails, has the outcome of the
phases of its outline.
-/
import EntitySchema.Proofs.Rendition
import Mathlib.Algebra.GroupWithZero.Nat

namespace EntitySchema

set_option autoImplicit false

/-! ## Numbers that are left -/

def codesFrom (first : Int) (count : Nat) : List Int :=
  (List.range count).map fun (position : Nat) => first + position

theorem codesFrom_add (first : Int) (count more : Nat) :
    codesFrom first (count + more) = codesFrom first count ++ codesFrom (first + count) more := by
  simp [codesFrom, List.range_add, Function.comp_def, Int.add_assoc]

theorem codesFrom_succ (first : Int) (count : Nat) :
    codesFrom first (count + 1) = first :: codesFrom (first + 1) count := by
  simp [codesFrom, List.range_succ_eq_map, Function.comp_def, Int.add_assoc, Int.add_comm 1]

@[simp] theorem length_codesFrom (first : Int) (count : Nat) :
    (codesFrom first count).length = count := by
  simp [codesFrom]

namespace ErrorCodes

/-- As many more numbers as told can be raised. -/
def Room (codes : ErrorCodes) (count : Nat) : Prop :=
  count = 0 ∨ codes.next + count ≤ lastErrorCode + 1

/-- After as many more numbers as told. -/
def advance (codes : ErrorCodes) (count : Nat) : ErrorCodes :=
  { codes with count := codes.count + count }

variable {codes : ErrorCodes} {count more : Nat}

@[simp] theorem advance_zero (codes : ErrorCodes) : codes.advance 0 = codes := rfl

@[simp] theorem advance_advance :
    (codes.advance count).advance more = codes.advance (count + more) := by
  simp [advance, Nat.add_assoc]

@[simp] theorem next_advance : (codes.advance count).next = codes.next + count := by
  simp [advance, next, Int.add_assoc]

theorem issued_advance (base : Int) (count : Nat) :
    (advance { base } count).issued = codesFrom base count := by
  simp [issued, advance, codesFrom]

theorem room_zero (codes : ErrorCodes) : codes.Room 0 := .inl rfl

theorem room_add :
    codes.Room (count + more) ↔ codes.Room count ∧ (codes.advance count).Room more := by
  simp only [Room, next_advance]
  omega

theorem allocate?_of_room (room : codes.Room 1) :
    codes.allocate? = some (codes.next, codes.advance 1) := by
  have inRange : ¬codes.next > lastErrorCode := by
    simp only [Room] at room
    omega
  rw [allocate?, if_neg inRange]
  rfl

theorem allocate?_of_not_room (none : ¬codes.Room 1) : codes.allocate? = .none := by
  have past : codes.next > lastErrorCode := by
    simp only [Room] at none
    omega
  rw [allocate?, if_pos past]

end ErrorCodes

/-! ## Computations that take numbers -/

/-- A computation takes some numbers and has a value that depends on the first of
them; where not as many are left, it takes those that are and fails. -/
structure Numbers {α : Type} (m : Numbering α) (count : Nat) (value : Int → α) : Prop where
  enough : ∀ codes : ErrorCodes, codes.Room count →
    outcome m codes = (.ok (value codes.next), codes.advance count)
  short : ∀ codes : ErrorCodes, ¬codes.Room count → ∃ taken < count, codes.Room taken ∧
    ¬codes.Room (taken + 1) ∧
      outcome m codes = (.error (.codesExhausted (codes.advance taken)), codes.advance taken)

section Numbers

variable {α β : Type}

theorem numbers_pure (a : α) : Numbers (pure a) 0 fun _ => a where
  enough _ _ := rfl
  short codes none := absurd codes.room_zero none

/-- Two computations in a row take the numbers of both, the second from where the first has ended.
Where there are too few, it is the first of the two to run out that tells how far they went. -/
theorem numbers_bind {first : Numbering α} {next : α → Numbering β} {count more : Nat}
    {value : Int → α} {G : α → Int → β} (starts : Numbers first count value)
    (goesOn : ∀ a, Numbers (next a) more (G a)) :
    Numbers (first >>= next) (count + more) fun code => G (value code) (code + count) where
  enough codes room := by
    obtain ⟨roomFirst, roomNext⟩ := ErrorCodes.room_add.1 room
    rw [outcome_bind_of_ok (starts.enough codes roomFirst), (goesOn _).enough _ roomNext,
      ErrorCodes.next_advance, ErrorCodes.advance_advance]
  short codes none := by
    by_cases roomFirst : codes.Room count
    · have noneNext : ¬(codes.advance count).Room more :=
        fun roomNext => none (ErrorCodes.room_add.2 ⟨roomFirst, roomNext⟩)
      obtain ⟨taken, fewer, room, last, failed⟩ :=
        (goesOn (value codes.next)).short _ noneNext
      refine ⟨count + taken, by omega, ErrorCodes.room_add.2 ⟨roomFirst, room⟩, ?_, ?_⟩
      · rw [Nat.add_assoc]
        exact fun room => last (ErrorCodes.room_add.1 room).2
      · rw [outcome_bind_of_ok (starts.enough codes roomFirst), failed,
          ErrorCodes.advance_advance]
    · obtain ⟨taken, fewer, room, last, failed⟩ := starts.short codes roomFirst
      exact ⟨taken, by omega, room, last, outcome_bind_of_error failed⟩

/-- The values of items one after the other, each from the number that is next. -/
def numberedFrom (count : α → Nat) (value : α → Int → β) : Int → List α → List β
  | _, [] => []
  | code, item :: rest => value item code :: numberedFrom count value (code + count item) rest

theorem mem_numberedFrom {count : α → Nat} {value : α → Int → β} {code : Int} {items : List α}
    {b : β} (mem : b ∈ numberedFrom count value code items) :
    ∃ item ∈ items, ∃ first, b = value item first := by
  induction items generalizing code with
  | nil => simp [numberedFrom] at mem
  | cons item rest ih =>
      rcases List.mem_cons.1 mem with rfl | inRest
      · exact ⟨item, List.mem_cons_self, code, rfl⟩
      · obtain ⟨other, otherIn, first, rfl⟩ := ih inRest
        exact ⟨other, List.mem_cons_of_mem item otherIn, first, rfl⟩

theorem numbers_mapM {items : List α} {step : α → Numbering β} {count : α → Nat}
    {value : α → Int → β} (each : ∀ item, Numbers (step item) (count item) (value item)) :
    Numbers (items.mapM step) (items.map count).sum fun code =>
      numberedFrom count value code items := by
  induction items with
  | nil => exact numbers_pure []
  | cons item rest ih =>
      rw [List.mapM_cons, List.map_cons, List.sum_cons]
      exact numbers_bind (each item) fun b =>
        numbers_bind (G := fun found _ => b :: found) ih fun found => numbers_pure (b :: found)

end Numbers

/-! ## Triggers -/

/-- The lines of a rule whose raise has a number. -/
def TriggerRule.lines (rule : TriggerRule) (message : String) (code : Int) : List String :=
  ["IF " ++ rule.event ++ " THEN"]
    ++ (rule.counts.map (·.line) ++ [raiseLine rule.violation code message]).map ("\t" ++ ·)
    ++ ["END IF;"]

def linesFrom (message : String) (code : Int) (rules : List TriggerRule) : List String :=
  (numberedFrom (fun _ => 1) (fun rule => rule.lines message) code rules).flatten

theorem linesFrom_cons (message : String) (code : Int) (rule : TriggerRule)
    (rest : List TriggerRule) :
    linesFrom message code (rule :: rest) =
      rule.lines message code ++ linesFrom message (code + 1) rest := by
  simp [linesFrom, numberedFrom]

/-- The trigger of a plan, its raises numbered one after the other. -/
def TriggerPlan.numbered (message : String) (plan : TriggerPlan) (code : Int) : Trigger :=
  { name := plan.name, table := plan.table, counters := firstVariables plan.arity
    body := linesFrom (doubleQuotes message) code plan.rules, autonomous := plan.autonomous
    errorCodes := codesFrom code plan.rules.length }

namespace TriggerDraft

def withRules (draft : TriggerDraft) (code : Int) (rules : List TriggerRule) : TriggerDraft :=
  { draft with
    body := draft.body ++ linesFrom draft.message code rules
    errorCodes := draft.errorCodes ++ codesFrom code rules.length }

theorem withRules_cons (draft : TriggerDraft) (code : Int) (rule : TriggerRule)
    (rest : List TriggerRule) :
    (draft.withRules code [rule]).withRules (code + 1) rest =
      draft.withRules code (rule :: rest) := by
  simp only [withRules, linesFrom_cons, List.length_cons, codesFrom_succ]
  simp [linesFrom, numberedFrom, codesFrom]

/-- Declaring variables changes nothing but the variables. -/
theorem declareMany_eq (draft : TriggerDraft) (count : Nat) :
    draft.declareMany count =
      { draft with
        counters := draft.counters ++ (List.range count).map fun position =>
          variableName (draft.counters.length + position) } := by
  induction count generalizing draft with
  | zero => simp [declareMany]
  | succ count ih =>
      simp only [declareMany, ih, declare, List.range_succ_eq_map, List.map_cons, List.map_map,
        Nat.add_zero, List.append_assoc, List.cons_append, List.nil_append, List.length_append,
        List.length_cons, List.length_nil, Function.comp_def, Nat.succ_eq_add_one,
        Nat.add_assoc, Nat.zero_add, Nat.add_comm 1]

end TriggerDraft

theorem numbers_rule (draft : TriggerDraft) (rule : TriggerRule) :
    Numbers (rule.number draft) 1 fun code => draft.withRules code [rule] where
  enough codes room := by
    simp [outcome_number, TriggerRule.addTo?, TriggerDraft.raiseIf?,
      ErrorCodes.allocate?_of_room room, TriggerDraft.withRules, TriggerDraft.block, linesFrom,
      numberedFrom, TriggerRule.lines, codesFrom]
  short codes none := by
    refine ⟨0, Nat.one_pos, codes.room_zero, none, ?_⟩
    simp [outcome_number, TriggerRule.addTo?, TriggerDraft.raiseIf?,
      ErrorCodes.allocate?_of_not_room none]

/-- Each rule takes one number, so a list of rules takes as many as it is long. -/
theorem numbers_rules (rules : List TriggerRule) (draft : TriggerDraft) :
    Numbers (rules.foldlM TriggerRule.number draft) rules.length fun code =>
      draft.withRules code rules := by
  induction rules generalizing draft with
  | nil =>
      have unchanged : ∀ code, draft.withRules code [] = draft := by
        simp [TriggerDraft.withRules, linesFrom, numberedFrom, codesFrom]
      simp only [unchanged]
      exact numbers_pure draft
  | cons rule rest ih =>
      have split := fun code => draft.withRules_cons code rule rest
      simp only [List.foldlM_cons, List.length_cons, ← split]
      rw [Nat.add_comm]
      exact numbers_bind (numbers_rule draft rule) fun drafted => ih drafted

theorem numbers_plan (message : String) (plan : TriggerPlan) :
    Numbers (plan.number message) plan.rules.length (plan.numbered message) := by
  have built : ∀ code, (((TriggerDraft.start message).declareMany plan.arity).withRules code
      plan.rules).build plan.name plan.table plan.autonomous = plan.numbered message code := by
    intro code
    simp [TriggerDraft.declareMany_eq, TriggerDraft.withRules, TriggerDraft.build,
      TriggerDraft.start, TriggerPlan.numbered, firstVariables]
  rw [← funext built]
  exact numbers_bind (numbers_rules plan.rules _) fun draft =>
    numbers_pure (draft.build plan.name plan.table plan.autonomous)

/-! ## Parts -/

def Part.raises : Part → Nat
  | .trigger plan => plan.rules.length
  | .plain _ | .reference _ _ _ => 0

def Part.numbered (message : String) : Part → Int → Statement
  | .plain statement, _ => statement
  | .reference _ _ key, _ => .addForeignKey key
  | .trigger plan, code => .createTrigger (plan.numbered message code)

theorem Part.fits_numbered (part : Part) (message : String) (code : Int) :
    part.Fits (part.numbered message code) := by
  cases part with
  | plain | reference => exact rfl
  | trigger plan => exact ⟨_, rfl, rfl, rfl⟩

def raisesIn (parts : List Part) : Nat := (parts.map Part.raises).sum

/-- The statements of parts, their raises numbered one after the other. -/
def numberParts (message : String) (code : Int) (parts : List Part) : List Statement :=
  numberedFrom Part.raises (Part.numbered message) code parts

theorem raisesIn_append (first second : List Part) :
    raisesIn (first ++ second) = raisesIn first + raisesIn second := by
  simp [raisesIn]

theorem numberParts_append (message : String) (code : Int) (first second : List Part) :
    numberParts message code (first ++ second) =
      numberParts message code first ++ numberParts message (code + raisesIn first) second := by
  induction first generalizing code with
  | nil => simp [numberParts, numberedFrom, raisesIn]
  | cons part rest ih =>
      simp only [numberParts, raisesIn] at ih ⊢
      simp [numberedFrom, ih, Int.add_assoc]

theorem numbers_part (message : String) (part : Part) :
    Numbers (part.number message) part.raises (part.numbered message) := by
  cases part with
  | plain statement => exact numbers_pure statement
  | reference site target key => exact numbers_pure (Statement.addForeignKey key)
  | trigger plan =>
      exact numbers_bind (numbers_plan message plan) fun trigger =>
        numbers_pure (Statement.createTrigger trigger)

def Sketch.numbered (message : String) (sketch : Sketch) (code : Int) : Output :=
  { statements := numberParts message code sketch.parts, issues := sketch.issues }

theorem numbers_sketch (message : String) (sketch : Sketch) :
    Numbers (sketch.number message) (raisesIn sketch.parts) (sketch.numbered message) :=
  numbers_bind (G := fun statements _ => Output.mk statements sketch.issues)
    (numbers_mapM fun part => numbers_part message part) fun statements =>
      numbers_pure (Output.mk statements sketch.issues)

/-! ## Phases -/

/-- The phases of an outline, their triggers numbered. -/
def numberPhases (settings : Settings) (d : Classified) (keys : KeyTable) (phases : List Phase) :
    Numbering (List (Phase × Output)) :=
  phases.mapM fun phase => do
    return (phase, ← (phase.sketch settings d keys).number settings.violationMessage)

section Phases

variable (settings : Settings) (d : Classified) (keys : KeyTable)

def numberedPhases (phases : List Phase) (code : Int) : List (Phase × Output) :=
  numberedFrom (fun phase => raisesIn (phase.sketch settings d keys).parts)
    (fun phase code =>
      (phase, (phase.sketch settings d keys).numbered settings.violationMessage code))
    code phases

def raisesOf (phases : List Phase) : Nat :=
  raisesIn (phases.flatMap fun phase => (phase.sketch settings d keys).parts)

/-- The phases share one supply of numbers and take from it in their order. -/
theorem numbers_phases (phases : List Phase) :
    Numbers (numberPhases settings d keys phases) (raisesOf settings d keys phases)
      (numberedPhases settings d keys phases) := by
  have count : raisesOf settings d keys phases =
      (phases.map fun phase => raisesIn (phase.sketch settings d keys).parts).sum := by
    induction phases with
    | nil => rfl
    | cons phase rest ih =>
        rw [raisesOf] at ih ⊢
        rw [List.flatMap_cons, raisesIn_append, ih, List.map_cons, List.sum_cons]
  rw [count]
  exact numbers_mapM fun phase =>
    numbers_bind (G := fun output _ => (phase, output)) (numbers_sketch _ _) fun output =>
      numbers_pure (phase, output)

theorem statements_numberedPhases (phases : List Phase) (code : Int) :
    (numberedPhases settings d keys phases code).flatMap (·.2.statements) =
      numberParts settings.violationMessage code
        (phases.flatMap fun phase => (phase.sketch settings d keys).parts) := by
  induction phases generalizing code with
  | nil => rfl
  | cons phase rest ih =>
      rw [List.flatMap_cons, numberParts_append, ← ih]
      rfl

end Phases

/-! ## Runs -/

open Classified

variable {settings : Settings} {diagram : Diagram} {d : Classified}

/-- A run has the outcome of the phases of its outline. -/
theorem compile_eq_phases (settings : Settings) (read : diagram.classify = .ok d) :
    ∃ said after, outcome (numberPhases settings d (keysAfter settings diagram d) Phase.all)
        (Run.start settings.errorCodeBase).codes = (said, after) ∧
      compile settings diagram = said.map (CompileResult.ofOutputs · after) := by
  obtain ⟨before, forgot, unnumbered, same⟩ := ran_of_classified settings read
  cases phasesRan : outcome (Phase.all.mapM (runPhase settings d)) before with
  | mk said after =>
      obtain ⟨ended, remembers⟩ := same said after phasesRan
      obtain ⟨_, _, follow⟩ := follows_phases (answered_told d) settings Phase.all before said after
        phasesRan (forgot ▸ founded_nil Told)
      have grows := (closingMemo_spec settings read (answered_told d) (founded_nil Told)).1
      refine ⟨said, after.codes, ?_, (compile_eq settings diagram).trans ended⟩
      rw [← unnumbered]
      exact follow _ (remembers ▸ grows) _ (KeyTable.ofMemo_holds _)

theorem next_start (base : Int) : (Run.start base).codes.next = base := by
  simp [ErrorCodes.next, Run.start]

/-- What is made of the phases of an outline is numbered from the base. -/
theorem eq_ofOutputs_of_outcome {keys : KeyTable} {result : CompileResult}
    {said : Except CompileError (List (Phase × Output))} {after : ErrorCodes}
    (ended : outcome (numberPhases settings d keys Phase.all)
      (Run.start settings.errorCodeBase).codes = (said, after))
    (made : said.map (CompileResult.ofOutputs · after) = .ok result) :
    let codes := (Run.start settings.errorCodeBase).codes
    codes.Room (raisesOf settings d keys Phase.all) ∧
      result = .ofOutputs (numberedPhases settings d keys Phase.all settings.errorCodeBase)
        (codes.advance (raisesOf settings d keys Phase.all)) := by
  intro codes
  have numbers := numbers_phases settings d keys Phase.all
  by_cases room : codes.Room (raisesOf settings d keys Phase.all)
  · obtain ⟨rfl, rfl⟩ := Prod.mk.inj ((numbers.enough _ room).symm.trans ended)
    rw [next_start] at made
    exact ⟨room, (Except.ok.inj made).symm⟩
  · obtain ⟨taken, _, _, _, failed⟩ := numbers.short _ room
    obtain ⟨rfl, rfl⟩ := Prod.mk.inj (failed.symm.trans ended)
    simp [Except.map] at made

/-- A result is made of the phases of an outline, numbered from the base. -/
theorem result_eq_ofOutputs {result : CompileResult} (read : diagram.classify = .ok d)
    (compiled : compile settings diagram = .ok result) :
    let codes := (Run.start settings.errorCodeBase).codes
    let keys := keysAfter settings diagram d
    codes.Room (raisesOf settings d keys Phase.all) ∧
      result = .ofOutputs (numberedPhases settings d keys Phase.all settings.errorCodeBase)
        (codes.advance (raisesOf settings d keys Phase.all)) := by
  obtain ⟨said, after, ended, same⟩ := compile_eq_phases settings read
  exact eq_ofOutputs_of_outcome ended (same.symm.trans compiled)

/-- The statements of a run are the parts of its outline, numbered from the base. -/
theorem statements_eq_numberParts {result : CompileResult} (read : diagram.classify = .ok d)
    (compiled : compile settings diagram = .ok result) :
    let parts := outline settings d (keysAfter settings diagram d)
    (Run.start settings.errorCodeBase).codes.Room (raisesIn parts) ∧
      result.statements = numberParts settings.violationMessage settings.errorCodeBase parts ∧
      result.errorCodes = codesFrom settings.errorCodeBase (raisesIn parts) := by
  obtain ⟨room, rfl⟩ := result_eq_ofOutputs read compiled
  exact ⟨room, statements_numberedPhases settings d _ Phase.all _,
    ErrorCodes.issued_advance settings.errorCodeBase _⟩

end EntitySchema
