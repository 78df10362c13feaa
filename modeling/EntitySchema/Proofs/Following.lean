/-
# EntitySchema.Proofs.Following -- computations that have the outcome of a sketch

`Follows` relates a computation that asks for keys and hands out numbers to one
that only hands out numbers, given a table of keys: from every run they have the
same outcome, failures included, for each table that holds what is remembered
from then on.  It is closed under sequencing (`follows_bind`), and a question is
followed by its answer (`follows_ask`).

An inquiry without triggers need not be numbered: `Draws` says that its output
is the plain reading of a sketch (`Sketch.Yields`), and `follows_of_draws` makes
it a case of `Follows`.
-/
import EntitySchema.Proofs.Outline

namespace EntitySchema

open Inquiry

set_option autoImplicit false

/-! ## Related lists -/

section Related

variable {α β : Type} {R : α → β → Prop} {first : List α} {second : List β}

theorem exists_of_mem_left (related : List.Forall₂ R first second) {a : α} (mem : a ∈ first) :
    ∃ b ∈ second, R a b := by
  induction related with
  | nil => simp at mem
  | @cons _ b _ _ here _ ih =>
      rcases List.mem_cons.1 mem with rfl | mem
      · exact ⟨b, List.mem_cons_self, here⟩
      · obtain ⟨found, inRest, there⟩ := ih mem
        exact ⟨found, List.mem_cons_of_mem b inRest, there⟩

theorem exists_of_mem_right (related : List.Forall₂ R first second) {b : β} (mem : b ∈ second) :
    ∃ a ∈ first, R a b := by
  induction related with
  | nil => simp at mem
  | @cons a _ _ _ here _ ih =>
      rcases List.mem_cons.1 mem with rfl | mem
      · exact ⟨a, List.mem_cons_self, here⟩
      · obtain ⟨found, inRest, there⟩ := ih mem
        exact ⟨found, List.mem_cons_of_mem a inRest, there⟩

end Related

/-! ## Outcomes -/

section Outcome

variable {σ α β : Type}

/-- The outcome of a computation that may fail, and the state after it. -/
def outcome (m : ExceptT CompileError (StateM σ) α) (state : σ) : Except CompileError α × σ :=
  StateT.run (ExceptT.run m) state

@[simp] theorem outcome_pure (a : α) (state : σ) :
    outcome (pure a : ExceptT CompileError (StateM σ) α) state = (.ok a, state) := rfl

theorem outcome_bind_of_ok {first : ExceptT CompileError (StateM σ) α}
    {next : α → ExceptT CompileError (StateM σ) β} {state after : σ} {a : α}
    (ran : outcome first state = (.ok a, after)) :
    outcome (first >>= next) state = outcome (next a) after := by
  simp only [outcome] at ran ⊢
  rw [ExceptT.run_bind, StateT.run_bind, ran]
  rfl

theorem outcome_bind_of_error {first : ExceptT CompileError (StateM σ) α}
    {next : α → ExceptT CompileError (StateM σ) β} {state after : σ} {cause : CompileError}
    (ran : outcome first state = (.error cause, after)) :
    outcome (first >>= next) state = (.error cause, after) := by
  simp only [outcome] at ran ⊢
  rw [ExceptT.run_bind, StateT.run_bind, ran]
  rfl

/-- A computation that succeeds has succeeded at every step. -/
theorem outcome_bind_inv {first : ExceptT CompileError (StateM σ) α}
    {next : α → ExceptT CompileError (StateM σ) β} {state last : σ} {b : β}
    (ran : outcome (first >>= next) state = (.ok b, last)) :
    ∃ a middle, outcome first state = (.ok a, middle) ∧ outcome (next a) middle = (.ok b, last) := by
  cases firstRan : outcome first state with
  | mk said middle =>
      cases said with
      | ok a => exact ⟨a, middle, rfl, (outcome_bind_of_ok firstRan).symm.trans ran⟩
      | error cause =>
          rw [outcome_bind_of_error firstRan] at ran
          simp at ran

/-- A computation that fails has failed at its first step, or after it. -/
theorem outcome_bind_error_inv {first : ExceptT CompileError (StateM σ) α}
    {next : α → ExceptT CompileError (StateM σ) β} {state last : σ} {cause : CompileError}
    (failed : outcome (first >>= next) state = (.error cause, last)) :
    outcome first state = (.error cause, last) ∨
      ∃ a middle, outcome first state = (.ok a, middle) ∧
        outcome (next a) middle = (.error cause, last) := by
  cases firstRan : outcome first state with
  | mk said middle =>
      cases said with
      | ok a => exact .inr ⟨a, middle, rfl, (outcome_bind_of_ok firstRan).symm.trans failed⟩
      | error other =>
          rw [outcome_bind_of_error firstRan] at failed
          obtain ⟨same, rfl⟩ := Prod.mk.inj failed
          exact .inl (by rw [Except.error.inj same])

/-- Where a sequence of steps fails, the steps before some step succeed and it fails. -/
theorem outcome_mapM_error_inv {items : List α} {step : α → ExceptT CompileError (StateM σ) β}
    {state last : σ} {cause : CompileError}
    (failed : outcome (items.mapM step) state = (.error cause, last)) :
    ∃ earlier item later results middle, items = earlier ++ item :: later ∧
      outcome (earlier.mapM step) state = (.ok results, middle) ∧
        outcome (step item) middle = (.error cause, last) := by
  induction items generalizing state with
  | nil => simp at failed
  | cons item rest ih =>
      rw [List.mapM_cons] at failed
      obtain here | ⟨b, after, here, failed⟩ := outcome_bind_error_inv failed
      · exact ⟨[], item, rest, [], state, rfl, rfl, here⟩
      obtain there | ⟨others, _, _, failed⟩ := outcome_bind_error_inv failed
      · obtain ⟨earlier, failing, later, results, middle, rfl, ran, stopped⟩ := ih there
        refine ⟨item :: earlier, failing, later, b :: results, middle, rfl, ?_, stopped⟩
        rw [List.mapM_cons, outcome_bind_of_ok here, outcome_bind_of_ok ran, outcome_pure]
      · simp at failed

/-- A sequence of steps that succeeds is a sequence of successes, each from the state that the one
before it left. -/
theorem outcome_mapM_inv {items : List α} {step : α → ExceptT CompileError (StateM σ) β}
    {state last : σ} {results : List β}
    (ran : outcome (items.mapM step) state = (.ok results, last)) :
    List.Forall₂ (fun item b => ∃ before after, outcome (step item) before = (.ok b, after))
      items results := by
  induction items generalizing state last results with
  | nil =>
      obtain rfl : [] = results := by simpa using congrArg Prod.fst ran
      exact .nil
  | cons item rest ih =>
      rw [List.mapM_cons] at ran
      obtain ⟨b, middle, here, ran⟩ := outcome_bind_inv ran
      obtain ⟨others, after, there, ran⟩ := outcome_bind_inv ran
      obtain rfl : b :: others = results := by simpa using congrArg Prod.fst ran
      exact .cons ⟨_, _, here⟩ (ih there)

end Outcome

/-! ## Following -/

section Follows

variable {α β : Type} {P : Memo → Prop}

/-- The memo grows and keeps `P`, and for every table that holds what is
remembered later the numbering has the same outcome. -/
def Follows (P : Memo → Prop) (m : Issuing α) (numbering : KeyTable → Numbering α) : Prop :=
  ∀ run result after, outcome m run = (result, after) → P run.session.resolved →
    Memo.Grows run.session.resolved after.session.resolved ∧ P after.session.resolved ∧
      ∀ later, Memo.Grows after.session.resolved later → ∀ keys : KeyTable, keys.Holds later →
        outcome (numbering keys) run.codes = (result, after.codes)

theorem Follows.of_eq {m : Issuing α} {first second : KeyTable → Numbering α}
    (follows : Follows P m first) (same : ∀ keys, first keys = second keys) :
    Follows P m second := by
  rwa [← show first = second from funext same]

theorem follows_pure (a : α) : Follows P (pure a) fun _ => pure a := by
  rintro run result after ran kept
  obtain ⟨rfl, rfl⟩ := Prod.mk.inj ran
  exact ⟨.refl _, kept, fun _ _ _ _ => rfl⟩

theorem follows_throw (cause : CompileError) :
    Follows P (throw cause : Issuing α) fun _ => throw cause := by
  rintro run result after ran kept
  obtain ⟨rfl, rfl⟩ := Prod.mk.inj ran
  exact ⟨.refl _, kept, fun _ _ _ _ => rfl⟩

/-- Computations that follow readings can be put one after the other.  The first leaves a memo that
only grows from there on, so a table that holds what is remembered at the end holds what the first
one has read. -/
theorem follows_bind {first : Issuing α} {next : α → Issuing β} {F : KeyTable → Numbering α}
    {G : α → KeyTable → Numbering β} (starts : Follows P first F)
    (goesOn : ∀ a, Follows P (next a) (G a)) :
    Follows P (first >>= next) fun keys => F keys >>= fun a => G a keys := by
  intro run result last ran kept
  cases firstRan : outcome first run with
  | mk said middle =>
      obtain ⟨grows, keptOn, same⟩ := starts run said middle firstRan kept
      cases said with
      | ok a =>
          rw [outcome_bind_of_ok firstRan] at ran
          obtain ⟨growsOn, keptLast, sameOn⟩ := goesOn a middle result last ran keptOn
          refine ⟨grows.trans growsOn, keptLast, fun later reached keys holds => ?_⟩
          rw [outcome_bind_of_ok (same later (growsOn.trans reached) keys holds)]
          exact sameOn later reached keys holds
      | error cause =>
          rw [outcome_bind_of_error firstRan] at ran
          obtain ⟨rfl, rfl⟩ := Prod.mk.inj ran
          refine ⟨grows, keptOn, fun later reached keys holds => ?_⟩
          exact outcome_bind_of_error (same later reached keys holds)

/-- A question, and what is done with its answer. -/
theorem follows_ask {inquiry : Inquiry α} {next : α → Issuing β} {answers : KeyTable → α}
    {G : α → KeyTable → Numbering β} (reads : Reads P inquiry answers)
    (goesOn : ∀ keys, Follows P (next (answers keys)) (G (answers keys))) :
    Follows P ((liftM inquiry : Issuing α) >>= next) fun keys => G (answers keys) keys := by
  intro run result last ran kept
  obtain ⟨grows, keptOn, read⟩ := reads run.session kept
  have middle := read _ (.refl _) _ (KeyTable.ofMemo_holds _)
  have asked : outcome (liftM inquiry : Issuing α) run =
      (.ok (inquiry.answer run.session), { run with session := (StateT.run inquiry run.session).2 }) :=
    rfl
  rw [outcome_bind_of_ok asked, middle] at ran
  obtain ⟨growsOn, keptLast, same⟩ := goesOn _ _ result last ran keptOn
  refine ⟨grows.trans growsOn, keptLast, fun later reached keys holds => ?_⟩
  have alike : answers keys = answers (KeyTable.ofMemo _) :=
    (read later (growsOn.trans reached) keys holds).symm.trans middle
  show outcome (G (answers keys) keys) run.codes = _
  rw [alike]
  exact same later reached keys holds

theorem follows_note {level : Level} {component : Component} {text : String}
    {next : Unit → Issuing β} {numbering : KeyTable → Numbering β}
    (goesOn : Follows P (next ()) numbering) :
    Follows P ((liftM (note level component text) : Issuing Unit) >>= next) numbering :=
  follows_ask (G := fun _ keys => numbering keys) reads_note fun _ => goesOn

theorem follows_lift {inquiry : Inquiry α} {answers : KeyTable → α}
    (reads : Reads P inquiry answers) :
    Follows P (liftM inquiry : Issuing α) fun keys => pure (answers keys) := by
  have asked := follows_ask (G := fun a _ => pure a) reads fun keys =>
    follows_pure (answers keys)
  rwa [bind_pure] at asked

theorem follows_mapM {items : List α} {ask : α → Issuing β} {F : α → KeyTable → Numbering β}
    (each : ∀ item ∈ items, Follows P (ask item) (F item)) :
    Follows P (items.mapM ask) fun keys => items.mapM fun item => F item keys := by
  induction items with
  | nil => exact follows_pure []
  | cons item rest ih =>
      have others := ih fun other mem => each other (List.mem_cons_of_mem item mem)
      simp only [List.mapM_cons]
      exact follows_bind (each item List.mem_cons_self) fun b =>
        follows_bind others fun found => follows_pure (b :: found)

end Follows

/-! ## Triggers -/

variable {P : Memo → Prop}

theorem outcome_addRule (draft : TriggerDraft) (rule : TriggerRule) (run : Run) :
    outcome (addRule draft rule) run =
      match rule.addTo? draft run.codes with
      | some (drafted, codes) => (.ok drafted, { run with codes })
      | none => (.error (.codesExhausted run.codes), run) := by
  have opened : outcome (addRule draft rule) run =
      outcome (match rule.addTo? draft run.codes with
        | some (drafted, codes) => do
            modifyThe Run fun run => { run with codes }
            return drafted
        | none => throw (.codesExhausted run.codes) : Issuing TriggerDraft) run := rfl
  rw [opened]
  cases rule.addTo? draft run.codes <;> rfl

theorem outcome_number (draft : TriggerDraft) (rule : TriggerRule) (codes : ErrorCodes) :
    outcome (rule.number draft) codes =
      match rule.addTo? draft codes with
      | some (drafted, after) => (.ok drafted, after)
      | none => (.error (.codesExhausted codes), codes) := by
  have opened : outcome (rule.number draft) codes =
      outcome (match rule.addTo? draft codes with
        | some (drafted, after) => do
            set after
            return drafted
        | none => throw (.codesExhausted codes) : Numbering TriggerDraft) codes := rfl
  rw [opened]
  cases rule.addTo? draft codes <;> rfl

/-- Adding a rule to a draft asks for no key: only numbers are handed out. -/
theorem follows_addRule (draft : TriggerDraft) (rule : TriggerRule) :
    Follows P (addRule draft rule) fun _ => rule.number draft := by
  intro run result after ran kept
  rw [outcome_addRule] at ran
  simp only [outcome_number]
  cases added : rule.addTo? draft run.codes with
  | none =>
      rw [added] at ran
      obtain ⟨rfl, rfl⟩ := Prod.mk.inj ran
      exact ⟨.refl _, kept, fun _ _ _ _ => rfl⟩
  | some next =>
      rw [added] at ran
      obtain ⟨rfl, rfl⟩ := Prod.mk.inj ran
      exact ⟨.refl _, kept, fun _ _ _ _ => rfl⟩

theorem follows_addRules (rules : List TriggerRule) (draft : TriggerDraft) :
    Follows P (rules.foldlM addRule draft) fun _ => rules.foldlM TriggerRule.number draft := by
  induction rules generalizing draft with
  | nil => exact follows_pure draft
  | cons rule rest ih =>
      simp only [List.foldlM_cons]
      exact follows_bind (follows_addRule draft rule) ih

theorem follows_issue (message : String) (plan : TriggerPlan) :
    Follows P (plan.issue message) fun _ => plan.number message :=
  follows_bind (follows_addRules plan.rules _) fun draft =>
    follows_pure (draft.build plan.name plan.table plan.autonomous)

/-! ## Numbered sketches -/

theorem Part.fits_of_number {message : String} {part : Part} {statement : Statement}
    {before after : ErrorCodes} (ran : outcome (part.number message) before = (.ok statement, after)) :
    part.Fits statement := by
  cases part with
  | plain | reference =>
      exact congrArg (fun said => said.toOption) (congrArg Prod.fst ran)
  | trigger plan =>
      obtain ⟨trigger, middle, built, ended⟩ := outcome_bind_inv ran
      obtain ⟨draft, _, _, finished⟩ := outcome_bind_inv built
      obtain rfl : draft.build plan.name plan.table plan.autonomous = trigger := by
        simpa using congrArg Prod.fst finished
      exact ⟨_, by simpa using (congrArg Prod.fst ended).symm, rfl, rfl⟩

/-- The statements of a sketch are its parts, one by one. -/
theorem Sketch.fits_of_number {message : String} {sketch : Sketch} {output : Output}
    {before after : ErrorCodes}
    (ran : outcome (sketch.number message) before = (.ok output, after)) :
    List.Forall₂ Part.Fits sketch.parts output.statements ∧ output.issues = sketch.issues := by
  obtain ⟨statements, middle, numbered, ended⟩ := outcome_bind_inv ran
  obtain rfl : { statements, issues := sketch.issues } = output := by
    simpa using congrArg Prod.fst ended
  exact ⟨(outcome_mapM_inv numbered).imp fun _ _ ⟨_, _, one⟩ => Part.fits_of_number one, rfl⟩

/-! ## Sketches without triggers -/

/-- The output that a sketch without triggers has. -/
def Sketch.Yields (sketch : Sketch) (output : Output) : Prop :=
  sketch.parts.map Part.statement? = output.statements.map some ∧ sketch.issues = output.issues

/-- Parts without triggers are numbered by reading off their statements, and take no number. -/
theorem mapM_number_of_plain {message : String} {parts : List Part} {statements : List Statement}
    (plain : parts.map Part.statement? = statements.map some) :
    parts.mapM (Part.number message) = pure statements := by
  induction parts generalizing statements with
  | nil =>
      obtain rfl : statements = [] := by simpa using plain.symm
      rfl
  | cons part rest ih =>
      cases statements with
      | nil => simp at plain
      | cons statement others =>
          simp only [List.map_cons, List.cons.injEq] at plain
          obtain ⟨here, there⟩ := plain
          have numbered : part.number message = pure statement := by
            cases part with
            | plain | reference =>
                rw [← Option.some.inj here]
                rfl
            | trigger => simp [Part.statement?] at here
          rw [List.mapM_cons, numbered, ih there, pure_bind, pure_bind]

theorem Sketch.Yields.number_eq {message : String} {sketch : Sketch} {output : Output}
    (yields : sketch.Yields output) : sketch.number message = pure output := by
  obtain ⟨plain, same⟩ := yields
  rw [Sketch.number, mapM_number_of_plain plain, pure_bind, same]

theorem mapM_number_of_yields {message : String} {sketches : List Sketch} {outputs : List Output}
    (yields : List.Forall₂ Sketch.Yields sketches outputs) :
    sketches.mapM (·.number message) = pure outputs := by
  induction yields with
  | nil => rfl
  | cons head _ ih => rw [List.mapM_cons, head.number_eq, ih, pure_bind, pure_bind]

theorem mapM_number_plans (message : String) (plans : List TriggerPlan) :
    (plans.map Part.trigger).mapM (Part.number message) = do
      return (← plans.mapM (·.number message)).map Statement.createTrigger := by
  induction plans with
  | nil => rfl
  | cons plan rest ih =>
      simp only [List.map_cons, List.mapM_cons, ih, Part.number, bind_assoc, pure_bind]

/-- Statements with triggers after them: only the triggers are numbered. -/
theorem Sketch.number_of_plans (message : String) {parts : List Part}
    {statements : List Statement} (plain : parts.map Part.statement? = statements.map some)
    (plans : List TriggerPlan) (issues : List Issue) :
    Sketch.number message { parts := parts ++ plans.map .trigger, issues } = do
      let triggers ← plans.mapM (·.number message)
      return { statements := statements ++ triggers.map .createTrigger, issues } := by
  rw [Sketch.number, List.mapM_append, mapM_number_of_plain plain, mapM_number_plans]
  simp only [bind_assoc, pure_bind]

/-- Numbers go through sketches one after the other, so numbering their concatenation is numbering
each in turn. -/
theorem Sketch.number_concat (message : String) (sketches : List Sketch) :
    (Sketch.concat sketches).number message = do
      return Output.concat (← sketches.mapM (·.number message)) := by
  induction sketches with
  | nil => rfl
  | cons sketch rest ih =>
      have joined : ∀ output : Output,
          (do return Output.concat (output :: (← rest.mapM (·.number message))) : Numbering Output) =
            do
              let others ← (Sketch.concat rest).number message
              return { statements := output.statements ++ others.statements
                       issues := output.issues ++ others.issues } := by
        intro output
        rw [ih]
        simp [Output.concat]
      simp only [List.mapM_cons, bind_assoc, pure_bind, joined]
      simp [Sketch.number, Sketch.concat, List.mapM_append]

theorem Sketch.yields_concat {α : Type} {sketch : α → Sketch} {items : List α}
    {outputs : List Output}
    (each : List.Forall₂ (fun item output => (sketch item).Yields output) items outputs) :
    (Sketch.concat (items.map sketch)).Yields (Output.concat outputs) := by
  induction each with
  | nil => exact ⟨rfl, rfl⟩
  | cons head _ ih =>
      obtain ⟨plain, same⟩ := head
      obtain ⟨others, alike⟩ := ih
      simp only [Sketch.concat, Output.concat] at others alike
      constructor <;> simp [Sketch.concat, Output.concat, plain, same, others, alike]

/-- Statements that a construct makes for one target. -/
theorem Part.map_statement_of (site : Site) (target : Construct) (statements : List Statement) :
    (statements.map (Part.of site target)).map Part.statement? = statements.map some := by
  simp [Function.comp_def]

section Draws

variable {α : Type}

/-- The output is the plain reading of the sketch for every table that holds what
is remembered later. -/
def Draws (P : Memo → Prop) (inquiry : Inquiry Output) (sketch : KeyTable → Sketch) : Prop :=
  Meets P inquiry fun output later =>
    ∀ keys : KeyTable, keys.Holds later → (sketch keys).Yields output

theorem draws_pure {output : Output} {sketch : KeyTable → Sketch}
    (yields : ∀ keys, (sketch keys).Yields output) : Draws P (pure output) sketch :=
  meets_pure fun _ keys _ => yields keys

theorem draws_ask {inquiry : Inquiry α} {next : α → Inquiry Output} {answers : KeyTable → α}
    {S : α → KeyTable → Sketch} (reads : Reads P inquiry answers)
    (goesOn : ∀ keys, Draws P (next (answers keys)) (S (answers keys))) :
    Draws P (inquiry >>= next) fun keys => S (answers keys) keys := by
  refine (meets_bind reads (R := fun a output later => ∀ keys : KeyTable,
    keys.Holds later → (S a keys).Yields output) fun a memo read => ?_).mono ?_
  · rw [read _ (KeyTable.ofMemo_holds memo)]
    exact goesOn _
  · rintro output later ⟨a, read, yields⟩ keys holds
    obtain rfl := read keys holds
    exact yields keys holds

theorem draws_note {level : Level} {component : Component} {text : String}
    {next : Unit → Inquiry Output} {sketch : KeyTable → Sketch}
    (goesOn : Draws P (next ()) sketch) : Draws P (note level component text >>= next) sketch :=
  draws_ask (S := fun _ keys => sketch keys) reads_note fun _ => goesOn

theorem draws_leaveOut (omission : Omission) :
    Draws P (leaveOut omission) fun _ => omission.sketch :=
  fun _ kept => ⟨.refl _, kept, fun _ _ _ _ => ⟨rfl, rfl⟩⟩

/-- The outputs of some constructs, put together. -/
theorem draws_concat {items : List α} {draw : α → Inquiry Output}
    {sketch : α → KeyTable → Sketch} (each : ∀ item ∈ items, Draws P (draw item) (sketch item))
    {next : List Output → Inquiry Output}
    (joins : ∀ outputs, Meets P (next outputs) fun output _ => output = .concat outputs) :
    Draws P (items.mapM draw >>= next) fun keys =>
      .concat (items.map fun item => sketch item keys) := by
  refine (meets_bind (meets_mapM each) fun outputs _ _ => joins outputs).mono ?_
  rintro output later ⟨outputs, drawn, rfl⟩ keys holds
  exact Sketch.yields_concat (drawn.imp fun item output yields => yields keys holds)

theorem follows_of_draws {inquiry : Inquiry Output} {sketch : KeyTable → Sketch} (message : String)
    (draws : Draws P inquiry sketch) :
    Follows P (liftM inquiry : Issuing Output) fun keys => (sketch keys).number message := by
  intro run result last ran kept
  obtain ⟨grows, keptOn, drawn⟩ := draws run.session kept
  obtain ⟨rfl, rfl⟩ := Prod.mk.inj ran
  refine ⟨grows, keptOn, fun later reached keys holds => ?_⟩
  simp only [(drawn later reached keys holds).number_eq]
  rfl

/-- The phases that draw one construct after another and hand out no number follow their sketches.
-/
theorem follows_of_draws_mapM {items : List α} {draw : α → Inquiry Output}
    {sketch : α → KeyTable → Sketch} (message : String)
    (each : ∀ item ∈ items, Draws P (draw item) (sketch item)) :
    Follows P (liftM (items.mapM draw) : Issuing (List Output)) fun keys =>
      (items.map fun item => sketch item keys).mapM (·.number message) := by
  intro run result last ran kept
  obtain ⟨grows, keptOn, drawn⟩ := meets_mapM each run.session kept
  obtain ⟨rfl, rfl⟩ := Prod.mk.inj ran
  refine ⟨grows, keptOn, fun later reached keys holds => ?_⟩
  have yields : List.Forall₂ Sketch.Yields (items.map fun item => sketch item keys)
      ((items.mapM draw).answer run.session) :=
    List.forall₂_map_left_iff.2 ((drawn later reached).imp fun _ _ drew => drew keys holds)
  simp only [mapM_number_of_yields yields]
  rfl

end Draws

end EntitySchema
