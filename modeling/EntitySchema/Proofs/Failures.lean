/-
# EntitySchema.Proofs.Failures -- how a run can end

A run ends with a script, with the complaint about the first node or connection
that cannot be classified, or without numbers for its triggers.  Nothing else can
happen: what a step looks up is there (`LookupsSucceed`), and the ends that a
relationship is embedded between are found when they are looked for again, so no
run ends `unpaired`.

`FailsIn` says where a run without numbers stops.  A phase has the outcome of its
sketch, and a sketch fails only by taking a number too many, so the phase is one that
makes triggers (`failed_phase`).
-/
import EntitySchema.Proofs.Numbering
import EntitySchema.Proofs.Triggers

namespace EntitySchema

open Inquiry Classified

set_option autoImplicit false

/-! ## Runs that are cut short -/

/-- Classification and the first phases of a run. -/
def runUpTo (settings : Settings) (diagram : Diagram) (phases : List Phase) :
    Issuing (List (Phase × Output)) := do
  note .info .compilation
    ("Starting compilation: " ++ sizeText diagram.nodes.length diagram.connections.length)
  let d ← classifyNoted diagram
  phases.mapM (runPhase settings d)

/-- What the first phases of a run yield. -/
def reached (settings : Settings) (diagram : Diagram) (phases : List Phase) :
    Except CompileError (List (Phase × Output)) :=
  (outcome (runUpTo settings diagram phases) (Run.start settings.errorCodeBase)).1

/-- A run gets through all phases before the phase and fails in it. -/
def FailsIn (settings : Settings) (diagram : Diagram) (phase : Phase) (cause : CompileError) :
    Prop :=
  ∃ earlier later outputs, Phase.all = earlier ++ phase :: later ∧
    reached settings diagram earlier = .ok outputs ∧
      reached settings diagram (earlier ++ [phase]) = .error cause

section Runs

variable {settings : Settings} {diagram : Diagram} {d : Classified}

/-- The phases of a run start with nothing remembered and no number handed out. -/
theorem exists_start (settings : Settings) (read : diagram.classify = .ok d) :
    ∃ before : Run, before.session.resolved = [] ∧
      ∀ phases, outcome (runUpTo settings diagram phases) (Run.start settings.errorCodeBase) =
        outcome (phases.mapM (runPhase settings d)) before := by
  obtain ⟨before, classified, forgot, _⟩ := outcome_classifyNoted read
    ((Run.start settings.errorCodeBase).noted .info .compilation
      ("Starting compilation: " ++ sizeText diagram.nodes.length diagram.connections.length))
  refine ⟨before, forgot, fun phases => ?_⟩
  simp only [runUpTo, outcome_bind_of_ok (outcome_note _ _ _ _), outcome_bind_of_ok classified]

/-- A run is refused with the complaint about its classification. -/
theorem reached_of_refused {cause : ClassificationError} (refused : diagram.classify = .error cause)
    (settings : Settings) (phases : List Phase) :
    reached settings diagram phases = .error (.classification cause) := by
  obtain ⟨after, failed⟩ := outcome_classifyNoted_of_refused refused
    ((Run.start settings.errorCodeBase).noted .info .compilation
      ("Starting compilation: " ++ sizeText diagram.nodes.length diagram.connections.length))
  simp only [reached, runUpTo, outcome_bind_of_ok (outcome_note _ _ _ _),
    outcome_bind_of_error failed]

/-- What is left of a run after its phases. -/
def report (outputs : List (Phase × Output)) : Issuing CompileResult := do
  let result := CompileResult.ofOutputs outputs (← getThe Run).codes
  if !result.issues.isEmpty then
    note .warning .compilation
      ("Compilation finished with " ++ toString result.issues.length ++ " skipped construct(s)")
  note .info .compilation
    ("Compilation completed: " ++ toString result.statements.length ++ " statements")
  return result

theorem runPhases_eq (settings : Settings) (diagram : Diagram) :
    runPhases settings diagram = runUpTo settings diagram Phase.all >>= report := by
  simp only [runPhases, runUpTo, bind_assoc]
  rfl

theorem outcome_report (outputs : List (Phase × Output)) (run : Run) :
    (outcome (report outputs) run).1 = .ok (.ofOutputs outputs run.codes) := by
  have got : outcome (getThe Run : Issuing Run) run = (.ok run, run) := rfl
  unfold report
  simp only [outcome_bind_of_ok got]
  split <;> rfl

/-- A run succeeds if all of its phases do, and fails as they do. -/
theorem compile_of_reached (settings : Settings) (diagram : Diagram) :
    (∃ outputs result, reached settings diagram Phase.all = .ok outputs ∧
        compile settings diagram = .ok result) ∨
      ∃ cause, reached settings diagram Phase.all = .error cause ∧
        compile settings diagram = .error cause := by
  rw [compile_eq, ran, runPhases_eq, reached]
  cases phasesRan : outcome (runUpTo settings diagram Phase.all)
      (Run.start settings.errorCodeBase) with
  | mk said after =>
      cases said with
      | ok outputs =>
          rw [outcome_bind_of_ok phasesRan, outcome_report]
          exact .inl ⟨outputs, _, rfl, rfl⟩
      | error cause =>
          rw [outcome_bind_of_error phasesRan]
          exact .inr ⟨cause, rfl, rfl⟩

end Runs

/-! ## Phases that fail -/

theorem exists_trigger_of_raises {parts : List Part} (some : 0 < raisesIn parts) :
    ∃ plan, .trigger plan ∈ parts := by
  induction parts with
  | nil => simp [raisesIn] at some
  | cons part rest ih =>
      cases part with
      | trigger plan => exact ⟨plan, List.mem_cons_self⟩
      | plain | reference =>
          obtain ⟨plan, inRest⟩ := ih (by simpa [raisesIn, Part.raises] using some)
          exact ⟨plan, List.mem_cons_of_mem _ inRest⟩

variable {settings : Settings} {d : Classified} {P : Memo → Prop}

/-- A phase that fails is one that makes triggers, and has run out of numbers. -/
theorem failed_phase (answered : d.Answered P) {phase : Phase} {run after : Run}
    {cause : CompileError} (kept : P run.session.resolved)
    (failed : outcome (phase.synthesize settings d) run = (.error cause, after)) :
    (phase = .generalizations ∨ phase = .relationships) ∧
      ∃ codes : ErrorCodes, lastErrorCode < codes.next ∧ cause = .codesExhausted codes := by
  obtain ⟨_, _, follow⟩ := follows_synthesize answered settings phase run _ _ failed kept
  have numbered := follow _ (.refl _) _ (KeyTable.ofMemo_holds _)
  generalize KeyTable.ofMemo after.session.resolved = keys at numbered
  have numbers := numbers_sketch settings.violationMessage (phase.sketch settings d keys)
  by_cases room : run.codes.Room (raisesIn (phase.sketch settings d keys).parts)
  · have ended := (numbers.enough _ room).symm.trans numbered
    simp at ended
  · obtain ⟨taken, fewer, here, last, short⟩ := numbers.short _ room
    obtain ⟨same, _⟩ := Prod.mk.inj (short.symm.trans numbered)
    obtain ⟨plan, mem⟩ := exists_trigger_of_raises (Nat.zero_lt_of_lt fewer)
    obtain ⟨sketch, inPhase, inSketch⟩ := List.mem_flatMap.1 mem
    obtain ⟨_, _, guards⟩ := triggers_of_mem_sketch inPhase inSketch trivial
    refine ⟨guards.phase_eq, _, ?_, (Except.error.inj same).symm⟩
    simp only [ErrorCodes.Room, ErrorCodes.next_advance] at here last ⊢
    omega

/-- Where a run fails in its phases, it fails in one of them. -/
theorem failsIn_of_reached {diagram : Diagram} (read : diagram.classify = .ok d)
    {cause : CompileError} (failed : reached settings diagram Phase.all = .error cause) :
    ∃ phase codes, (phase = .generalizations ∨ phase = .relationships) ∧
      lastErrorCode < ErrorCodes.next codes ∧ cause = .codesExhausted codes ∧
        FailsIn settings diagram phase cause := by
  obtain ⟨before, forgot, same⟩ := exists_start settings read
  rw [reached, same] at failed
  obtain ⟨earlier, phase, later, outputs, middle, cut, passed, stopped⟩ :=
    outcome_mapM_error_inv (show outcome _ before = (.error cause, _) from Prod.ext failed rfl)
  obtain ⟨_, kept, _⟩ := follows_phases (answered_told d) settings earlier before _ middle passed
    (forgot ▸ founded_nil Told)
  have inPhase : ∃ after, outcome (phase.synthesize settings d) middle = (.error cause, after) := by
    obtain here | ⟨_, _, _, noted⟩ := outcome_bind_error_inv stopped
    · exact ⟨_, here⟩
    · simp only [outcome_bind_of_ok (outcome_note _ _ _ _)] at noted
      simp at noted
  obtain ⟨after, here⟩ := inPhase
  obtain ⟨which, codes, past, rfl⟩ := failed_phase (answered_told d) kept here
  refine ⟨phase, codes, which, past, rfl, earlier, later, outputs, cut, ?_, ?_⟩
  · rw [reached, same, passed]
  · rw [reached, same, List.mapM_append, outcome_bind_of_ok passed, List.mapM_cons, bind_assoc,
      outcome_bind_of_error stopped]

/-! ## Lookups -/

/-- Every link that touches a node leads to a node that its id finds. -/
def Classified.LookupsSucceed (d : Classified) : Prop :=
  ∀ id, ∀ link ∈ d.linksOf id, ∃ other,
    link.otherEnd? id = some other ∧ d.node? other.id = some other

theorem Classified.lookupsSucceed (d : Classified) : d.LookupsSucceed := by
  intro id link mem
  obtain ⟨inLinks, touches⟩ := List.mem_filter.1 mem
  obtain ⟨endA, endB⟩ := d.ends_mem link inLinks
  unfold Link.otherEnd?
  split
  · exact ⟨link.b, rfl, node?_id endB⟩
  · rename_i notA
    have atB : link.b.id = id := by
      have either : id = link.a.id ∨ id = link.b.id := by simpa [Link.touches] using touches
      exact (either.resolve_left fun same => notA same.symm).symm
    exact ⟨link.a, if_pos atB, node?_id endA⟩

/-! ## Ends of runs -/

/-- A run is refused at classification, or all its lookups succeed and it ends with a
script or, in one of the two phases that make triggers, without numbers. -/
theorem compile_ends (settings : Settings) (diagram : Diagram) :
    (∃ cause, diagram.classify = .error cause ∧
        compile settings diagram = .error (.classification cause)) ∨
      ∃ d, diagram.classify = .ok d ∧ d.LookupsSucceed ∧
        ((∃ result, compile settings diagram = .ok result) ∨
          ∃ phase codes, (phase = .generalizations ∨ phase = .relationships) ∧
            lastErrorCode < ErrorCodes.next codes ∧
              FailsIn settings diagram phase (.codesExhausted codes) ∧
                compile settings diagram = .error (.codesExhausted codes)) := by
  cases read : diagram.classify with
  | error refusal =>
      have refused := reached_of_refused read settings Phase.all
      obtain ⟨outputs, _, passed, _⟩ | ⟨cause, failed, ended⟩ := compile_of_reached settings diagram
      · simp [refused] at passed
      · obtain rfl := Except.error.inj (refused.symm.trans failed)
        exact .inl ⟨refusal, rfl, ended⟩
  | ok d =>
      refine .inr ⟨d, rfl, d.lookupsSucceed, ?_⟩
      obtain ⟨_, result, _, done⟩ | ⟨cause, failed, ended⟩ := compile_of_reached settings diagram
      · exact .inl ⟨result, done⟩
      · obtain ⟨phase, codes, which, past, rfl, failsIn⟩ := failsIn_of_reached read failed
        exact .inr ⟨phase, codes, which, past, failsIn, ended⟩

end EntitySchema
