/-
# EntitySchema.Compile.Basic -- from a diagram to a script

`compile` classifies the diagram and runs the phases one after the other.  The
script is made only after the last phase, so a run that fails leaves nothing
behind but its journal.  A result tells what each phase contributed, which
constructs were left out and which error numbers were handed out.
-/
import EntitySchema.Compile.Phase
import EntitySchema.Ddl.Script
import EntitySchema.Value.Shown

namespace EntitySchema

open Inquiry

set_option autoImplicit false

structure PhaseStatus where
  phase : Phase
  statementCount : Nat
  issueCount : Nat
  deriving DecidableEq, Repr

structure CompileResult where
  statements : List Statement
  phases : List PhaseStatus
  issues : List Issue
  errorCodes : List Int
  deriving DecidableEq, Repr

namespace CompileResult

def ddl (result : CompileResult) : String := scriptText result.statements

/-- What the phase with a name contributed. -/
def phase? (result : CompileResult) (name : String) : Option PhaseStatus :=
  result.phases.find? (·.phase.name == name)

end CompileResult

/-! ## Classification with a journal -/

/-- How many nodes each kind has, for the kinds that have any. -/
def Classified.kindCounts (d : Classified) : Value :=
  .record (NodeKind.all.filterMap fun kind =>
    let count := (d.ofKind kind).length
    if count = 0 then none else some (.text kind.tag, .int count))

def sizeText (nodes connections : Nat) : String :=
  toString nodes ++ " nodes, " ++ toString connections ++ " connections"

/-- Classifies a diagram and makes entries about it. -/
def classifyNoted (diagram : Diagram) : Issuing Classified := do
  note .info .classification "Starting Step 1: Classification (deterministic)"
  match diagram.classify with
  | .error cause => throw (.classification cause)
  | .ok d =>
      note .info .classification
        ("Classification completed: " ++ sizeText d.nodes.length d.links.length ++ " ("
          ++ d.kindCounts.shown ++ ")")
      return d

/-! ## Phases -/

def runPhase (settings : Settings) (d : Classified) (phase : Phase) : Issuing (Phase × Output) := do
  let output ← phase.synthesize settings d
  note .info .compilation
    (phase.checkpoint ++ " (" ++ toString output.statements.length ++ " statements)")
  return (phase, output)

/-- The result made of the outputs of the phases. -/
def CompileResult.ofOutputs (outputs : List (Phase × Output)) (codes : ErrorCodes) :
    CompileResult :=
  { statements := outputs.flatMap (·.2.statements)
    phases := outputs.map fun (phase, output) =>
      { phase, statementCount := output.statements.length, issueCount := output.issues.length }
    issues := outputs.flatMap (·.2.issues)
    errorCodes := codes.issued }

/-- Classification and all phases. -/
def runPhases (settings : Settings) (diagram : Diagram) : Issuing CompileResult := do
  note .info .compilation
    ("Starting compilation: " ++ sizeText diagram.nodes.length diagram.connections.length)
  let d ← classifyNoted diagram
  let outputs ← Phase.all.mapM (runPhase settings d)
  let result := CompileResult.ofOutputs outputs (← getThe Run).codes
  if !result.issues.isEmpty then
    note .warning .compilation
      ("Compilation finished with " ++ toString result.issues.length ++ " skipped construct(s)")
  note .info .compilation
    ("Compilation completed: " ++ toString result.statements.length ++ " statements")
  return result

/-! ## Runs -/

def Run.start (base : Int) : Run := { codes := { base } }

/-- A run to its end: the outcome and the journal, in which a failure is the last
thing to be reported. -/
def compileNoted (settings : Settings) (diagram : Diagram) :
    Except CompileError CompileResult × Journal :=
  match (runPhases settings diagram).run (Run.start settings.errorCodeBase) with
  | (.ok result, run) => (.ok result, run.session.journal)
  | (.error cause, run) =>
      let failure := cause.failure
      (.error cause,
        run.session.journal ++ ((Trouble.known failure).report failure.place .error).toArray)

/-- The script of a diagram and what was left out of it, or why there is none. -/
def compile (settings : Settings) (diagram : Diagram) : Except CompileError CompileResult :=
  (compileNoted settings diagram).1

end EntitySchema
