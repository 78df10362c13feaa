/-
# EntitySchema.Synthesis.Output -- what the synthesis of a construct yields

Each construct of a diagram yields statements and issues (`Output`), and the
output of a step is the concatenation of those of its constructs in order.
A construct that is left out yields one issue and leaves an entry in the journal
(`leaveOut`).  Steps that only ask for keys are inquiries; those that make triggers
also hand out numbers and may run out of them (`Issuing`).  What has been handed
out or noted before that happens is kept.
-/
import EntitySchema.Ddl.Statement
import EntitySchema.Key.Resolver
import EntitySchema.Report.CompileError
import EntitySchema.Report.Omission
import EntitySchema.Trigger.Draft

namespace EntitySchema

set_option autoImplicit false

/-- Statements in the order of the script, and the constructs left out. -/
structure Output where
  statements : List Statement := []
  issues : List Issue := []
  deriving DecidableEq, Repr

namespace Output

instance : Append Output where
  append first second :=
    { statements := first.statements ++ second.statements, issues := first.issues ++ second.issues }

def concat (outputs : List Output) : Output :=
  { statements := outputs.flatMap (·.statements), issues := outputs.flatMap (·.issues) }

/-- Statements without issues. -/
def emit (statements : List Statement) : Output := { statements }

end Output

/-- Leaves a construct out: an entry in the journal, and an issue. -/
def leaveOut (omission : Omission) : Inquiry Output := do
  let failure := omission.failure
  modify fun session =>
    { session with
      journal := session.journal
        ++ ((Trouble.known failure).report failure.place .warning).toArray }
  return { issues := [failure.issue] }

/-! ## Handing out numbers -/

/-- A run: the session of its inquiries and the numbers handed out. -/
structure Run where
  session : Session := {}
  codes : ErrorCodes

/-- A computation that may ask for keys and hand out numbers. -/
abbrev Issuing := ExceptT CompileError (StateM Run)

/-- An inquiry as a part of a run. -/
def Inquiry.run {α : Type} (inquiry : Inquiry α) : StateM Run α := fun run =>
  let (answer, session) := StateT.run inquiry run.session
  (answer, { run with session })

instance : MonadLift Inquiry Issuing where
  monadLift inquiry := ExceptT.lift inquiry.run

/-- The draft with the block of a rule. -/
def addRule (draft : TriggerDraft) (rule : TriggerRule) : Issuing TriggerDraft := do
  let run ← getThe Run
  match rule.addTo? draft run.codes with
  | some (draft, codes) =>
      modifyThe Run fun run => { run with codes }
      return draft
  | none => throw (.codesExhausted run.codes)

/-- The trigger of a plan, its raises numbered in the order of the rules. -/
def TriggerPlan.issue (plan : TriggerPlan) (message : String) : Issuing Trigger := do
  let draft ← plan.rules.foldlM addRule ((TriggerDraft.start message).declareMany plan.arity)
  return draft.build plan.name plan.table plan.autonomous

/-! ## Statements that steps share -/

/-- A column that may not be empty. -/
def keyColumn (name : String) (sqlType : Option String) : Column := { name, sqlType, notNull := true }

/-- The columns of a key, to be added to a table. -/
def addKeyColumns (table : String) (keys : List Key) : List Statement :=
  keys.map fun key => .addColumn table (keyColumn key.column key.sqlType)

def primaryKey (table : String) (columns : List String) : Statement :=
  .addPrimaryKey table ("PK_" ++ table) columns

/-- The column that an attribute makes; it may be empty if the attribute is nullable. -/
def attributeColumn (item : Construct) : Column :=
  { name := columnName item.label, sqlType := item.sqlType, notNull := !item.nullable }

/-- The columns that the stored attributes of a node make. -/
def Classified.storedColumns (d : Classified) (node : Construct) : List Column :=
  (d.neighboursOf node.id (·.isStored)).map fun neighbour => attributeColumn neighbour.2

end EntitySchema
