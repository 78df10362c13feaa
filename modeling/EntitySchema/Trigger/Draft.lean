/-
# EntitySchema.Trigger.Draft -- putting a trigger together

A trigger counts rows into variables and raises an error when the counts are
wrong.  `TriggerDraft` is a trigger in the making: its variables are `X0`,
`X1`, …; its body is a sequence of blocks, each under a condition; and it keeps
the numbers of its raises in order.

What a trigger enforces is data: a list of rules (`TriggerRule`), each with the
event it watches, the counts it takes and the condition that violates it.
Drafting a rule allocates one number and adds one block.
-/
import EntitySchema.Ddl.Statement
import EntitySchema.Trigger.ErrorCode

namespace EntitySchema

set_option autoImplicit false

/-! ## Parts of a body -/

/-- The sum of some variables, and 0 if there are none. -/
def sumOf (counters : List String) : String :=
  if counters.isEmpty then "0" else String.intercalate " + " counters

/-- The columns of a row, such as `:n.col`. -/
def rowColumns (row : String) (columns : List String) : List String :=
  columns.map fun column => row ++ "." ++ column

/-- The condition that some of the columns have changed. -/
def changed (columns : List String) : String :=
  String.intercalate " OR "
    (columns.map fun column => ":n." ++ column ++ " <> :o." ++ column)

/-- A count of the rows of a table whose columns equal given references. -/
structure RowCount where
  variableName : String
  table : String
  columns : List String
  references : List String
  deriving DecidableEq, Repr

def RowCount.line (count : RowCount) : String :=
  let pairs := count.columns.zip count.references
  "SELECT COUNT(*) INTO " ++ count.variableName ++ " FROM " ++ count.table ++ " c WHERE "
    ++ String.intercalate " AND " (pairs.map fun (column, ref) => "c." ++ column ++ " = " ++ ref)
    ++ ";"

/-- A text with its single quotes doubled, as it stands in a literal. -/
def doubleQuotes (text : String) : String :=
  String.ofList (text.toList.flatMap fun c => if c = '\'' then ['\'', '\''] else [c])

/-- The line that raises a number under a condition; the message is already escaped. -/
def raiseLine (condition : String) (code : Int) (message : String) : String :=
  "IF (" ++ condition ++ ") THEN RAISE_APPLICATION_ERROR(-" ++ toString code ++ ", '" ++ message
    ++ "'); END IF;"

/-! ## Drafts -/

structure TriggerDraft where
  /-- The message of its raises, with quotes doubled. -/
  message : String
  counters : List String := []
  body : List String := []
  errorCodes : List Int := []
  deriving DecidableEq, Repr

namespace TriggerDraft

/-- An empty draft whose raises have a message. -/
def start (message : String) : TriggerDraft := { message := doubleQuotes message }

def variableName (position : Nat) : String := "X" ++ toString position

def declare (draft : TriggerDraft) : String × TriggerDraft :=
  let name := variableName draft.counters.length
  (name, { draft with counters := draft.counters ++ [name] })

/-- A raise under a condition, with the next number; none when numbers have run out. -/
def raiseIf? (draft : TriggerDraft) (codes : ErrorCodes) (condition : String) :
    Option (String × TriggerDraft × ErrorCodes) :=
  codes.allocate?.map fun (code, codes) =>
    (raiseLine condition code draft.message,
      { draft with errorCodes := draft.errorCodes ++ [code] }, codes)

/-- Adds a block of lines under a condition. -/
def block (draft : TriggerDraft) (condition : String) (lines : List String) : TriggerDraft :=
  { draft with
    body := draft.body ++ ["IF " ++ condition ++ " THEN"] ++ lines.map ("\t" ++ ·) ++ ["END IF;"] }

def build (draft : TriggerDraft) (name table : String) (autonomous : Bool := false) : Trigger :=
  { name, table, counters := draft.counters, body := draft.body, autonomous,
    errorCodes := draft.errorCodes }

end TriggerDraft

/-! ## Rules -/

/-- A rule of a trigger: what it counts on an event and which counts violate it. -/
structure TriggerRule where
  event : String
  counts : List RowCount
  violation : String
  deriving DecidableEq, Repr

/-- A trigger before its raises have numbers. -/
structure TriggerPlan where
  name : String
  table : String
  /-- How many counters it declares. -/
  arity : Nat
  rules : List TriggerRule
  autonomous : Bool := false
  deriving DecidableEq, Repr

/-- Adds the block of a rule; none when numbers have run out. -/
def TriggerRule.addTo? (rule : TriggerRule) (draft : TriggerDraft) (codes : ErrorCodes) :
    Option (TriggerDraft × ErrorCodes) :=
  (draft.raiseIf? codes rule.violation).map fun (raise, draft, codes) =>
    (draft.block rule.event (rule.counts.map (·.line) ++ [raise]), codes)

def TriggerDraft.declareMany (draft : TriggerDraft) : Nat → TriggerDraft
  | 0 => draft
  | more + 1 => draft.declare.2.declareMany more

end EntitySchema
