/-
# EntitySchema.Report.Journal -- what a run says about itself

A run leaves a journal: entries in the order in which they were made, each
with a level, the part of the compiler that speaks (`Component`), a message and
whether the state of the computation is shown with it.  Levels are numbered, so
that a reader can ask for everything from some number on (`Journal.atLeast`).
-/

namespace EntitySchema

set_option autoImplicit false

/-- How much an entry matters. -/
inductive Level where
  | debug
  | info
  | warning
  | error
  | critical
  deriving DecidableEq, Repr

namespace Level

def number : Level → Nat
  | .debug => 10
  | .info => 20
  | .warning => 30
  | .error => 40
  | .critical => 50

def name : Level → String
  | .debug => "DEBUG"
  | .info => "INFO"
  | .warning => "WARNING"
  | .error => "ERROR"
  | .critical => "CRITICAL"

end Level

/-- The parts of the compiler that make entries. -/
inductive Component where
  | classification
  | keyResolution
  | tables
  | constraints
  | generalizations
  | relationships
  | multivaluedAttributes
  | derivedAttributes
  | compilation
  | errorHandling
  deriving DecidableEq, Repr

/-- The name a part signs its entries with. -/
def Component.path : Component → String
  | .classification => "ER2SQL.phases.step_1_classification"
  | .keyResolution => "ER2SQL.phases.step_2_key_resolution"
  | .tables => "ER2SQL.phases.step_3_table_synthesis"
  | .constraints => "ER2SQL.phases.step_4_constraint_synthesis"
  | .generalizations => "ER2SQL.phases.step_5_generalization_rules"
  | .relationships => "ER2SQL.phases.step_6_relationship_cardinality"
  | .multivaluedAttributes => "ER2SQL.phases.step_7_multivalued_attributes"
  | .derivedAttributes => "ER2SQL.phases.step_8_derived_attributes"
  | .compilation => "ER2SQL.orchestration.pipeline"
  | .errorHandling => "ER2SQL.utils.error_handling.handlers"

structure Entry where
  level : Level
  component : Component
  message : String
  /-- Whether the state of the computation is shown with the message. -/
  traced : Bool := false
  deriving DecidableEq, Repr

/-- The entries of a run, oldest first. -/
abbrev Journal := Array Entry

/-- The entries whose level has at least a number. -/
def Journal.atLeast (number : Nat) (journal : Journal) : List Entry :=
  journal.toList.filter (number ≤ ·.level.number)

end EntitySchema
