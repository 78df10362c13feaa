/-
# EntitySchema.Report.Failure -- failures, and how they are reported

A failure has a class, a message and a place: the pass it arose in, the node
and the connection it is about, and further details.  What a pass signals may
also be an error of another kind, known by its name and message only
(`Trouble`); it becomes a failure of the general class that keeps the name
(`Trouble.atPlace`).

A report is one entry with the pass, the node and the connection in front of
the description, followed by an entry with the details when there are any
(`Trouble.report`).  An id that is empty is not shown.
-/
import EntitySchema.Report.Journal
import EntitySchema.Value.Shown

namespace EntitySchema

set_option autoImplicit false

/-- Where in a run something went wrong. -/
structure Place where
  pass : String
  nodeId : Option String := none
  connectionId : Option String := none
  details : Value := .record []
  deriving Repr

/-- The classes of failures. -/
inductive FailureClass where
  | general
  | unknownNodeKind
  | unknownConnectionKind
  | danglingConnection
  | missingOwnerKey
  | skippedConstruct
  | writeFailure
  | errorCodesExhausted
  deriving DecidableEq, Repr

namespace FailureClass

def all : List FailureClass :=
  [.general, .unknownNodeKind, .unknownConnectionKind, .danglingConnection, .missingOwnerKey,
   .skippedConstruct, .writeFailure, .errorCodesExhausted]

def name : FailureClass → String
  | .general => "CompilationError"
  | .unknownNodeKind => "UnknownNodeKind"
  | .unknownConnectionKind => "UnknownConnectionKind"
  | .danglingConnection => "DanglingConnection"
  | .missingOwnerKey => "MissingOwnerKey"
  | .skippedConstruct => "SkippedConstruct"
  | .writeFailure => "IOFailure"
  | .errorCodesExhausted => "ErrorCodesExhausted"

def ofName? (name : String) : Option FailureClass := all.find? (·.name == name)

/-- The kind of error a class stands for unless a failure says otherwise. -/
def errorKind : FailureClass → String
  | .general => "compilation_error"
  | .unknownNodeKind => "unknown_node_kind"
  | .unknownConnectionKind => "unknown_connection_kind"
  | .danglingConnection => "dangling_connection"
  | .missingOwnerKey => "missing_owner_key"
  | .skippedConstruct => "skipped_construct"
  | .writeFailure => "io_failure"
  | .errorCodesExhausted => "error_codes_exhausted"

/-- Whether a failure of the class ends the run unless it says otherwise. -/
def isFatal : FailureClass → Bool
  | .missingOwnerKey | .skippedConstruct => false
  | _ => true

end FailureClass

structure Failure where
  kind : FailureClass
  message : String
  place : Place
  errorKind : String := kind.errorKind
  fatal : Bool := kind.isFatal
  deriving Repr

def Failure.describe (failure : Failure) : String :=
  "[" ++ failure.place.pass ++ "] " ++ failure.message

/-- What a pass may signal: a failure, or another error by name and message. -/
inductive Trouble where
  | known (failure : Failure)
  | other (name message : String)
  deriving Repr

/-- The id of a place, unless it is empty. -/
def Place.shownId (id : Option String) : Option String := id.filter (!·.isEmpty)

/-- The heading of a report: the pass, the node and the connection. -/
def Place.heading (place : Place) : String :=
  String.intercalate " | "
    (["Error in pass " ++ place.pass]
      ++ ((Place.shownId place.nodeId).map ("Node: " ++ ·)).toList
      ++ ((Place.shownId place.connectionId).map ("Connection: " ++ ·)).toList)

/-- The level a word asks a report to be made at; any other word means an error. -/
def Level.forReport (word : String) : Level :=
  if word = "critical" then .critical else if word = "warning" then .warning else .error

namespace Trouble

def describe : Trouble → String
  | .known failure => failure.describe
  | .other _ message => message

def errorKind : Trouble → String
  | .known failure => failure.errorKind
  | .other name _ => name

/-- The entries of a report about a trouble at a place. -/
def report (trouble : Trouble) (place : Place) (level : Level) : List Entry :=
  { level, component := .errorHandling, message := place.heading ++ ": " ++ trouble.describe,
    traced := level != .warning }
  :: if place.details.isVoid then []
     else [{ level := .debug, component := .errorHandling,
             message := "Additional context: " ++ place.details.shown }]

/-- The failure a trouble at a place amounts to: itself, or one of the general
class under the name of the error. -/
def atPlace (trouble : Trouble) (place : Place) : Failure :=
  match trouble with
  | .known failure => failure
  | .other name message => { kind := .general, message, place, errorKind := name }

/-- The place a trouble is reported at: its own, if it has one. -/
def ownPlace (trouble : Trouble) (place : Place) : Place :=
  match trouble with
  | .known failure => failure.place
  | .other .. => place

end Trouble

/-! ## Answers -/

/-- The answer given for a trouble at a place. -/
structure ErrorAnswer where
  errorKind : String
  message : String
  pass : String
  nodeId : Option String
  connectionId : Option String
  details : Option Value
  deriving Repr

/-- The answer for a trouble: ids that are empty and empty details are left out. -/
def Trouble.answer (trouble : Trouble) (place : Place) : ErrorAnswer :=
  { errorKind := trouble.errorKind
    message := trouble.describe
    pass := place.pass
    nodeId := Place.shownId place.nodeId
    connectionId := Place.shownId place.connectionId
    details := if place.details.isVoid then none else some place.details }

end EntitySchema
