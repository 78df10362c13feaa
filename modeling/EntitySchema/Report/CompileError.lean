/-
# EntitySchema.Report.CompileError -- what ends a run

A run ends early when the diagram cannot be classified or when the numbers of
the triggers run out.  A third cause stands for a binary relationship whose two
ends cannot be told.  Each cause is worded once, in `CompileError.failure`.
-/
import EntitySchema.Classified.Basic
import EntitySchema.Report.Failure
import EntitySchema.Trigger.ErrorCode

namespace EntitySchema

set_option autoImplicit false

/-- Why a run ends without a script. -/
inductive CompileError where
  | classification (cause : ClassificationError)
  | codesExhausted (codes : ErrorCodes)
  | unpaired (relationship : Construct)
  deriving DecidableEq, Repr

/-- The failure that stands for a diagram without classification. -/
def ClassificationError.failure : ClassificationError → Failure
  | .unknownNodeKind node =>
      { kind := .unknownNodeKind
        message := "Node '" ++ node.label ++ "' has unknown kind '" ++ node.kind ++ "'"
        place := { pass := "classification", nodeId := some node.id } }
  | .unknownConnectionKind connection =>
      { kind := .unknownConnectionKind
        message :=
          "Connection '" ++ connection.id ++ "' has unknown kind '" ++ connection.kind ++ "'"
        place := { pass := "classification", connectionId := some connection.id } }
  | .danglingConnection connection missing =>
      { kind := .danglingConnection
        message :=
          "Connection '" ++ connection.id ++ "' references missing node '" ++ missing ++ "'"
        place :=
          { pass := "classification", nodeId := some missing, connectionId := some connection.id } }

def ErrorCodes.failure (codes : ErrorCodes) : Failure :=
  { kind := .errorCodesExhausted
    message := "Error code " ++ toString codes.next ++ " is past " ++ toString lastErrorCode
      ++ "; lower error_code_base or split the diagram"
    place :=
      { pass := "triggers"
        details := .record
          [(.text "base", .int codes.base), (.text "issued", .int codes.count)] } }

def CompileError.failure : CompileError → Failure
  | .classification cause => cause.failure
  | .codesExhausted codes => codes.failure
  | .unpaired relationship =>
      { kind := .general
        message := "Relationship " ++ relationship.label ++ " has no pair of ends"
        place := { pass := "relationships", nodeId := some relationship.id } }

end EntitySchema
