/-
# EntitySchema.Settings.Basic -- what shapes a script besides the diagram

The base of the error numbers lies in the range that can be raised
(`firstErrorCode` to `lastErrorCode`); the type keeps that as its invariant.
`Settings.check` reads settings from a record of a document, which may hold
further keys, and a field that is absent has its default.
-/
import EntitySchema.Trigger.ErrorCode
import EntitySchema.Value.Check

namespace EntitySchema

open Check

set_option autoImplicit false

/-- The smallest number that can be raised. -/
def firstErrorCode : Int := 20000

/-- How a program that uses the compiler shows its journal. -/
structure LoggingSettings where
  level : String := "INFO"
  formatType : String := "detailed"
  logToFile : Bool := false
  logFile : String := "logs/er2sql.log"
  deriving DecidableEq, Repr

/-- Settings that shape the script. -/
structure Settings where
  errorCodeBase : Int := firstErrorCode
  violationMessage : String := "Violação detectada!"
  surrogateKeyType : String := "NUMBER"
  logging : LoggingSettings := {}
  first_le_base : firstErrorCode ≤ errorCodeBase := by decide
  base_le_last : errorCodeBase ≤ lastErrorCode := by decide

namespace LoggingSettings

def check (value : Value) : Check LoggingSettings :=
  (entries "LoggingSettings" value).andThen fun fields =>
    (fun level formatType logToFile logFile => { level, formatType, logToFile, logFile })
      <$> optional "level" "INFO" text fields
      <*> optional "format_type" "detailed" text fields
      <*> optional "log_to_file" false truth fields
      <*> optional "log_file" "logs/er2sql.log" text fields

end LoggingSettings

abbrev ErrorCodeBase := { base : Int // firstErrorCode ≤ base ∧ base ≤ lastErrorCode }

def checkErrorCodeBase (value : Value) : Check ErrorCodeBase :=
  (integer value).andThen fun base =>
    if low : firstErrorCode ≤ base then
      if high : base ≤ lastErrorCode then ok ⟨base, low, high⟩
      else refuse (.above lastErrorCode)
    else refuse (.below firstErrorCode)

namespace Settings

def check (value : Value) : Check Settings :=
  (entries "CompilerSettings" value).andThen fun fields =>
    (fun (base : ErrorCodeBase) violationMessage surrogateKeyType logging =>
        { errorCodeBase := base.1, violationMessage, surrogateKeyType, logging,
          first_le_base := base.2.1, base_le_last := base.2.2 })
      <$> optional "error_code_base" ⟨firstErrorCode, by decide, by decide⟩ checkErrorCodeBase fields
      <*> optional "violation_message" "Violação detectada!" text fields
      <*> optional "surrogate_key_type" "NUMBER" text fields
      <*> optional "logging" {} LoggingSettings.check fields

end Settings

end EntitySchema
