/-
# EntitySchema.Settings.Sources -- where settings come from

Settings are gathered from three sources: what the caller states, the variables
of the environment, and the packaged values.  A source is a record; the sources
are laid over each other entry by entry (`overlay`), so that a source
that states one field of the logging settings leaves the others alone.

A variable belongs to the settings if its name, in any case, starts with
`ER2SQL_`.  The logging settings may be written as JSON in one variable, field by
field in variables whose names go on behind two underscores, or both; the single
fields then win.
-/
import EntitySchema.Settings.Basic
import EntitySchema.Text.Case
import EntitySchema.Value.Json

namespace EntitySchema

open EntitySchema.Text (lowerString)

set_option autoImplicit false

/-! ## Laying records over each other -/

mutual

/-- The value `upper` laid over the value `base`: records are merged, anything else is replaced. -/
def Value.overlay (base upper : Value) : Value :=
  match base, upper with
  | .record below, .record above => .record (overlayEntries below above)
  | _, _ => upper

/-- Entries laid over entries, one after the other. -/
def overlayEntries (base : List (Value × Value)) : List (Value × Value) → List (Value × Value)
  | [] => base
  | (key, value) :: rest =>
      let merged := match base.find? fun entry => Value.sameKey entry.1 key with
        | some (_, present) => Value.overlay present value
        | none => value
      overlayEntries (Value.put key merged base) rest

end

/-! ## The environment -/

abbrev Environment := List (String × String)

/-- What every variable of the settings starts with. -/
def variableStart : String := "er2sql_"

/-- The variables under their names in lower case; the last of several wins. -/
def Environment.lowered (environment : Environment) : Environment :=
  (Value.collect (environment.map fun (name, value) =>
      (.text (lowerString name), .text value))).filterMap fun entry =>
    match entry with
    | (.text name, .text value) => some (name, value)
    | _ => none

/-- A text at the end of a path of field names; a field that is already a text stays. -/
def placeAt (entries : List (Value × Value)) (value : String) :
    List String → List (Value × Value)
  | [] => entries
  | [last] => Value.put (.text last) (.text value) entries
  | name :: rest =>
      match Value.field? entries name with
      | some (.record inner) =>
          Value.put (.text name) (.record (placeAt inner value rest)) entries
      | some _ => entries
      | none => Value.put (.text name) (.record (placeAt [] value rest)) entries

/-- The fields that variables state one by one: those named `start` and the path
of the field, its names separated by two underscores. -/
def fieldVariables (start : String) (environment : Environment) : List (Value × Value) :=
  environment.foldl (fun entries (name, value) =>
    if start.toList.isPrefixOf name.toList then
      placeAt entries value (String.splitOn (String.ofList (name.toList.drop start.length)) "__")
    else entries) []

def loggingFields : List String := ["level", "format_type", "log_to_file", "log_file"]

/-- A key that names a logging setting in another case, as that setting. -/
def loggingKey : Value → Value
  | .text name =>
      let lowered := lowerString name
      if loggingFields.contains lowered then .text lowered else .text name
  | key => key

/-- Why settings cannot be made. -/
inductive SettingsFailure where
  /-- A variable that should hold JSON does not. -/
  | notJson (field : String)
  | rejected (rejection : Rejection)
  deriving DecidableEq, Repr

/-- The logging settings that an environment states, if it states any. -/
def environmentLogging (environment : Environment) : Except SettingsFailure (Option Value) :=
  let fields := fieldVariables (variableStart ++ "logging__") environment
  let normal (entries : List (Value × Value)) : Value :=
    .record (Value.collect (entries.map fun (key, value) => (loggingKey key, value)))
  match environment.lookup (variableStart ++ "logging") with
  | none => .ok (if fields.isEmpty then none else some (normal fields))
  | some written =>
      match Value.ofJson? written with
      | none => .error (.notJson "logging")
      | some .null => .ok none
      | some (.record entries) => .ok (some (normal (overlayEntries entries fields)))
      | some other => .ok (some other)

/-- The names of the settings that are texts in the environment. -/
def textSettings : List String := ["error_code_base", "violation_message", "surrogate_key_type"]

def environmentSettings (environment : Environment) : Except SettingsFailure Value := do
  let environment := environment.lowered
  let texts := textSettings.filterMap fun name =>
    (environment.lookup (variableStart ++ name)).map fun value => (Value.text name, Value.text value)
  let logging ← environmentLogging environment
  return .record (texts ++ (logging.map fun value => (Value.text "logging", value)).toList)

/-! ## All sources -/

def packagedSettings : Value :=
  .record
    [(.text "error_code_base", .int firstErrorCode),
     (.text "violation_message", .text "Violação detectada!"),
     (.text "surrogate_key_type", .text "NUMBER"),
     (.text "logging", .record
       [(.text "level", .text "INFO"), (.text "format_type", .text "detailed"),
        (.text "log_to_file", .bool false), (.text "log_file", .text "logs/er2sql.log")])]

/-- What a caller states, with the names of settings in lower case. -/
def statedSettings (stated : List (Value × Value)) : Value :=
  .record (Value.collect (stated.map fun (key, value) =>
    match key with
    | .text name => (.text (lowerString name), value)
    | other => (other, value)))

/-- The settings that the sources make: what is stated wins over the
environment, and that over the packaged values. -/
def Settings.gather (stated : List (Value × Value)) (environment : Environment) :
    Except SettingsFailure Settings := do
  let surrounding ← environmentSettings environment
  let all := (packagedSettings.overlay surrounding).overlay (statedSettings stated)
  match (Settings.check all).result "CompilerSettings" with
  | .ok settings => return settings
  | .error rejection => throw (.rejected rejection)

end EntitySchema
