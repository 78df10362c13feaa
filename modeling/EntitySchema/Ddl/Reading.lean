/-
# EntitySchema.Ddl.Reading -- statements read from a document

A statement is written as a record of its fields; further keys are ignored.
Fields are checked in the order of their declaration, and every complaint is
kept.
-/
import EntitySchema.Ddl.Script
import EntitySchema.Key.Basic
import EntitySchema.Value.Check

namespace EntitySchema

open Check

set_option autoImplicit false

def Check.texts : Value → Check (List String) := list text

def Column.check (value : Value) : Check Column :=
  (entries "ColumnDef" value).andThen fun fields =>
    (fun name sqlType notNull => { name, sqlType, notNull })
      <$> required "name" text fields
      <*> optional "sql_type" none optionalText fields
      <*> optional "not_null" true truth fields

def Key.check (value : Value) : Check Key :=
  (entries "ResolvedKey" value).andThen fun fields =>
    (fun owner column sqlType => { owner, column, sqlType })
      <$> required "owner" text fields
      <*> required "column" text fields
      <*> optional "sql_type" none optionalText fields

namespace Statement

/-- The fields of a statement of each form. -/
def checkFields (form : String) (fields : List (Value × Value)) : Option (Check Statement) :=
  match form with
  | "CreateTable" =>
      some (createTable
        <$> required "table" text fields
        <*> optional "columns" [] (list Column.check) fields)
  | "AddColumn" =>
      some (addColumn
        <$> required "table" text fields
        <*> required "column" Column.check fields)
  | "AddPrimaryKey" =>
      some (addPrimaryKey
        <$> required "table" text fields
        <*> required "constraint" text fields
        <*> required "columns" texts fields)
  | "AddForeignKey" =>
      some ((fun table constraint columns refTable refColumns onDelete deferrable =>
          addForeignKey
            { table, constraint, columns, refTable, refColumns, onDelete, deferrable })
        <$> required "table" text fields
        <*> required "constraint" text fields
        <*> required "columns" texts fields
        <*> required "ref_table" text fields
        <*> required "ref_columns" texts fields
        <*> optional "on_delete" none optionalText fields
        <*> optional "deferrable" false truth fields)
  | "CreateView" =>
      some (createView
        <$> required "name" text fields
        <*> required "query" text fields)
  | "CreateTrigger" =>
      some ((fun name table counters body autonomous errorCodes =>
          createTrigger { name, table, counters, body, autonomous, errorCodes })
        <$> required "name" text fields
        <*> required "table" text fields
        <*> optional "variables" [] texts fields
        <*> optional "body" [] texts fields
        <*> optional "autonomous" false truth fields
        <*> optional "error_codes" [] (list integer) fields)
  | _ => none

end Statement

/-- An item of a script of a given form, if there is such a form. -/
def ScriptItem.ofValue (form : String) (value : Value) : Option (Except Rejection ScriptItem) :=
  if form = ScriptItem.formless.form then some (.ok .formless)
  else match value with
    | .record fields =>
        (Statement.checkFields form fields).map fun check =>
          (ScriptItem.statement <$> check).result form
    | _ => none

def Column.ofValue (value : Value) : Except Rejection Column :=
  (Column.check value).result "ColumnDef"

def Key.ofValue (value : Value) : Except Rejection Key := (Key.check value).result "ResolvedKey"

end EntitySchema
