/-
# EntitySchema.Ddl.Statement -- the statements of a schema script

A statement is data (`Statement`) and renders its own text
(`Statement.render`).  Lists of columns are joined with separators, so no
rendered statement ends in a dangling comma.
-/
import EntitySchema.Text.Blank

namespace EntitySchema

set_option autoImplicit false

structure Column where
  name : String
  sqlType : Option String := none
  notNull : Bool := true
  deriving DecidableEq, Repr

/-- The optional part of a clause: empty text counts as absent. -/
def nonEmpty (text : Option String) : Option String := text.filter (!·.isEmpty)

/-- A column as it stands in a table or an added column. -/
def Column.render (column : Column) : String :=
  String.intercalate " "
    ([column.name] ++ (nonEmpty column.sqlType).toList ++ if column.notNull then ["NOT NULL"] else [])

structure ForeignKey where
  table : String
  constraint : String
  columns : List String
  refTable : String
  refColumns : List String
  onDelete : Option String := none
  deferrable : Bool := false
  deriving DecidableEq, Repr

/-- A row-level trigger, fired after insert, delete or update. -/
structure Trigger where
  name : String
  table : String
  counters : List String := []
  body : List String := []
  autonomous : Bool := false
  errorCodes : List Int := []
  deriving DecidableEq, Repr

/-- A statement of the script. -/
inductive Statement where
  | createTable (table : String) (columns : List Column)
  | addColumn (table : String) (column : Column)
  | addPrimaryKey (table constraint : String) (columns : List String)
  | addForeignKey (key : ForeignKey)
  | createView (name query : String)
  | createTrigger (trigger : Trigger)
  deriving DecidableEq, Repr

namespace Statement

def form : Statement → String
  | .createTable .. => "CreateTable"
  | .addColumn .. => "AddColumn"
  | .addPrimaryKey .. => "AddPrimaryKey"
  | .addForeignKey .. => "AddForeignKey"
  | .createView .. => "CreateView"
  | .createTrigger .. => "CreateTrigger"

def nameList (names : List String) : String := String.intercalate ", " names

/-- The body of a table: one column a line, separated by commas. -/
def tableBody (columns : List Column) : String :=
  String.intercalate ",\n" (columns.map fun column => "\t" ++ column.render)

end Statement

def ForeignKey.render (key : ForeignKey) : String :=
  "ALTER TABLE " ++ key.table ++ " ADD CONSTRAINT " ++ key.constraint
    ++ " FOREIGN KEY (" ++ Statement.nameList key.columns
    ++ ") REFERENCES " ++ key.refTable ++ " (" ++ Statement.nameList key.refColumns ++ ")"
    ++ (match nonEmpty key.onDelete with
        | some action => " ON DELETE " ++ action
        | none => "")
    ++ (if key.deferrable then " DEFERRABLE INITIALLY DEFERRED" else "")
    ++ ";"

/-- The line that declares the variables of a trigger. -/
def Trigger.declaration (counters : List String) : String :=
  let line := "DECLARE " ++ String.intercalate " " (counters.map fun name => name ++ " number;")
  String.ofList (Text.dropBlanksEnd line.toList)

/-- The declarations of a trigger; one without any has none. -/
def Trigger.declarations (trigger : Trigger) : List String :=
  if trigger.counters.isEmpty && !trigger.autonomous then []
  else Trigger.declaration trigger.counters
    :: if trigger.autonomous then ["\tPRAGMA AUTONOMOUS_TRANSACTION;"] else []

def Trigger.render (trigger : Trigger) : String :=
  String.intercalate "\n"
    (["CREATE OR REPLACE TRIGGER " ++ trigger.name ++ " AFTER INSERT OR DELETE OR UPDATE ON "
        ++ trigger.table,
      "REFERENCING NEW AS n OLD AS o FOR EACH ROW"]
      ++ trigger.declarations
      ++ ["BEGIN"] ++ trigger.body.map (fun line => "\t" ++ line) ++ ["END;"])

def Statement.render : Statement → String
  | .createTable table columns =>
      let body := tableBody columns
      if body.isEmpty then "CREATE TABLE " ++ table ++ " (\n);"
      else "CREATE TABLE " ++ table ++ " (\n" ++ body ++ "\n);"
  | .addColumn table column => "ALTER TABLE " ++ table ++ " ADD " ++ column.render ++ ";"
  | .addPrimaryKey table constraint columns =>
      "ALTER TABLE " ++ table ++ " ADD CONSTRAINT " ++ constraint ++ " PRIMARY KEY ("
        ++ nameList columns ++ ");"
  | .addForeignKey key => key.render
  | .createView name query =>
      "CREATE OR REPLACE VIEW " ++ name ++ " AS (\n"
        ++ String.ofList (Text.trim query.toList) ++ "\n);"
  | .createTrigger trigger => trigger.render

end EntitySchema
