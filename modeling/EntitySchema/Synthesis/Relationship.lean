/-
# EntitySchema.Synthesis.Relationship -- relationships by cardinality

The kinds of the links to the participants say how a relationship is encoded
(`Cardinality`):

* one to one: the end that is drawn double (else the second) refers to the other;
* one to many: the many end refers to the other;
* many to many: a junction table refers to all participants and is keyed by the
  columns that do.

An end that is drawn double takes part totally.  Where a foreign key alone cannot
say so, it is deferred and two triggers guard it.  An associative entity is a
junction table of its own.

A table may hold the foreign keys of several relationships.  `Reservations`
remembers, for each entity, the column names that are taken, so that no name is
given twice.
-/
import EntitySchema.Synthesis.Output

namespace EntitySchema

open Inquiry
open EntitySchema.Text (showList)

set_option autoImplicit false

/-! ## Cardinality -/

/-- How the participants of a relationship are matched. -/
inductive Cardinality where
  | oneToOne
  | oneToMany
  | manyToMany
  deriving DecidableEq, Repr

def Cardinality.text : Cardinality → String
  | .oneToOne => "1:1"
  | .oneToMany => "1:N"
  | .manyToMany => "N:N"

/-- The cardinality that the kinds of the links to the participants make, if
it is one that can be encoded. -/
def Cardinality.ofEnds? (ends : List ConnectionKind) : Option Cardinality :=
  let ones := ends.countP (·.isToOne)
  let many := ends.countP (·.isToMany)
  if ends.length = 2 ∧ ones = 2 then some .oneToOne
  else if ends.length = 2 ∧ ones = 1 ∧ many = 1 then some .oneToMany
  else if 2 ≤ ends.length ∧ many = ends.length then some .manyToMany
  else none

/-- The name of the foreign key at a position among those of a table; the first has
no number. -/
def foreignKeyName (table : String) (position : Int) : String :=
  if position = 0 then "FK_" ++ table else "FK" ++ toString (position + 1) ++ "_" ++ table

/-! ## Triggers -/

/-- A count of the rows of the referring table that hold a key. -/
def referringCount (holder : KeyedEnd) (columns references : List String) : RowCount :=
  { variableName := TriggerDraft.variableName 0, table := holder.table, columns, references }

/-- The rule that the count of referring rows must not be as described. -/
def referringRule (event violation : String) (count : RowCount) : TriggerRule :=
  { event, counts := [count], violation := count.variableName ++ violation }

/-- The trigger of the table referred to: every row of it is referred to from the
start, and keeps its key while it is. -/
def targetPlan (relationship : String) (holder target : KeyedEnd) (reference : Reference) :
    TriggerPlan :=
  let key := reference.refColumns
  let new := referringCount holder reference.columns (rowColumns ":n" key)
  let old := referringCount holder reference.columns (rowColumns ":o" key)
  { name := "relTrigger_" ++ relationship ++ "_" ++ target.table
    table := target.table
    arity := 1
    rules :=
      [referringRule "INSERTING" " = 0" new,
       referringRule ("UPDATING AND (" ++ changed key ++ ")") " != 0" old,
       referringRule "DELETING" " != 0" old] }

/-- The trigger of the referring table: a row referred to keeps at least one
referring row, and in a one to one relationship has no second one.  It runs on its
own, so that the count does not read a table that is being changed. -/
def holderPlan (relationship : String) (holder : KeyedEnd) (reference : Reference)
    (oneToOne : Bool) : TriggerPlan :=
  let columns := reference.columns
  let new := referringCount holder columns (rowColumns ":n" columns)
  let old := referringCount holder columns (rowColumns ":o" columns)
  { name := "relTrigger_" ++ relationship ++ "_" ++ holder.table
    table := holder.table
    arity := 1
    rules :=
      (if oneToOne then [referringRule "INSERTING" " > 0" new] else [])
        ++ [referringRule ("UPDATING AND (" ++ changed columns ++ ")") " <= 1" old,
            referringRule "DELETING" " <= 1" old]
    autonomous := true }

/-! ## Embedded foreign keys -/

/-- The column names that are taken, by the id of the entity. -/
abbrev Reservations := List (String × List String)

/-- The column names that are taken in the table of an entity: those reserved
before, or else the ones of its attributes and of its key. -/
def takenColumns (d : Classified) (reserved : Reservations) (entity : Construct) :
    Inquiry (List String) := do
  match reserved.lookup entity.id with
  | some taken => return taken
  | none => return d.attributeColumns entity ++ (← d.tableKey entity).map (·.column)

/-- How a relationship is embedded: which end refers to which, whether it has
to, and whether triggers guard it. -/
structure Embedding where
  holder : KeyedEnd
  target : KeyedEnd
  notNull : Bool
  guarded : Bool
  oneToOne : Bool
  deriving DecidableEq, Repr

def KeyedEnd.isDouble (place : KeyedEnd) : Bool := place.link.kind.isDouble

/-- The embedding of a relationship of two ends. -/
def Embedding.ofPair (first second : KeyedEnd) : Cardinality → Embedding
  | .oneToOne =>
      let total := first.isDouble || second.isDouble
      let (holder, target) :=
        if first.isDouble && !second.isDouble then (first, second) else (second, first)
      { holder, target, notNull := total, guarded := total, oneToOne := true }
  | _ =>
      let (holder, target) := if first.link.kind.isToMany then (first, second) else (second, first)
      { holder, target, notNull := holder.isDouble, guarded := target.isDouble, oneToOne := false }

/-- The columns and the foreign key of an embedding. -/
def embeddingStatements (d : Classified) (relationship : Construct) (how : Embedding)
    (reference : Reference) : List Statement :=
  let table := how.holder.table
  (reference.typedColumns.map fun (name, sqlType) =>
      .addColumn table { name, sqlType, notNull := how.notNull })
    ++ (d.storedColumns relationship).map (.addColumn table)
    ++ [.addForeignKey
          { table, constraint := "FK_" ++ table ++ "_" ++ tableName relationship.label,
            columns := reference.columns, refTable := how.target.table,
            refColumns := reference.refColumns, deferrable := how.guarded }]

/-- The triggers that guard an embedding. -/
def embeddingPlans (relationship : Construct) (how : Embedding) (reference : Reference) :
    List TriggerPlan :=
  let name := tableName relationship.label
  if how.guarded then
    [targetPlan name how.holder how.target reference,
     holderPlan name how.holder reference how.oneToOne]
  else []

/-- Embeds a relationship, and reserves the columns it takes. -/
def embed (d : Classified) (message : String) (reserved : Reservations)
    (relationship : Construct) (how : Embedding) : Issuing (List Statement × Reservations) := do
  let taken ← takenColumns d reserved how.holder.node
  match planReferences taken [how.target] with
  | [] => throw (.unpaired relationship)
  | reference :: _ =>
      let reserved := (how.holder.node.id, reference.columns ++ taken) :: reserved
      let triggers ← (embeddingPlans relationship how reference).mapM (·.issue message)
      return (embeddingStatements d relationship how reference ++ triggers.map .createTrigger,
        reserved)

/-! ## Junction tables -/

def referenceColumns (references : List Reference) : List Column :=
  references.flatMap fun reference =>
    reference.typedColumns.map fun (name, sqlType) => keyColumn name sqlType

/-- The foreign keys of a table, one for each reference. -/
def referenceKeys (table : String) (references : List Reference) : List Statement :=
  references.mapIdx fun position reference =>
    .addForeignKey
      { table, constraint := foreignKeyName table position, columns := reference.columns,
        refTable := reference.refTable, refColumns := reference.refColumns }

/-- The foreign keys of a table and the primary key made of their columns. -/
def junctionKeys (table : String) (references : List Reference) : List Statement :=
  referenceKeys table references ++ [primaryKey table (references.flatMap (·.columns))]

/-- The junction table of a relationship, named after its participants. -/
def junctionStatements (d : Classified) (relationship : Construct) (ends : List KeyedEnd) :
    List Statement :=
  let table := String.intercalate "_" (ends.map (·.table))
  let references := planReferences [] ends
  .createTable table (referenceColumns references ++ d.storedColumns relationship)
    :: junctionKeys table references

/-! ## Relationships -/

/-- The encoding of a relationship, with the columns reserved after it. -/
def relationship (d : Classified) (message : String) (reserved : Reservations)
    (node : Construct) : Issuing (Output × Reservations) := do
  let participants ← d.participants node
  let ends := participants.filter (·.link.kind.isCardinality)
  let kinds := ends.map (·.link.kind)
  match Cardinality.ofEnds? kinds with
  | none => return (← leaveOut (.unsupportedCardinality node kinds), reserved)
  | some cardinality =>
      let keyless := (ends.filter (·.keys.isEmpty)).map (·.table)
      if !keyless.isEmpty then return (← leaveOut (.participantsWithoutKey node keyless), reserved)
      else
        note .debug .relationships
          ("Relationship " ++ node.label ++ " classified as " ++ cardinality.text)
        if cardinality = .manyToMany then return (.emit (junctionStatements d node ends), reserved)
        else
          let pair ← d.keyedPair? node (d.linksOf node.id) fun link other =>
            link.kind.isCardinality && other.kind.isEntity
          match pair with
          | none => throw (.unpaired node)
          | some (first, second) =>
              let (statements, reserved) ←
                embed d message reserved node (.ofPair first second cardinality)
              return (.emit statements, reserved)

/-- The encodings of relationships, one after the other. -/
def relationshipsFrom (d : Classified) (message : String) (reserved : Reservations) :
    List Construct → Issuing (List Output)
  | [] => return []
  | node :: rest => do
      let (output, reserved) ← relationship d message reserved node
      return output :: (← relationshipsFrom d message reserved rest)

/-- The columns, foreign keys and primary key of an associative entity. -/
def associativeStatements (table : String) (references : List Reference) : List Statement :=
  (referenceColumns references).map (.addColumn table) ++ junctionKeys table references

def associativeEntity (d : Classified) (entity : Construct) : Inquiry Output := do
  let table := tableName entity.label
  let ends ← d.participants entity
  let kinds := (ends.map (·.link.kind)).filter (·.isCardinality)
  note .debug .relationships
    ("Associative entity " ++ table ++ " participants " ++ showList (ends.map (·.table)) ++ " ("
      ++ ((Cardinality.ofEnds? kinds).map (·.text)).getD "unlabelled" ++ ")")
  let references ← d.associativeReferences entity
  if references.isEmpty then leaveOut (.associativeWithoutKey entity)
  else return .emit (associativeStatements table references)

/-- The encodings of all relationships, then of all associative entities. -/
def relationships (d : Classified) (message : String) : Issuing Output := do
  note .info .relationships "Starting Step 6: Relationship Cardinality"
  let encoded ← relationshipsFrom d message [] (d.ofKind .relationship)
  let associative ←
    ((d.ofKind .associativeEntity).mapM (associativeEntity d) : Inquiry (List Output))
  let output := .concat (encoded ++ associative)
  note .info .relationships
    ("Relationship synthesis completed: " ++ toString output.statements.length
      ++ " statements generated")
  return output

end EntitySchema
