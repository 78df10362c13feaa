/-
# EntitySchema.Synthesis.Entity -- tables of entities and their own keys

Every entity becomes a table with its stored attributes as columns.  A strong
entity that is no subtype gets its declared key; a weak entity takes over the key
columns of its owner and is identified by its partial key and those columns, in
that order.
-/
import EntitySchema.Synthesis.Output

namespace EntitySchema

open Inquiry
open EntitySchema.Text (showList)

set_option autoImplicit false

/-! ## Tables -/

def Classified.tableStatement (d : Classified) (entity : Construct) : Statement :=
  .createTable (tableName entity.label) (d.storedColumns entity)

/-- The table of an entity, with an entry in the journal if it has no columns. -/
def entityTable (d : Classified) (entity : Construct) : Inquiry Output := do
  if (d.storedColumns entity).isEmpty then
    note .debug .tables
      ("Entity " ++ entity.label ++ " has no stored attributes; emitting empty table body")
  return .emit [d.tableStatement entity]

/-- The kinds of entities whose tables come first. -/
def ownedKinds : List NodeKind := [.strongEntity, .weakEntity]

def entityTables (d : Classified) (kinds : List NodeKind) : Inquiry Output := do
  note .info .tables
    ("Starting Step 3: Table Synthesis for " ++ showList (kinds.map (·.tag)))
  let output := .concat (← (d.ofKinds kinds.contains).mapM (entityTable d))
  note .info .tables
    ("Table synthesis completed: " ++ toString output.statements.length
      ++ " CREATE TABLE statements generated")
  return output

/-! ## Keys of strong entities -/

def strongKey (d : Classified) (entity : Construct) : Inquiry Output := do
  let table := tableName entity.label
  if (d.generalizationOf? entity).isSome then
    note .debug .constraints (table ++ " is a subtype; key comes from its generalization")
    return {}
  else
    let keys ← d.tableKey entity
    if keys.isEmpty then leaveOut (.strongWithoutKey entity)
    else return .emit [primaryKey table (keys.map (·.column))]

def strongKeys (d : Classified) : Inquiry Output := do
  note .info .constraints "Starting Step 4.1: Primary Keys"
  let output := .concat (← (d.ofKind .strongEntity).mapM (strongKey d))
  note .info .constraints
    ("Primary keys completed: " ++ toString output.statements.length ++ " constraints generated")
  return output

/-! ## Keys of weak entities -/

/-- The statements that give a weak entity its key. -/
def weakKeyStatements (table : String) (partialKey : Key) (inherited : List Key) (owner : KeyedEnd) :
    List Statement :=
  let columns := inherited.map (·.column)
  addKeyColumns table inherited
    ++ [.addForeignKey
          { table, constraint := "FK_" ++ table, columns, refTable := owner.table,
            refColumns := owner.columns },
        primaryKey table (partialKey.column :: columns)]

def weakKey (d : Classified) (weak : Construct) : Inquiry Output := do
  let table := tableName weak.label
  match d.partialKey? weak with
  | none => leaveOut (.weakWithoutPartialKey weak)
  | some partialKey =>
      match ← d.weakOwner? weak with
      | none => leaveOut (.weakWithoutOwner weak)
      | some owner =>
          let inherited := (← d.tableKey weak).drop 1
          note .debug .constraints
            ("Weak entity " ++ table ++ " keyed by " ++ partialKey.column ++ " + owner "
              ++ owner.table)
          return .emit (weakKeyStatements table partialKey inherited owner)

def weakKeys (d : Classified) : Inquiry Output := do
  note .info .constraints "Starting Step 4.2: Partial Keys"
  let output := .concat (← (d.ofKind .weakEntity).mapM (weakKey d))
  note .info .constraints
    ("Partial keys completed: " ++ toString output.statements.length ++ " statements generated")
  return output

end EntitySchema
