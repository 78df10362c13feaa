/-
# EntitySchema.Synthesis.Attribute -- attributes with many values and derived ones

A multivalued attribute becomes a child table of its owner: the key columns of
the owner, a surrogate key and the value.  A derived attribute is not stored; it
becomes a view made from the query it carries.  The first view over an owner
is named after the owner, the others after the attribute as well.
-/
import EntitySchema.Synthesis.Output

namespace EntitySchema

open Inquiry
open EntitySchema.Text (showList lowerString trim)

set_option autoImplicit false

/-! ## Multivalued attributes -/

def childTableStatements (surrogateType : String) (item : Construct) (owner : Construct)
    (keys : List Key) : List Statement :=
  let ownerTable := tableName owner.label
  let table := ownerTable ++ "_" ++ tableName item.label
  let value := lowerString (columnName item.label)
  let surrogate := "pk-" ++ value
  let keyColumns := keys.map (·.column)
  [.createTable table
      ((keys.map fun key => keyColumn key.column key.sqlType)
        ++ [keyColumn surrogate (some surrogateType),
            { name := value, sqlType := item.sqlType, notNull := !item.nullable }]),
   primaryKey table [surrogate],
   .addForeignKey
     { table, constraint := "FK_" ++ table, columns := keyColumns, refTable := ownerTable,
       refColumns := keyColumns }]

def multivaluedAttribute (d : Classified) (surrogateType : String) (item : Construct) :
    Inquiry Output := do
  match d.ownerOf? item with
  | none => leaveOut (.orphanMultivalued item)
  | some owner =>
      let keys ← d.tableKey owner
      if keys.isEmpty then leaveOut (.ownerWithoutKey item owner)
      else
        note .debug .multivaluedAttributes
          ("Multivalued attribute " ++ item.label ++ " -> " ++ tableName owner.label ++ "_"
            ++ tableName item.label ++ " (owner key " ++ showList (keys.map (·.column)) ++ ")")
        return .emit (childTableStatements surrogateType item owner keys)

def multivaluedAttributes (d : Classified) (surrogateType : String) : Inquiry Output := do
  note .info .multivaluedAttributes "Starting Step 7: Multivalued Attributes"
  let output :=
    .concat (← (d.ofKind .multivaluedAttribute).mapM (multivaluedAttribute d surrogateType))
  note .info .multivaluedAttributes
    ("Multivalued attributes completed: " ++ toString output.statements.length
      ++ " statements generated")
  return output

/-! ## Derived attributes -/

/-- The query of a derived attribute, if it carries one that is not blank. -/
def queryOf? (item : Construct) : Option String :=
  item.sqlExpression.filter fun query => !(trim query.toList).isEmpty

/-- The name of the view of a derived attribute when some names are in use. -/
def viewName (used : List String) (item owner : Construct) : String :=
  let name := "VW_" ++ tableName owner.label
  if name ∈ used then name ++ "_" ++ tableName item.label else name

/-- The views of derived attributes, one after the other. -/
def viewsFrom (d : Classified) (used : List String) : List Construct → Inquiry (List Output)
  | [] => return []
  | item :: rest => do
      match d.ownerOf? item with
      | none => return (← leaveOut (.orphanDerived item)) :: (← viewsFrom d used rest)
      | some owner =>
          match queryOf? item with
          | none => return (← leaveOut (.noExpression item)) :: (← viewsFrom d used rest)
          | some query =>
              let name := viewName used item owner
              return .emit [.createView name query] :: (← viewsFrom d (name :: used) rest)

def derivedAttributes (d : Classified) : Inquiry Output := do
  note .info .derivedAttributes "Starting Step 8: Derived Attributes"
  let output := .concat (← viewsFrom d [] (d.ofKind .derivedAttribute))
  note .info .derivedAttributes
    ("Derived attributes completed: " ++ toString output.statements.length ++ " views generated")
  return output

end EntitySchema
