/-
# EntitySchema.Key.Basic -- the keys of tables

A key is one column that identifies the rows of a table.  Another table refers
to it by a column named after the key and its table (`Key.foreignColumn`), and
takes it over under that name when it makes the key its own (`Key.carriedTo`).
A composite key is a list of keys in a fixed order.
-/
import EntitySchema.Classified.Basic
import EntitySchema.Name

namespace EntitySchema

set_option autoImplicit false

/-- A key column of the table `owner`. -/
structure Key where
  owner : String
  column : String
  sqlType : Option String := none
  deriving DecidableEq, Repr

/-- The column by which another table refers to the key. -/
def Key.foreignColumn (key : Key) : String := EntitySchema.foreignColumn key.column key.owner

/-- The key as a key of the table `owner`. -/
def Key.carriedTo (owner : String) (key : Key) : Key :=
  { owner, column := key.foreignColumn, sqlType := key.sqlType }

/-- The key column that an attribute makes in the table of an entity. -/
def Key.ofAttribute (entity item : Construct) : Key :=
  { owner := tableName entity.label, column := columnName item.label, sqlType := item.sqlType }

/-- An entity reached by a link, with the key of its table. -/
structure KeyedEnd where
  node : Construct
  link : Link
  keys : List Key := []
  deriving DecidableEq, Repr

namespace KeyedEnd

def table (place : KeyedEnd) : String := tableName place.node.label

def columns (place : KeyedEnd) : List String := place.keys.map (·.column)

end KeyedEnd

end EntitySchema
