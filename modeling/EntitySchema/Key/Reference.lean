/-
# EntitySchema.Key.Reference -- naming the columns that refer to keys

A table that refers to the keys of other tables needs a column for each of
their key columns.  The column is named after the key (`Key.foreignColumn`); if
that name is taken, the first of the numbers 2, 3, … that makes it free is put
behind it (`freshName`).  Among more candidates than there are taken names one
is free, so the search is over a list.
-/
import EntitySchema.Key.Basic

namespace EntitySchema

set_option autoImplicit false

/-- The name itself, then the name with 2, 3, … behind it. -/
def nameCandidate (name : String) : Nat → String
  | 0 => name
  | tries + 1 => name ++ toString (tries + 2)

/-- The first candidate for a name that is not taken. -/
def freshName (taken : List String) (name : String) : String :=
  (((List.range (taken.length + 1)).map (nameCandidate name)).find? (· ∉ taken)).getD name

/-- Columns for a list of keys: none of them taken, no two alike. -/
def foreignColumns (taken : List String) : List Key → List String
  | [] => []
  | key :: rest =>
      let column := freshName taken key.foreignColumn
      column :: foreignColumns (column :: taken) rest

/-- The columns by which a table refers to the key of an entity. -/
structure Reference where
  target : KeyedEnd
  columns : List String
  deriving DecidableEq, Repr

namespace Reference

def refTable (reference : Reference) : String := reference.target.table

def refColumns (reference : Reference) : List String := reference.target.columns

def sqlTypes (reference : Reference) : List (Option String) :=
  reference.target.keys.map (·.sqlType)

def typedColumns (reference : Reference) : List (String × Option String) :=
  reference.columns.zip reference.sqlTypes

end Reference

/-- References to each entity that has a key, in order; no column is taken or
used for another reference. -/
def planReferences (taken : List String) : List KeyedEnd → List Reference
  | [] => []
  | target :: rest =>
      if target.keys.isEmpty then planReferences taken rest
      else
        let columns := foreignColumns taken target.keys
        { target, columns } :: planReferences (columns ++ taken) rest

end EntitySchema
