/-
# EntitySchema.Name -- the identifiers made from labels

A label becomes a column name by trimming it and writing an underscore for each
inner run of blanks, and a table name by putting that in upper case as well.  A
key column carried into another table is named after itself and its owner,
`<key>-<owner in lower case>`.

Column names are canonical: they hold no blank (`not_isBlank_of_mem_columnName`), and what holds
none names itself (`columnName_of_blankless`), so `columnName` is idempotent
(`columnName_columnName`).
-/
import EntitySchema.Text.Blank
import EntitySchema.Text.Case

namespace EntitySchema

open EntitySchema.Text

set_option autoImplicit false

def columnName (label : String) : String := String.ofList (collapse label.toList)

/-- The table a label names: its column name in upper case. -/
def tableName (label : String) : String := upperString (columnName label)

/-- The column that carries the key column `key` of the table `owner` elsewhere. -/
def foreignColumn (key owner : String) : String := key ++ "-" ++ lowerString owner

theorem not_isBlank_of_mem_columnName {label : String} {c : Char}
    (mem : c ∈ (columnName label).toList) : isBlank c = false := by
  rw [columnName, String.toList_ofList] at mem
  exact not_isBlank_of_mem_joinRuns (by decide) mem

theorem columnName_of_blankless {name : String} (blankless : ∀ c ∈ name.toList, isBlank c = false) :
    columnName name = name := by
  rw [columnName, collapse_of_blankless blankless, String.ofList_toList]

theorem columnName_columnName (label : String) :
    columnName (columnName label) = columnName label :=
  columnName_of_blankless fun _ mem => not_isBlank_of_mem_columnName mem

end EntitySchema
