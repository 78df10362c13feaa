/-
# EntitySchema.Value.Shown -- the shown form of a value

Log messages show values in one written form: texts between quotes, lists
between brackets, records between braces with a colon after each key, and a
capitalised word for null and for each truth value.
-/
import EntitySchema.Text.Quoted
import EntitySchema.Value.Basic

namespace EntitySchema.Value

open EntitySchema.Text

set_option autoImplicit false

mutual

/-- The shown form of a value. -/
def shown : Value → String
  | .null => "None"
  | .bool value => if value then "True" else "False"
  | .int value => toString value
  | .float value => value.text
  | .text value => quoted value
  | .moment value => value
  | .list items => "[" ++ String.intercalate ", " (shownItems items) ++ "]"
  | .record entries => "\x7b" ++ String.intercalate ", " (shownEntries entries) ++ "\x7d"

def shownItems : List Value → List String
  | [] => []
  | item :: rest => shown item :: shownItems rest

def shownEntries : List (Value × Value) → List String
  | [] => []
  | (key, value) :: rest => (shown key ++ ": " ++ shown value) :: shownEntries rest

end

end EntitySchema.Value
