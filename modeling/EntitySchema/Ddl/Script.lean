/-
# EntitySchema.Ddl.Script -- the statements of a run and their text

A script is a list of statements, each with the phase it came from.  Its text is
that of the statements with a blank line between two of them and a line break at
the end; generated statements are tidied, while views hold queries of the author
and stay as they are.

A statement may still lack a form (`ScriptItem.formless`); a script that
contains one has no text.
-/
import EntitySchema.Ddl.Statement
import EntitySchema.Ddl.Tidy

namespace EntitySchema

open EntitySchema.Ddl

set_option autoImplicit false

def Statement.scriptText : Statement → String
  | .createView name query => (Statement.createView name query).render
  | statement => tidy statement.render

def scriptText (statements : List Statement) : String :=
  if statements.isEmpty then ""
  else String.intercalate "\n\n" (statements.map (·.scriptText)) ++ "\n"

/-- Something a script can hold. -/
inductive ScriptItem where
  | statement (known : Statement)
  | formless
  deriving DecidableEq, Repr

def ScriptItem.form : ScriptItem → String
  | .statement known => known.form
  | .formless => "Statement"

/-- The statement an item is, if it has a form. -/
def ScriptItem.statement? : ScriptItem → Option Statement
  | .statement known => some known
  | .formless => none

/-- Statements in the order of the text, each with its phase. -/
abbrev Script := List (String × ScriptItem)

namespace Script

/-- The script with more items of one phase at its end. -/
def extend (script : Script) (phase : String) (items : List ScriptItem) : Script :=
  script ++ items.map fun item => (phase, item)

def count (script : Script) (phase : String) : Nat := script.countP (·.1 == phase)

/-- The text of a script, unless an item of it lacks a form. -/
def text? (script : Script) : Option String :=
  ((List.map Prod.snd script).mapM ScriptItem.statement?).map scriptText

end Script

end EntitySchema
