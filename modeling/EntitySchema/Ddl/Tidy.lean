/-
# EntitySchema.Ddl.Tidy -- removing dangling separators from rendered text

Two artifacts are removed: a comma with nothing but blanks between it and a
closing `);`, and a plus with at least one blank behind it that stands right before a
comparison (`X0 + X1 + < 1` becomes `X0 + X1 < 1`).  Commas are removed
first.  What was removed is gone for good, but the removal of one comma can
bring another in front of the same `);`.
-/
import EntitySchema.Text.Blank

namespace EntitySchema.Ddl

open EntitySchema.Text

set_option autoImplicit false

/-- Whether the text is a closing `);`, blanks in front of it left aside. -/
def closes (cs : List Char) : Bool :=
  match dropBlanks cs with
  | ')' :: ';' :: _ => true
  | _ => false

/-- The text without the commas in front of a closing `);`. -/
def dropCommas : List Char → List Char
  | [] => []
  | c :: rest => if c = ',' ∧ closes rest then dropCommas rest else c :: dropCommas rest

/-- Whether the text starts with a comparison. -/
def compares : List Char → Bool
  | '<' :: _ | '>' :: _ | '=' :: _ => true
  | '!' :: '=' :: _ => true
  | _ => false

/-- Whether a plus in front of the text is dangling. -/
def dangles : List Char → Bool
  | [] => false
  | c :: rest => isBlank c && compares (dropBlanks rest)

/-- The text without its dangling pluses and the blanks behind them; `skipping`
says that such a plus has just been removed. -/
def dropPluses : Bool → List Char → List Char
  | _, [] => []
  | skipping, c :: rest =>
      if skipping ∧ isBlank c then dropPluses true rest
      else if c = '+' ∧ dangles rest then dropPluses true rest
      else c :: dropPluses false rest

def tidyChars (cs : List Char) : List Char := dropPluses false (dropCommas cs)

/-- The text without dangling separators. -/
def tidy (text : String) : String := String.ofList (tidyChars text.toList)

end EntitySchema.Ddl
