/-
# EntitySchema.Text.Case -- upper and lower case of a text

Both directions are the full Unicode mappings: a character may become several
(`ß` in upper case is `SS`).  `upper` looks at one character at a time.  `lower`
does too with one exception: a capital sigma at the end of a word becomes the
final form `ς`, and whether it ends a word is read off its surroundings
(`endsWord`).
-/
import EntitySchema.Unicode.CaseTable

namespace EntitySchema.Text

open EntitySchema.Unicode

set_option autoImplicit false

/-- One character mapped by a table of runs and a table of expansions. -/
def mapChar (shifts : List Shift) (expansions : List (Nat × List Nat)) (c : Char) : List Char :=
  match Shift.find? c.toNat shifts with
  | some run => [Char.ofNat (run.apply c.toNat)]
  | none =>
      if c.toNat < 0x80 then [c]
      else match expansions.lookup c.toNat with
        | some codes => codes.map Char.ofNat
        | none => [c]

/-! ## Upper case -/

def upperChar (c : Char) : List Char := mapChar upperShifts upperExpansions c

def upper (cs : List Char) : List Char := cs.flatMap upperChar

/-! ## Lower case -/

def capitalSigma : Char := 'Σ'

/-- The lower case of one character on its own. -/
def lowerChar (c : Char) : List Char := mapChar lowerShifts lowerExpansions c

/-- Whether the nearest character that is not case-ignorable is cased. -/
def meetsCased : List Char → Bool
  | [] => false
  | c :: rest =>
      if inSpans c.toNat caseIgnorable then meetsCased rest else inSpans c.toNat cased

/-- A capital sigma ends a word when a cased character comes before it and none
comes after it; `before` is read backwards. -/
def endsWord (before after : List Char) : Bool := meetsCased before && !meetsCased after

/-- Lower case of what remains, given what has been passed, nearest first. -/
def lowerFrom (before : List Char) : List Char → List Char
  | [] => []
  | c :: rest =>
      (if c = capitalSigma then [if endsWord before rest then 'ς' else 'σ'] else lowerChar c)
        ++ lowerFrom (c :: before) rest

def lower (cs : List Char) : List Char := lowerFrom [] cs

/-! ## On strings -/

def upperString (s : String) : String := String.ofList (upper s.toList)

def lowerString (s : String) : String := String.ofList (lower s.toList)

end EntitySchema.Text
