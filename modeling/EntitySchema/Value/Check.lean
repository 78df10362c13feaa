/-
# EntitySchema.Value.Check -- reading typed fields out of a document

A `Check` reads a typed value out of a document and collects every complaint
on the way instead of stopping at the first: combining two checks keeps the
complaints of both, in order.  A complaint says where it arose (a path of field
names and positions) and why (`Fault`, worded once in `Fault.message`).

Scalars are read leniently.  A truth value may be written as a word or as 0
or 1, a whole number as a text or as a float without a fraction; a text is
never made out of anything else.
-/
import EntitySchema.Text.Blank
import EntitySchema.Value.Shown

namespace EntitySchema

open EntitySchema.Number

set_option autoImplicit false

/-! ## Complaints -/

/-- Why a value is refused. -/
inductive Fault where
  | missing
  | extraForbidden
  | notText
  | notTruth
  | unreadTruth
  | notInteger
  | unreadInteger
  | integerTooLong
  | fractional
  | notFinite
  | notList
  | notModel (model : String)
  | keyNotText
  | frozen
  | custom (reason : String)
  | below (least : Int)
  | above (greatest : Int)
  deriving DecidableEq, Repr

namespace Fault

/-- The short name of a fault. -/
def code : Fault → String
  | .missing => "missing"
  | .extraForbidden => "extra_forbidden"
  | .notText => "string_type"
  | .notTruth => "bool_type"
  | .unreadTruth => "bool_parsing"
  | .notInteger => "int_type"
  | .unreadInteger => "int_parsing"
  | .integerTooLong => "int_parsing_size"
  | .fractional => "int_from_float"
  | .notFinite => "finite_number"
  | .notList => "list_type"
  | .notModel _ => "model_type"
  | .keyNotText => "invalid_key"
  | .frozen => "frozen_instance"
  | .custom _ => "value_error"
  | .below _ => "greater_than_equal"
  | .above _ => "less_than_equal"

def message : Fault → String
  | .missing => "Field required"
  | .extraForbidden => "Extra inputs are not permitted"
  | .notText => "Input should be a valid string"
  | .notTruth => "Input should be a valid boolean"
  | .unreadTruth => "Input should be a valid boolean, unable to interpret input"
  | .notInteger => "Input should be a valid integer"
  | .unreadInteger => "Input should be a valid integer, unable to parse string as an integer"
  | .integerTooLong => "Unable to parse input string as an integer, exceeded maximum size"
  | .fractional => "Input should be a valid integer, got a number with a fractional part"
  | .notFinite => "Input should be a finite number"
  | .notList => "Input should be a valid list"
  | .notModel model => "Input should be a valid dictionary or instance of " ++ model
  | .keyNotText => "Keys should be strings"
  | .frozen => "Instance is frozen"
  | .custom reason => "Value error, " ++ reason
  | .below least => "Input should be greater than or equal to " ++ toString least
  | .above greatest => "Input should be less than or equal to " ++ toString greatest

end Fault

/-- One step of the path to a value. -/
inductive Step where
  | name (field : String)
  | index (position : Int)
  deriving DecidableEq, Repr

/-- A refused value: where it stands and why it is refused. -/
structure Complaint where
  place : List Step
  fault : Fault
  deriving DecidableEq, Repr

/-- Why a document is not a value of the model it was read as. -/
structure Rejection where
  model : String
  complaints : List Complaint
  deriving DecidableEq, Repr

/-! ## Checks -/

/-- A reading that collects complaints.  A check without complaints has a value. -/
structure Check (α : Type) where
  complaints : List Complaint
  value? : Option α

namespace Check

variable {α β : Type}

def ok (value : α) : Check α := ⟨[], some value⟩

def refuse (fault : Fault) : Check α := ⟨[⟨[], fault⟩], none⟩

instance : Functor Check where
  map f check := ⟨check.complaints, check.value?.map f⟩

/-- Both readings, with the complaints of both. -/
instance : Applicative Check where
  pure := ok
  seq f x :=
    let second := x ()
    ⟨f.complaints ++ second.complaints, f.value?.bind fun f => second.value?.map f⟩

/-- A further requirement on a value that has been read. -/
def andThen (check : Check α) (next : α → Check β) : Check β :=
  match check.value? with
  | none => ⟨check.complaints, none⟩
  | some value =>
      let rest := next value
      ⟨check.complaints ++ rest.complaints, rest.value?⟩

/-- The same reading, seen from one step further out. -/
def under (step : Step) (check : Check α) : Check α :=
  { check with complaints := check.complaints.map fun c => { c with place := step :: c.place } }

/-- The reading as a result: the value, or the complaints under the model's name. -/
def result (model : String) (check : Check α) : Except Rejection α :=
  match check.complaints, check.value? with
  | [], some value => .ok value
  | complaints, _ => .error ⟨model, complaints⟩

/-! ## Scalars -/

/-- A text, and nothing else. -/
def text : Value → Check String
  | .text value => ok value
  | _ => refuse .notText

/-- A text or null. -/
def optionalText : Value → Check (Option String)
  | .null => ok none
  | value => some <$> text value

def falseWords : List String := ["0", "off", "f", "false", "n", "no"]

def trueWords : List String := ["1", "on", "t", "true", "y", "yes"]

/-- Whole numbers from `-wordBound` up to but not including `wordBound` fit into 64 bits. -/
def wordBound : Int := 9223372036854775808

/-- A truth value, or a word or number that stands for one. -/
def truth : Value → Check Bool
  | .bool value => ok value
  | .text word =>
      let word := word.map Char.toLower
      if falseWords.contains word then ok false
      else if trueWords.contains word then ok true
      else refuse .unreadTruth
  | .int value =>
      if value = 0 then ok false
      else if value = 1 then ok true
      else if -wordBound ≤ value ∧ value < wordBound then refuse .unreadTruth
      else refuse .notTruth
  | .float value =>
      if value.whole? = some 0 then ok false
      else if value.whole? = some 1 then ok true
      else refuse .notTruth
  | _ => refuse .notTruth

def digitRun? : Bool → Nat → List Char → Option Nat
  | true, n, [] => some n
  | false, _, [] => none
  | afterDigit, n, c :: rest =>
      if c.isDigit then digitRun? true (n * 10 + (c.toNat - '0'.toNat)) rest
      else if c = '_' ∧ afterDigit then digitRun? false n rest
      else none

/-- A whole number written in decimal, with an optional sign and an optional
point that only zeros follow. -/
def integerText? (cs : List Char) : Option Int :=
  let (negative, body) := match cs with
    | '-' :: rest => (true, rest)
    | '+' :: rest => (false, rest)
    | _ => (false, cs)
  let (whole, tail) := body.span (· != '.')
  if (tail.drop 1).all (· == '0') then
    (digitRun? false 0 whole).map fun n => if negative then -(n : Int) else n
  else none

/-- Blanks around a written number; the information separators do not count. -/
def isNumberBlank (c : Char) : Bool := Text.isBlank c && !(0x1C ≤ c.toNat && c.toNat ≤ 0x1F)

def trimNumber (cs : List Char) : List Char :=
  ((cs.dropWhile isNumberBlank).reverse.dropWhile isNumberBlank).reverse

/-- The longest text that is read as a number. -/
def longestInteger : Nat := 4300

/-- A whole number, or a text, float or truth value that stands for one. -/
def integer : Value → Check Int
  | .int value => ok value
  | .bool value => ok (if value then 1 else 0)
  | .float value =>
      if !value.isFinite then refuse .notFinite
      else match value.whole? with
        | none => refuse .fractional
        | some n =>
            if -wordBound < n ∧ n < wordBound then ok n else refuse .integerTooLong
  | .text written =>
      let cs := trimNumber written.toList
      if cs.length > longestInteger then refuse .integerTooLong
      else match integerText? cs with
        | some n => ok n
        | none => refuse .unreadInteger
  | _ => refuse .notInteger

/-! ## Lists and records -/

/-- The items of a list, each read from its position on. -/
def itemsFrom (read : Value → Check α) (position : Nat) : List Value → Check (List α)
  | [] => ok []
  | item :: rest =>
      (· :: ·) <$> (read item).under (.index position) <*> itemsFrom read (position + 1) rest

def list (read : Value → Check α) : Value → Check (List α)
  | .list items => itemsFrom read 0 items
  | _ => refuse .notList

def entries (model : String) : Value → Check (List (Value × Value))
  | .record entries => ok entries
  | _ => refuse (.notModel model)

/-- A field that has to be there. -/
def required (name : String) (read : Value → Check α) (entries : List (Value × Value)) : Check α :=
  match Value.field? entries name with
  | some value => (read value).under (.name name)
  | none => (refuse .missing).under (.name name)

/-- A field that has a default. -/
def optional (name : String) (default : α) (read : Value → Check α)
    (entries : List (Value × Value)) : Check α :=
  match Value.field? entries name with
  | some value => (read value).under (.name name)
  | none => ok default

/-- A key as a step of a path: a text by itself, a number by its value, and
anything else by its shown form. -/
def keyStep : Value → Step
  | .text name => .name name
  | .bool value => .index (if value then 1 else 0)
  | .int value =>
      if -wordBound ≤ value ∧ value < wordBound then .index value
      else .name (toString value)
  | value => .name value.shown

/-- Refuses every key that is not in `known`. -/
def noExtras (known : List String) : List (Value × Value) → Check Unit
  | [] => ok ()
  | (key, _) :: rest =>
      let here : Check Unit := match key with
        | .text name => if known.contains name then ok () else (refuse .extraForbidden).under (keyStep key)
        | _ => (refuse .keyNotText).under (keyStep key)
      (fun _ _ => ()) <$> here <*> noExtras known rest

end Check

end EntitySchema
