/-
# EntitySchema.Yaml.Numeral -- plain scalars that write numbers

A whole number is written in base 10, after `0b` in base 2, after `0x` in base
16 and after a further leading zero in base 8; digits in base 60 are separated
by colons.  A float has a point, an exponent only with a sign, and may be in base
60 as well.  Underscores between the digits stand for nothing.

`Numeral.ofChars?` and `Double.ofNumeral?` say which texts have these forms; any
other text is not a number.
-/
import EntitySchema.Number.Double
import EntitySchema.Yaml.Fault

namespace EntitySchema.Yaml

open EntitySchema.Number

set_option autoImplicit false

/-- The pieces of a text between separators. -/
def pieces (separator : Char) : List Char → List (List Char)
  | [] => [[]]
  | c :: rest =>
      if c == separator then [] :: pieces separator rest
      else
        match pieces separator rest with
        | [] => [[c]]
        | piece :: more => (c :: piece) :: more

/-- Whether a number is negative, and its text behind the sign. -/
def takeSign : List Char → Bool × List Char
  | '-' :: rest => (true, rest)
  | '+' :: rest => (false, rest)
  | cs => (false, cs)

/-- Digits and what may stand between them. -/
def isDigitOrLine (c : Char) : Bool := c.isDigit || c == '_'

/-- The digits of a text, without what stands between them. -/
def bareDigits (cs : List Char) : List Char := cs.filter (· != '_')

/-- The value of a digit; letters stand for the digits from ten on. -/
def digitValue (c : Char) : Nat :=
  if c.isDigit then c.toNat - '0'.toNat else c.toLower.toNat - 'a'.toNat + 10

def digitsValue (base : Nat) (cs : List Char) : Nat :=
  (bareDigits cs).foldl (fun n c => base * n + digitValue c) 0

/-- Whether a text is a digit in base 60. -/
def isSexagesimalDigit : List Char → Bool
  | [c] => c.isDigit
  | [c, d] => '0' ≤ c && c ≤ '5' && d.isDigit
  | _ => false

/-! ## Whole numbers -/

/-- How a whole number is written, apart from its sign. -/
inductive Numeral where
  | based (base : Nat) (digits : List Char)
  /-- Digits in base 60, each written in base 10. -/
  | sexagesimal (digits : List (List Char))
  deriving DecidableEq, Repr

namespace Numeral

/-- The numeral that a text without a sign writes. -/
def ofChars? : List Char → Option Numeral
  | ['0'] => some (.based 10 ['0'])
  | '0' :: 'b' :: digits =>
      if !digits.isEmpty && digits.all (fun c => c == '0' || c == '1' || c == '_') then
        some (.based 2 digits)
      else none
  | '0' :: 'x' :: digits =>
      if !digits.isEmpty && digits.all (fun c => isDigitOrLine c ||
          ('a' ≤ c && c ≤ 'f') || ('A' ≤ c && c ≤ 'F')) then some (.based 16 digits)
      else none
  | '0' :: digits =>
      if digits.all (fun c => ('0' ≤ c && c ≤ '7') || c == '_') then some (.based 8 ('0' :: digits))
      else none
  | cs =>
      match pieces ':' cs with
      | (c :: more) :: rest =>
          if c.isDigit && more.all isDigitOrLine && rest.all isSexagesimalDigit then
            some (if rest.isEmpty then .based 10 cs else .sexagesimal ((c :: more) :: rest))
          else none
      | _ => none

def decimalValue (digits : List Char) : Except NumeralFault Nat :=
  let count := (bareDigits digits).length
  if count > mostDigits then .error (.tooManyDigits count) else .ok (digitsValue 10 digits)

def value : Numeral → Except NumeralFault Nat
  | .based base digits =>
      if base == 10 then decimalValue digits
      else if (bareDigits digits).isEmpty then .error (.noDigits base)
      else .ok (digitsValue base digits)
  | .sexagesimal digits => do
      let values ← digits.mapM decimalValue
      return values.foldl (fun n digit => 60 * n + digit) 0

end Numeral

/-! ## Floats -/

/-- The exponent behind the digits of a float; none is zero. -/
def exponent? : List Char → Option Int
  | [] => some 0
  | mark :: sign :: digits =>
      if (mark == 'e' || mark == 'E') && !digits.isEmpty && digits.all Char.isDigit then
        if sign == '+' then some (digitsValue 10 digits : Int)
        else if sign == '-' then some (-(digitsValue 10 digits : Int))
        else none
      else none
  | _ => none

/-- A float in base 10 behind its sign; without digits in front of the point it
has no sign and a digit behind the point. -/
def decimalFloat? (hasSign negative : Bool) (cs : List Char) : Option Double :=
  let whole := cs.takeWhile (· != '.')
  match cs.dropWhile (· != '.') with
  | [] => none
  | _ :: rest =>
      let fraction := rest.takeWhile isDigitOrLine
      let wellFormed := match whole, fraction with
        | c :: more, _ => c.isDigit && more.all isDigitOrLine
        | [], c :: _ => !hasSign && c.isDigit
        | [], [] => false
      if wellFormed then
        (exponent? (rest.dropWhile isDigitOrLine)).map fun exponent =>
          Double.ofDecimal negative (digitsValue 10 (whole ++ fraction))
            (exponent - (bareDigits fraction).length)
      else none

/-- A fraction rounded to the nearest double. -/
def roundedFraction (num den : Nat) : Nat × Nat :=
  match Double.ofFraction false num den with
  | .finite _ mantissa exponent => Double.fraction mantissa exponent
  | _ => (num, den)

/-- The sum of digits in base 60, the last first, each product and each sum
rounded; `sum` is the sum of those passed and `unit` the weight of the next. -/
def sexagesimalSum (sum : Nat × Nat) (unit : Nat) : List (Nat × Nat) → Nat × Nat
  | [] => sum
  | (num, den) :: rest =>
      let weight := roundedFraction unit 1
      let product := roundedFraction (num * weight.1) (den * weight.2)
      let sum := roundedFraction (sum.1 * product.2 + product.1 * sum.2) (sum.2 * product.2)
      sexagesimalSum sum (60 * unit) rest

/-- The fraction that a float in base 10 writes, rounded. -/
def decimalFraction? (cs : List Char) : Option (Nat × Nat) :=
  match decimalFloat? false false cs with
  | some (.finite _ mantissa exponent) => some (Double.fraction mantissa exponent)
  | _ => none

/-- Whether a text is a digit in base 60 with a point behind it, and perhaps a fraction. -/
def isPointedDigit (cs : List Char) : Bool :=
  isSexagesimalDigit (cs.takeWhile (· != '.')) &&
    match cs.dropWhile (· != '.') with
    | [] => false
    | _ :: fraction => fraction.all isDigitOrLine

/-- A float in base 60 behind its sign: only its last digit has a point. -/
def sexagesimalFloat? (negative : Bool) (cs : List Char) : Option Double :=
  match pieces ':' cs with
  | (c :: more) :: next :: rest =>
      let digits := next :: rest
      let last := digits.getLastD []
      let others := digits.dropLast
      let wellFormed := c.isDigit && more.all isDigitOrLine && others.all isSexagesimalDigit
        && isPointedDigit last
      if wellFormed then do
        let last ← decimalFraction? last
        let front := ((c :: more) :: others).map fun digit => roundedFraction (digitsValue 10 digit) 1
        let (num, den) := sexagesimalSum (0, 1) 1 (last :: front.reverse)
        return Double.ofFraction negative num den
      else none
  | _ => none

/-- The float that a text writes. -/
def Double.ofNumeral? (cs : List Char) : Option Double :=
  let (negative, body) := takeSign cs
  let word := String.ofList body
  if [".inf", ".Inf", ".INF"].contains word then some (.infinite negative)
  else if [".nan", ".NaN", ".NAN"].contains (String.ofList cs) then some .notANumber
  else (decimalFloat? (body.length < cs.length) negative body).or (sexagesimalFloat? negative body)

end EntitySchema.Yaml
