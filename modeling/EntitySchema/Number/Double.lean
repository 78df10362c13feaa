/-
# EntitySchema.Number.Double -- double precision numbers in exact arithmetic

A finite double is a sign and a magnitude `mantissa * 2 ^ exponent` with a
mantissa below `2 ^ 53` and an exponent of at least `-1074`.  Reading a decimal
rounds it to the nearest such magnitude, a tie going to the even mantissa
(`Double.ofDecimal`); showing one writes the fewest digits that read back as it
(`Double.shortest`), positionally while the point lies within sixteen places
and with an exponent beyond (`Double.text`).  All of it is arithmetic on
natural numbers.
-/

namespace EntitySchema.Number

set_option autoImplicit false

/-- A double precision number. -/
inductive Double where
  /-- The magnitude `mantissa * 2 ^ exponent` with a sign. -/
  | finite (negative : Bool) (mantissa : Nat) (exponent : Int)
  | infinite (negative : Bool)
  | notANumber
  deriving DecidableEq, Repr

namespace Double

/-! ## Rounding to the nearest magnitude -/

/-- The quotient rounded to the nearest whole number, a tie to the even one. -/
def roundQuotient (num den : Nat) : Nat :=
  let quotient := num / den
  let twice := 2 * (num % den)
  if twice > den ∨ (twice = den ∧ quotient % 2 = 1) then quotient + 1 else quotient

/-- The fraction `num / den` counted in units of `2 ^ exponent`, rounded. -/
def inUnits (num den : Nat) (exponent : Int) : Nat :=
  if 0 ≤ exponent then roundQuotient num (den * Nat.pow 2 exponent.toNat)
  else roundQuotient (num * Nat.pow 2 (-exponent).toNat) den

/-- The double nearest to the fraction `num / den`. -/
def ofFraction (negative : Bool) (num den : Nat) : Double :=
  if num = 0 then .finite negative 0 0
  else
    let guess : Int := (Nat.log2 num : Int) - (Nat.log2 den : Int) - 52
    -- the true exponent is `guess` or one less
    let low := max (guess - 1) (-1074)
    let mantissa := inUnits num den low
    let (mantissa, exponent) :=
      if mantissa < Nat.pow 2 53 then (mantissa, low) else (inUnits num den (low + 1), low + 1)
    let (mantissa, exponent) :=
      if mantissa < Nat.pow 2 53 then (mantissa, exponent) else (mantissa / 2, exponent + 1)
    if exponent > 971 then .infinite negative else .finite negative mantissa exponent

/-- The double nearest to `digits * 10 ^ scale`.  Beyond four hundred places
on either side the answer is infinite or zero whatever the digits are. -/
def ofDecimal (negative : Bool) (digits : Nat) (scale : Int) : Double :=
  let places : Int := (Nat.toDigits 10 digits).length
  if digits = 0 ∨ scale + places < -400 then .finite negative 0 0
  else if scale + places > 400 then .infinite negative
  else if 0 ≤ scale then ofFraction negative (digits * Nat.pow 10 scale.toNat) 1
  else ofFraction negative digits (Nat.pow 10 (-scale).toNat)

/-! ## Questions -/

/-- The whole number a double is, if it is one. -/
def whole? : Double → Option Int
  | .finite negative mantissa exponent =>
      let signed (n : Nat) : Int := if negative then -(n : Int) else n
      if 0 ≤ exponent then some (signed (mantissa * Nat.pow 2 exponent.toNat))
      else
        let unit := Nat.pow 2 (-exponent).toNat
        if mantissa % unit = 0 then some (signed (mantissa / unit)) else none
  | _ => none

def isFinite : Double → Bool
  | .finite .. => true
  | _ => false

/-! ## The fewest digits -/

def fraction (mantissa : Nat) (exponent : Int) : Nat × Nat :=
  if 0 ≤ exponent then (mantissa * Nat.pow 2 exponent.toNat, 1)
  else (mantissa, Nat.pow 2 (-exponent).toNat)

/-- The largest whole number of units `10 ^ scale` in `num / den`. -/
def unitsBelow (num den : Nat) (scale : Int) : Nat :=
  if 0 ≤ scale then num / (den * Nat.pow 10 scale.toNat)
  else num * Nat.pow 10 (-scale).toNat / den

/-- Whether the remainder above `unitsBelow` reaches past the middle of a unit,
or to the middle of one whose lower end is odd. -/
def upperIsNearer (num den : Nat) (scale : Int) : Bool :=
  let (top, unit) :=
    if 0 ≤ scale then (num, den * Nat.pow 10 scale.toNat)
    else (num * Nat.pow 10 (-scale).toNat, den)
  roundQuotient top unit = top / unit + 1

/-- The decimal with last place `scale` that reads back as the magnitude; of
two neighbours that do, the nearer. -/
def digitsAt? (num den : Nat) (scale : Int) : Option Nat :=
  let below := unitsBelow num den scale
  let reads (digits : Nat) : Bool := ofDecimal false digits scale = ofFraction false num den
  let (first, second) :=
    if upperIsNearer num den scale then (below + 1, below) else (below, below + 1)
  if reads first then some first else if reads second then some second else none

/-- The power of ten just above a positive magnitude: with `k` the result,
`10 ^ (k - 1) ≤ num / den < 10 ^ k`. -/
def decimalPoint (num den : Nat) : Int :=
  let guess : Int := (Nat.toDigits 10 num).length - (Nat.toDigits 10 den).length
  if unitsBelow num den guess = 0 then guess else guess + 1

/-- The fewest digits of a positive magnitude, with the place of the last one. -/
def shortest (mantissa : Nat) (exponent : Int) : Nat × Int :=
  let (num, den) := fraction mantissa exponent
  let point := decimalPoint num den
  let found := (List.range 17).findSome? fun more =>
    let scale := point - (more + 1 : Nat)
    (digitsAt? num den scale).map fun digits => (digits, scale)
  found.getD (unitsBelow num den (point - 17), point - 17)

def dropZeros (digits : List Char) : List Char :=
  (digits.reverse.dropWhile (· == '0')).reverse

/-- The written form of a positive magnitude. -/
def magnitudeText (mantissa : Nat) (exponent : Int) : String :=
  let (digits, scale) := shortest mantissa exponent
  let all := Nat.toDigits 10 digits
  let point : Int := all.length + scale
  let digits := dropZeros all
  if -4 < point ∧ point ≤ 16 then
    if point ≤ 0 then
      "0." ++ String.ofList (List.replicate (-point).toNat '0' ++ digits)
    else
      let front := digits.take point.toNat
      let back := digits.drop point.toNat
      let front := front ++ List.replicate (point.toNat - front.length) '0'
      String.ofList front ++ "." ++ (if back.isEmpty then "0" else String.ofList back)
  else
    let power := point - 1
    let powerDigits := toString power.natAbs
    String.ofList (digits.take 1)
      ++ (if digits.length ≤ 1 then "" else "." ++ String.ofList (digits.drop 1))
      ++ (if power < 0 then "e-" else "e+")
      ++ (if powerDigits.length < 2 then "0" ++ powerDigits else powerDigits)

def text : Double → String
  | .notANumber => "nan"
  | .infinite negative => if negative then "-inf" else "inf"
  | .finite negative mantissa exponent =>
      (if negative then "-" else "")
        ++ (if mantissa = 0 then "0.0" else magnitudeText mantissa exponent)

end Double

end EntitySchema.Number
