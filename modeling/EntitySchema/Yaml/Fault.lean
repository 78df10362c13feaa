/-
# EntitySchema.Yaml.Fault -- why a document cannot be read

A document is refused if its bytes are no text, if the text does not follow the
grammar, or if a scalar has the form of a number or of a point in time without
naming one.
-/

namespace EntitySchema.Yaml

set_option autoImplicit false

/-- Why numbers name no day, time or offset. -/
inductive MomentFault where
  | year (value : Nat)
  | month
  | day
  | hour
  | minute
  | second
  /-- An offset of a day or more, in its shown form. -/
  | offset (shown : String)
  deriving DecidableEq, Repr

def MomentFault.message : MomentFault → String
  | .year value => "year " ++ toString value ++ " is out of range"
  | .month => "month must be in 1..12"
  | .day => "day is out of range for month"
  | .hour => "hour must be in 0..23"
  | .minute => "minute must be in 0..59"
  | .second => "second must be in 0..59"
  | .offset shown =>
      "offset must be a timedelta strictly between -timedelta(hours=24) and "
        ++ "timedelta(hours=24), not " ++ shown ++ "."

/-- Why a scalar with the form of a number names none. -/
inductive NumeralFault where
  /-- Nothing follows the mark of the base. -/
  | noDigits (base : Nat)
  | tooManyDigits (count : Nat)
  deriving DecidableEq, Repr

/-- The most decimal digits that a whole number is read from. -/
def mostDigits : Nat := 4300

def NumeralFault.message : NumeralFault → String
  | .noDigits base => "invalid literal for int() with base " ++ toString base ++ ": ''"
  | .tooManyDigits count =>
      "Exceeds the limit (" ++ toString mostDigits ++ " digits) for integer string conversion: "
        ++ "value has " ++ toString count ++ " digits; "
        ++ "use sys.set_int_max_str_digits() to increase the limit"

/-- Why a document cannot be read. -/
inductive Fault where
  | notUtf8
  | malformed
  | numeral (fault : NumeralFault)
  | moment (fault : MomentFault)
  deriving DecidableEq, Repr

end EntitySchema.Yaml
