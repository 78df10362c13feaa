/-
# EntitySchema.Trigger.ErrorCode -- the numbers that triggers raise

Every raise in a script has a number of its own.  Numbers are handed out one
after the other from a base (`ErrorCodes`); those above `lastErrorCode` are not
available, and asking for one fails.
-/

namespace EntitySchema

set_option autoImplicit false

/-- The largest number that can be raised. -/
def lastErrorCode : Int := 20999

/-- The numbers handed out so far: `count` of them, from `base` on. -/
structure ErrorCodes where
  base : Int
  count : Nat := 0
  deriving DecidableEq, Repr

namespace ErrorCodes

/-- The numbers handed out so far, in order. -/
def issued (codes : ErrorCodes) : List Int :=
  (List.range codes.count).map fun (position : Nat) => codes.base + position

def next (codes : ErrorCodes) : Int := codes.base + codes.count

/-- Hands out the next number, unless it is past the last one. -/
def allocate? (codes : ErrorCodes) : Option (Int × ErrorCodes) :=
  if codes.next > lastErrorCode then none
  else some (codes.next, { codes with count := codes.count + 1 })

end ErrorCodes

end EntitySchema
