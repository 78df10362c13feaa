/-
# EntitySchema.Yaml.Moment -- plain scalars that write a day or a point in time

A day is written with four, two and two digits; in front of a time, the month and
the day may have one digit.  The time may have a fraction of a second and a zone:
`Z` or an offset of hours and minutes.  A text of that form need not name a day or
a time, which `Moment.fault?` finds out.
-/
import EntitySchema.Yaml.Fault

namespace EntitySchema.Yaml

set_option autoImplicit false

structure Clock where
  hour : Nat
  minute : Nat
  second : Nat
  microsecond : Nat
  /-- Minutes ahead of universal time, if a zone is given. -/
  offset : Option Int
  deriving DecidableEq, Repr

structure Moment where
  year : Nat
  month : Nat
  day : Nat
  clock : Option Clock := none
  deriving DecidableEq, Repr

namespace Moment

/-! ## The written form -/

/-- A number of `least` to `most` digits, and the text behind it. -/
def number? (least most : Nat) (cs : List Char) : Option (Nat × List Char) :=
  let digits := (cs.take most).takeWhile Char.isDigit
  if digits.length < least then none
  else some (digits.foldl (fun n c => 10 * n + (c.toNat - '0'.toNat)) 0, cs.drop digits.length)

/-- The text behind a mark. -/
def after? (mark : Char) : List Char → Option (List Char)
  | c :: rest => if c == mark then some rest else none
  | [] => none

/-- Year, month and day, the last two with at least `least` digits. -/
def day? (least : Nat) (cs : List Char) : Option (Moment × List Char) := do
  let (year, cs) ← number? 4 4 cs
  let (month, cs) ← number? least 2 (← after? '-' cs)
  let (day, cs) ← number? least 2 (← after? '-' cs)
  return ({ year, month, day }, cs)

/-- The text behind what stands between a day and a time. -/
def behindDay? : List Char → Option (List Char)
  | c :: rest =>
      if c == 'T' || c == 't' then some rest
      else if c == ' ' || c == '\t' then
        some (rest.dropWhile fun c => c == ' ' || c == '\t')
      else none
  | [] => none

/-- The fraction of a second in millionths, and the text behind it. -/
def fraction : List Char → Nat × List Char
  | '.' :: rest =>
      let digits := rest.takeWhile Char.isDigit
      let six := (digits ++ List.replicate 6 '0').take 6
      (six.foldl (fun n c => 10 * n + (c.toNat - '0'.toNat)) 0, rest.dropWhile Char.isDigit)
  | cs => (0, cs)

/-- The minutes behind the hours of an offset, up to the end of the text. -/
def offsetMinutes? : List Char → Option Nat
  | [] => some 0
  | cs => do
      let (minute, rest) ← number? 2 2 (← after? ':' cs)
      if rest.isEmpty then some minute else none

/-- The zone behind a time, up to the end of the text. -/
def zone? (cs : List Char) : Option (Option Int) :=
  if cs.isEmpty then some none
  else
    match cs.dropWhile fun c => c == ' ' || c == '\t' with
    | ['Z'] => some (some 0)
    | sign :: rest =>
        if sign == '+' || sign == '-' then do
          let (hour, rest) ← number? 1 2 rest
          let size := 60 * hour + (← offsetMinutes? rest)
          return some (if sign == '-' then -(size : Int) else size)
        else none
    | [] => none

def clock? (cs : List Char) : Option Clock := do
  let (hour, cs) ← number? 1 2 cs
  let (minute, cs) ← number? 2 2 (← after? ':' cs)
  let (second, cs) ← number? 2 2 (← after? ':' cs)
  let (microsecond, cs) := fraction cs
  return { hour, minute, second, microsecond, offset := ← zone? cs }

/-- The day or point in time that a text writes. -/
def ofChars? (cs : List Char) : Option Moment :=
  match day? 2 cs with
  | some (moment, []) => some moment
  | _ => do
      let (moment, cs) ← day? 1 cs
      return { moment with clock := some (← clock? (← behindDay? cs)) }

/-! ## Days and times that exist -/

/-- Whether a year has a day more than others. -/
def isLeap (year : Nat) : Bool := year % 4 == 0 && (year % 100 != 0 || year % 400 == 0)

def daysIn (year month : Nat) : Nat :=
  if month == 2 then if isLeap year then 29 else 28
  else if [4, 6, 9, 11].contains month then 30
  else 31

def offsetShown (minutes : Int) : String :=
  let seconds := 60 * minutes
  let days := Int.fdiv seconds 86400
  let rest := Int.fmod seconds 86400
  let parts := (if days == 0 then [] else ["days=" ++ toString days])
    ++ (if rest == 0 then [] else ["seconds=" ++ toString rest])
  "datetime.timedelta(" ++ String.intercalate ", " parts ++ ")"

def dayFault? (moment : Moment) : Option MomentFault :=
  if moment.year == 0 then some (.year moment.year)
  else if moment.month == 0 || moment.month > 12 then some .month
  else if moment.day == 0 || moment.day > daysIn moment.year moment.month then some .day
  else none

def clockFault? (clock : Clock) : Option MomentFault :=
  if clock.hour > 23 then some .hour
  else if clock.minute > 59 then some .minute
  else if clock.second > 59 then some .second
  else none

def offsetFault? (clock : Clock) : Option MomentFault :=
  match clock.offset with
  | some minutes =>
      if minutes.natAbs ≥ 24 * 60 then some (.offset (offsetShown minutes)) else none
  | none => none

/-- What is wrong with a moment: its offset comes first, then its day, then its time. -/
def fault? (moment : Moment) : Option MomentFault :=
  match moment.clock with
  | none => moment.dayFault?
  | some clock => (offsetFault? clock).or ((moment.dayFault?).or (clockFault? clock))

/-! ## The shown form -/

def zoneShown (minutes : Int) : String :=
  if minutes == 0 then "datetime.timezone.utc"
  else "datetime.timezone(" ++ offsetShown minutes ++ ")"

/-- The shown form of a moment: seconds only if they or their fraction are not zero. -/
def shown (moment : Moment) : String :=
  let day := [moment.year, moment.month, moment.day]
  match moment.clock with
  | none => "datetime.date(" ++ String.intercalate ", " (day.map toString) ++ ")"
  | some clock =>
      let fine := if clock.microsecond != 0 then [clock.second, clock.microsecond]
        else if clock.second != 0 then [clock.second] else []
      let numbers := (day ++ [clock.hour, clock.minute] ++ fine).map toString
      let zone := match clock.offset with
        | some minutes => ["tzinfo=" ++ zoneShown minutes]
        | none => []
      "datetime.datetime(" ++ String.intercalate ", " (numbers ++ zone) ++ ")"

end Moment

end EntitySchema.Yaml
