/-
# EntitySchema.Value.Json -- reading a value from JSON text

The grammar of JSON, with the number words `NaN`, `Infinity` and `-Infinity`
admitted as well.  A number with a point or an exponent is a float and any
other is an integer of any size, so `1` and `1.0` are different values.  The
entries of an object keep their order.  Every reader returns what it read and
the text behind it; nesting is bounded by the length of the text, which no
well-formed text exceeds (`Value.ofJson?`).
-/
import EntitySchema.Value.Basic

namespace EntitySchema.Value

namespace Json

open EntitySchema.Number

set_option autoImplicit false

/-- Blanks between tokens. -/
def skipBlanks (cs : List Char) : List Char :=
  cs.dropWhile fun c => c == ' ' || c == '\t' || c == '\n' || c == '\r'

/-! ## Texts -/

def hexValue? (c : Char) : Option Nat :=
  if '0' ≤ c ∧ c ≤ '9' then some (c.toNat - '0'.toNat)
  else if 'a' ≤ c ∧ c ≤ 'f' then some (c.toNat - 'a'.toNat + 10)
  else if 'A' ≤ c ∧ c ≤ 'F' then some (c.toNat - 'A'.toNat + 10)
  else none

/-- The number written by a run of hexadecimal digits. -/
def hexNumber? (cs : List Char) : Option Nat :=
  cs.foldlM (fun n c => (hexValue? c).map (n * 16 + ·)) 0

/-- The character of an escape that is one letter long. -/
def letterEscape? : Char → Option Char
  | '"' => some '"'
  | '\\' => some '\\'
  | '/' => some '/'
  | 'b' => some '\x08'
  | 'f' => some '\x0c'
  | 'n' => some '\n'
  | 'r' => some '\r'
  | 't' => some '\t'
  | _ => none

/-- One escape behind its backslash; two escapes that form a pair of
surrogates are one character. -/
def escape? : List Char → Option (Char × List Char)
  | 'u' :: a :: b :: c :: d :: rest => do
      let high ← hexNumber? [a, b, c, d]
      match rest with
      | '\\' :: 'u' :: e :: f :: g :: h :: rest' =>
          if 0xD800 ≤ high ∧ high < 0xDC00 then
            let low ← hexNumber? [e, f, g, h]
            if 0xDC00 ≤ low ∧ low < 0xE000 then
              return (Char.ofNat (0x10000 + (high - 0xD800) * 0x400 + (low - 0xDC00)), rest')
          return (Char.ofNat high, rest)
      | _ => return (Char.ofNat high, rest)
  | c :: rest => (letterEscape? c).map (·, rest)
  | [] => none

/-- The characters of a text up to its closing quote, read with `passed` in
front, last first. -/
def textBody (fuel : Nat) (passed : List Char) (cs : List Char) : Option (String × List Char) :=
  match fuel with
  | 0 => none
  | fuel + 1 =>
      match cs with
      | [] => none
      | '"' :: rest => some (String.ofList passed.reverse, rest)
      | '\\' :: rest => do
          let (c, rest) ← escape? rest
          textBody fuel (c :: passed) rest
      | c :: rest => if c.toNat < 0x20 then none else textBody fuel (c :: passed) rest

/-! ## Numbers -/

def digits (cs : List Char) : List Char × List Char := cs.span Char.isDigit

def decimal (cs : List Char) : Nat := cs.foldl (fun n c => n * 10 + (c.toNat - '0'.toNat)) 0

def fractionPart : List Char → List Char × List Char
  | '.' :: rest => match digits rest with
      | ([], _) => ([], '.' :: rest)
      | found => found
  | cs => ([], cs)

/-- The exponent of a number, if it has one. -/
def exponentPart (cs : List Char) : Option Int × List Char :=
  match cs with
  | mark :: rest =>
      if mark == 'e' || mark == 'E' then
        let (negative, body) := match rest with
          | '-' :: body => (true, body)
          | '+' :: body => (false, body)
          | body => (false, body)
        match digits body with
        | ([], _) => (none, cs)
        | (found, behind) =>
            let size : Int := decimal found
            (some (if negative then -size else size), behind)
      else (none, cs)
  | [] => (none, [])

/-- A number without its sign. -/
def number? (negative : Bool) (cs : List Char) : Option (Value × List Char) :=
  let (whole, rest) := match cs with
    | '0' :: rest => (['0'], rest)
    | _ => digits cs
  if whole.isEmpty then none
  else
    let (fraction, rest) := fractionPart rest
    let (exponent, rest) := exponentPart rest
    if fraction.isEmpty && exponent.isNone then
      let size : Int := decimal whole
      some (.int (if negative then -size else size), rest)
    else
      let scale := exponent.getD 0 - fraction.length
      some (.float (Double.ofDecimal negative (decimal (whole ++ fraction)) scale), rest)

/-! ## Words -/

/-- The text behind a word, if it starts with that word. -/
def afterWord? (word : String) (cs : List Char) : Option (List Char) :=
  if word.toList.isPrefixOf cs then some (cs.drop word.length) else none

/-- The values that are single words. -/
def words : List (String × Value) :=
  [("null", .null), ("true", .bool true), ("false", .bool false), ("NaN", .float .notANumber),
   ("Infinity", .float (.infinite false)), ("-Infinity", .float (.infinite true))]

/-- A scalar that is not a text. -/
def scalar? (cs : List Char) : Option (Value × List Char) :=
  match words.findSome? fun (word, value) => (afterWord? word cs).map fun rest => (value, rest) with
  | some found => some found
  | none => match cs with
      | '-' :: rest => number? true rest
      | _ => number? false cs

/-! ## Values -/

mutual

def value? (fuel : Nat) (cs : List Char) : Option (Value × List Char) :=
  match fuel with
  | 0 => none
  | fuel + 1 =>
      match cs with
      | '"' :: rest => (textBody fuel [] rest).map fun (found, rest) => (.text found, rest)
      | '[' :: rest =>
          match skipBlanks rest with
          | ']' :: behind => some (.list [], behind)
          | inner => (items? fuel [] inner).map fun (items, rest) => (.list items, rest)
      | '\x7b' :: rest =>
          match skipBlanks rest with
          | '\x7d' :: behind => some (.record [], behind)
          | inner => (entries? fuel [] inner).map fun (entries, rest) => (.record entries, rest)
      | _ => scalar? cs

def items? (fuel : Nat) (passed : List Value) (cs : List Char) : Option (List Value × List Char) :=
  match fuel with
  | 0 => none
  | fuel + 1 => do
      let (item, rest) ← value? fuel (skipBlanks cs)
      match skipBlanks rest with
      | ',' :: more => items? fuel (item :: passed) more
      | ']' :: behind => some ((item :: passed).reverse, behind)
      | _ => none

/-- The entries of a record up to its brace, last first in `passed`. -/
def entries? (fuel : Nat) (passed : List (Value × Value)) (cs : List Char) :
    Option (List (Value × Value) × List Char) :=
  match fuel with
  | 0 => none
  | fuel + 1 =>
      match skipBlanks cs with
      | '"' :: rest => do
          let (key, rest) ← textBody fuel [] rest
          match skipBlanks rest with
          | ':' :: rest =>
              let (value, rest) ← value? fuel (skipBlanks rest)
              let entries := (.text key, value) :: passed
              match skipBlanks rest with
              | ',' :: more => entries? fuel entries more
              | '\x7d' :: behind => some (collect entries.reverse, behind)
              | _ => none
          | _ => none
      | _ => none

end

end Json

open Json in
def ofJson? (text : String) : Option Value :=
  let cs := text.toList
  match value? (cs.length + 1) (skipBlanks cs) with
  | some (value, rest) => if (skipBlanks rest).isEmpty then some value else none
  | none => none

end EntitySchema.Value
