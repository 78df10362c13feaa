/-
# EntitySchema.Value.Basic -- the values of a document

A document (a diagram file, a settings source, an error's extra context) is a
tree of scalars, lists and records.  A record keeps its entries in the order
they were written and at most one per key; writing a key again keeps its place
and changes its value (`Value.put`).  Keys are values too, because a document
may use a number or a truth value as a key; numbers that are equal are one key
whatever their type, and `true` and `false` count as 1 and 0 (`Value.sameKey`).
-/
import EntitySchema.Number.Double

namespace EntitySchema

open EntitySchema.Number

set_option autoImplicit false

/-- A value in a document. -/
inductive Value where
  | null
  | bool (value : Bool)
  | int (value : Int)
  | float (value : Double)
  | text (value : String)
  /-- A calendar date or a point in time, by its shown form. -/
  | moment (shown : String)
  | list (items : List Value)
  | record (entries : List (Value × Value))
  deriving Repr, Inhabited

namespace Value

/-- The number a key counts as. -/
def keyNumber? : Value → Option Int
  | .bool value => some (if value then 1 else 0)
  | .int value => some value
  | .float value => value.whole?
  | _ => none

/-- Whether two scalars are the same key. -/
def sameKey (a b : Value) : Bool :=
  match a.keyNumber?, b.keyNumber? with
  | some m, some n => m == n
  | none, none =>
      match a, b with
      | .null, .null => true
      | .text s, .text t => s == t
      | .moment s, .moment t => s == t
      | .float x, .float y => x == y
      | _, _ => false
  | _, _ => false

/-- The entries with `key` set to `value`: in place if the key is there, at the
end otherwise. -/
def put (key value : Value) : List (Value × Value) → List (Value × Value)
  | [] => [(key, value)]
  | (k, v) :: rest => if sameKey k key then (k, value) :: rest else (k, v) :: put key value rest

/-- The record that a sequence of assignments leaves. -/
def collect (assignments : List (Value × Value)) : List (Value × Value) :=
  assignments.foldl (fun entries (key, value) => put key value entries) []

/-- The value under a textual key. -/
def field? (entries : List (Value × Value)) (name : String) : Option Value :=
  (entries.find? fun entry => match entry.1 with
    | .text key => key == name
    | _ => false).map (·.2)

def get? (value : Value) (name : String) : Option Value :=
  match value with
  | .record entries => field? entries name
  | _ => none

/-- The values that count as nothing: null, false, zero, and what is empty. -/
def isVoid : Value → Bool
  | .null => true
  | .bool value => !value
  | .int value => value == 0
  | .float value => value.whole? == some 0
  | .text value => value.isEmpty
  | .moment _ => false
  | .list items => items.isEmpty
  | .record entries => entries.isEmpty

end Value

end EntitySchema
