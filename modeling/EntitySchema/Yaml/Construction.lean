/-
# EntitySchema.Yaml.Construction -- the value that a node stands for

A plain scalar without a tag is null, a truth value, a number or a point in time
if it has the form of one, and a text otherwise; any other scalar is a text.  A tag
fixes what a scalar must be.  A mapping is a record: the last value of a key
counts, and the key `<<` takes over the entries of other mappings in front of its
own, of several mappings those of the first with precedence.
-/
import EntitySchema.Value.Basic
import EntitySchema.Yaml.Moment
import EntitySchema.Yaml.Node
import EntitySchema.Yaml.Numeral

namespace EntitySchema.Yaml

set_option autoImplicit false

/-! ## Scalars -/

/-- A word in lower case, with a capital letter, and in upper case. -/
def casings (word : String) : List String := [word, word.capitalize, word.toUpper]

/-- The words that stand for a value. -/
def wordValue? (text : String) : Option Value :=
  if ["yes", "true", "on"].any fun word => (casings word).contains text then some (.bool true)
  else if ["no", "false", "off"].any fun word => (casings word).contains text then
    some (.bool false)
  else if ("" :: "~" :: casings "null").contains text then some .null
  else none

/-- The number or point in time that a text has the form of. -/
def numberValue? (text : String) : Option (Except Fault Value) :=
  let cs := text.toList
  match Double.ofNumeral? cs with
  | some value => some (.ok (.float value))
  | none =>
      let (negative, body) := takeSign cs
      match Numeral.ofChars? body, Moment.ofChars? cs with
      | some numeral, _ => some <| match numeral.value with
          | .ok size => .ok (.int (if negative then -(size : Int) else size))
          | .error fault => .error (.numeral fault)
      | none, some moment => some <| match moment.fault? with
          | none => .ok (.moment moment.shown)
          | some fault => .error (.moment fault)
      | none, none => none

/-- The key that takes over the entries of other mappings. -/
def mergeKey : String := "<<"

/-- The key whose plain form stands for itself only as a key. -/
def defaultKey : String := "="

def plainValue (text : String) : Except Fault Value :=
  if text == mergeKey || text == defaultKey then .error .malformed
  else
    match wordValue? text with
    | some value => .ok value
    | none => (numberValue? text).getD (.ok (.text text))

/-- The tag of a kind of value. -/
def coreTag (kind : String) : String := "tag:yaml.org,2002:" ++ kind

/-- The kinds of value that plain scalars stand for, texts apart. -/
def scalarKinds : List String := ["null", "bool", "int", "float", "timestamp"]

/-- The tag of the values that plain scalars stand for. -/
def scalarTag? : Value → Option String
  | .null => some (coreTag "null")
  | .bool _ => some (coreTag "bool")
  | .int _ => some (coreTag "int")
  | .float _ => some (coreTag "float")
  | .moment _ => some (coreTag "timestamp")
  | _ => none

def scalarValue (tag : Option String) (plain : Bool) (text : String) : Except Fault Value :=
  match tag with
  | none => if plain then plainValue text else .ok (.text text)
  | some tag =>
      if tag == coreTag "str" then .ok (.text text)
      else if !(scalarKinds.map coreTag).contains tag then .error .malformed
      else do
        let value ← plainValue text
        if scalarTag? value == some tag then .ok value else .error .malformed

/-! ## Collections -/

/-- Whether a node is a plain scalar with a text. -/
def isPlain (text : String) : Node → Bool
  | .scalar none true found => found == text
  | _ => false

/-- A value as a key, which no list and no record can be. -/
def asKey : Value → Except Fault Value
  | .list _ | .record _ => .error .malformed
  | value => .ok value

/-- What the entries of a mapping assign to keys. -/
structure Assignments where
  /-- Taken over from other mappings. -/
  merged : List (Value × Value) := []
  own : List (Value × Value) := []

/-- The assignments in the order they count, the last with precedence. -/
def Assignments.all (assignments : Assignments) : List (Value × Value) :=
  assignments.merged ++ assignments.own

mutual

def nodeValue : Node → Except Fault Value
  | .scalar tag plain text => scalarValue tag plain text
  | .sequence tag items =>
      if (tag.getD (coreTag "seq")) == coreTag "seq" then Value.list <$> itemValues items
      else .error .malformed
  | .mapping tag entries =>
      if (tag.getD (coreTag "map")) == coreTag "map" then do
        return .record (Value.collect (← assignments entries).all)
      else .error .malformed

def itemValues : List Node → Except Fault (List Value)
  | [] => .ok []
  | item :: rest => do
      let value ← nodeValue item
      return value :: (← itemValues rest)

/-- What the entries of a mapping assign. -/
def assignments : List (Node × Node) → Except Fault Assignments
  | [] => .ok {}
  | (key, value) :: rest =>
      if isPlain mergeKey key then do
        let found ← takenOver value
        let others ← assignments rest
        return { others with merged := found ++ others.merged }
      else do
        let key ←
          if isPlain defaultKey key then .ok (.text defaultKey)
          else (nodeValue key).bind asKey
        let value ← nodeValue value
        let others ← assignments rest
        return { others with own := (key, value) :: others.own }

/-- What a node assigns in a mapping that takes it over. -/
def takenOver : Node → Except Fault (List (Value × Value))
  | .mapping _ entries => Assignments.all <$> assignments entries
  | .sequence _ items => takenOverItems items
  | .scalar .. => .error .malformed

/-- What the mappings in a sequence assign together; the first is the last that counts. -/
def takenOverItems : List Node → Except Fault (List (Value × Value))
  | [] => .ok []
  | .mapping _ entries :: rest => do
      let found ← Assignments.all <$> assignments entries
      return (← takenOverItems rest) ++ found
  | _ :: _ => .error .malformed

end

end EntitySchema.Yaml
