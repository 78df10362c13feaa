/-
# EntitySchema.Synthesis.Generalization -- the rules of superclasses and subtypes

A generalization keys the tables of its strong subtypes by the inherited key of
the root and guards the hierarchy with triggers:

* the superclass of a total generalization: a new row needs a row in some
  subtype;
* a subtype of a disjoint generalization that has siblings: neither a new row
  nor a changed key may be held by a sibling;
* a subtype of a total generalization: the superclass row may not be left
  without any subtype.

The triggers are plans (`superclassPlan`, `subtypePlan?`); numbers are given to
their raises when they are issued.
-/
import EntitySchema.Synthesis.Output

namespace EntitySchema

open Inquiry
open EntitySchema.Text (showList)

set_option autoImplicit false

/-! ## Triggers -/

/-- Counts, into variables of their own, of the rows that hold a key in some tables. -/
def holderCounts (tables : List KeyedEnd) (references : List String) : List RowCount :=
  tables.mapIdx fun position holder =>
    { variableName := TriggerDraft.variableName position, table := holder.table,
      columns := holder.columns, references }

/-- The variables of the first `count` positions. -/
def firstVariables (count : Nat) : List String :=
  (List.range count).map TriggerDraft.variableName

/-- The trigger of the superclass of a total generalization. -/
def superclassPlan (superclass : KeyedEnd) (subtypes : List KeyedEnd) : TriggerPlan :=
  { name := "genspecTrigger_" ++ superclass.table
    table := superclass.table
    arity := subtypes.length
    rules :=
      [{ event := "INSERTING"
         counts := holderCounts subtypes (rowColumns ":n" superclass.columns)
         violation := sumOf (firstVariables subtypes.length) ++ " < 1" }] }

/-- The rules against keys that a sibling holds. -/
def disjointRules (subtype : KeyedEnd) (siblings : List KeyedEnd) : List TriggerRule :=
  let counts := holderCounts siblings (rowColumns ":n" subtype.columns)
  let violation := sumOf (firstVariables siblings.length) ++ " != 0"
  [{ event := "INSERTING", counts, violation },
   { event := "UPDATING AND (" ++ changed subtype.columns ++ ")", counts, violation }]

/-- The rule against superclass rows that are left without a subtype. -/
def totalRule (superclass subtype : KeyedEnd) (siblings : List KeyedEnd) : TriggerRule :=
  let parent := TriggerDraft.variableName siblings.length
  let references := rowColumns ":o" subtype.columns
  { event := "DELETING"
    counts :=
      { variableName := parent, table := superclass.table, columns := superclass.columns,
        references } :: holderCounts siblings references
    violation := parent ++ " > 0 AND " ++ sumOf (firstVariables siblings.length) ++ " < 1" }

/-- The trigger of a subtype, if it has any rules. -/
def subtypePlan? (superclass subtype : KeyedEnd) (siblings : List KeyedEnd)
    (disjoint total : Bool) : Option TriggerPlan :=
  let rules :=
    (if disjoint && !siblings.isEmpty then disjointRules subtype siblings else [])
      ++ (if total then [totalRule superclass subtype siblings] else [])
  if rules.isEmpty then none
  else some
    { name := "genspecTrigger_" ++ subtype.table
      table := subtype.table
      arity := siblings.length + if total then 1 else 0
      rules }

def siblingsOf (subtypes : List KeyedEnd) (subtype : KeyedEnd) : List KeyedEnd :=
  subtypes.filter fun other => other.node.id != subtype.node.id

/-- The triggers of a generalization: that of the superclass, then those of the subtypes. -/
def hierarchyPlans (superclass : KeyedEnd) (subtypes : List KeyedEnd) (disjoint total : Bool) :
    List TriggerPlan :=
  (if total then [superclassPlan superclass subtypes] else [])
    ++ subtypes.filterMap fun subtype =>
        subtypePlan? superclass subtype (siblingsOf subtypes subtype) disjoint total

/-! ## Keys -/

/-- The statements that give a subtype its inherited key. -/
def subtypeKeyStatements (superclass subtype : KeyedEnd) : List Statement :=
  addKeyColumns subtype.table subtype.keys
    ++ [.addForeignKey
          { table := subtype.table, constraint := "FK_" ++ subtype.table,
            columns := subtype.columns, refTable := superclass.table,
            refColumns := superclass.columns, onDelete := some "CASCADE" },
        primaryKey subtype.table subtype.columns]

/-- The two sides of a generalization: the superclass with the key of its
table, and the strong subtypes with their inherited keys. -/
structure HierarchySides where
  superclass : Option KeyedEnd := none
  subtypes : List KeyedEnd := []
  issues : List Issue := []

/-- The sides of a generalization with one more subtype link. -/
def addSubtype (d : Classified) (generalization : Construct) (rootKeys : List Key)
    (superclassLink : Link) (sides : HierarchySides) (link : Link) : Inquiry HierarchySides := do
  match ← d.keyedPair? generalization [superclassLink, link] fun _ node => node.kind.isEntity with
  | none => return sides
  | some (superclass, subtype) =>
      let sides := { sides with superclass := some superclass }
      if subtype.node.kind = .strongEntity then
        let keys := rootKeys.map (·.carriedTo subtype.table)
        return { sides with subtypes := sides.subtypes ++ [{ subtype with keys }] }
      else
        -- other tables have primary keys of their own
        let left ← leaveOut (.subtypeNotStrong generalization subtype.node link)
        return { sides with issues := sides.issues ++ left.issues }

/-! ## Generalizations -/

/-- The statements of a generalization whose sides are known. -/
def hierarchyStatements (d : Classified) (generalization : Construct) (message : String)
    (superclass : KeyedEnd) (subtypes : List KeyedEnd) : Issuing (List Statement) := do
  let disjoint := generalization.kind == .generalizationDisjoint
  let total := d.isTotal generalization
  let triggers ← (hierarchyPlans superclass subtypes disjoint total).mapM (·.issue message)
  note .debug .generalizations
    ("Generalization " ++ generalizationName generalization ++ ": " ++ superclass.table ++ " -> "
      ++ showList (subtypes.map (·.table)) ++ " (" ++ (if disjoint then "disjoint" else "overlap")
      ++ ", " ++ (if total then "total" else "partial") ++ ")")
  return subtypes.flatMap (subtypeKeyStatements superclass) ++ triggers.map .createTrigger

/-- The keys and triggers of one generalization. -/
def generalizationRules (d : Classified) (message : String) (generalization : Construct) :
    Issuing Output := do
  match d.superclassEnd? generalization with
  | none => leaveOut (.noSuperclass generalization)
  | some (superclassLink, above) =>
      let subtypeLinks := (d.subtypeEnds generalization).map (·.1)
      let rootKeys := d.superclassKeys generalization
      if subtypeLinks.isEmpty then leaveOut (.noSubtypes generalization)
      else if rootKeys.isEmpty then leaveOut (.superclassWithoutKey generalization above)
      else
        let sides ← (subtypeLinks.foldlM
          (addSubtype d generalization rootKeys superclassLink) {} : Inquiry HierarchySides)
        let usable := sides.superclass.filter (·.keys.length == rootKeys.length)
        match usable with
        | none =>
            let left ← leaveOut (.superclassKeyUnusable generalization)
            return { issues := sides.issues ++ left.issues }
        | some superclass =>
            if sides.subtypes.isEmpty then return { issues := sides.issues }
            else
              let statements ←
                hierarchyStatements d generalization message superclass sides.subtypes
              return { statements, issues := sides.issues }

def generalizations (d : Classified) (message : String) : Issuing Output := do
  note .info .generalizations "Starting Step 5: Generalization Rules"
  let output := .concat (← (d.ofKinds (·.isGeneralization)).mapM (generalizationRules d message))
  note .info .generalizations
    ("Generalization rules completed: " ++ toString output.statements.length
      ++ " statements generated")
  return output

end EntitySchema
