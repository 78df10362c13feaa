/-
# EntitySchema.Key.Naming -- columns named one after the other

`planReferences` takes the first free name out of a finite list of candidates.  Here the
search counts: while a candidate is taken, the next one is the name with the next number
behind it (`tryCandidate`), and nothing bounds how often (`countUp`).  The names in use are
a state; every column that is named is added to it, so one reference keeps out of the way of
those before it.

A computation without a value is one that never ends.  That naming has a value, and that it
is what `planReferences` says, is `Naming.run_references`.
-/
import EntitySchema.Key.Reference
import Mathlib.Data.PFun

namespace EntitySchema

set_option autoImplicit false

/-- One turn of a search: it ends at the candidate if that is free, and otherwise goes on
with the name and the number behind it. -/
def tryCandidate (taken : List String) (name : String) : String × Nat →. String ⊕ String × Nat
  | (candidate, number) =>
      if candidate ∈ taken then Part.some (.inr (name ++ toString number, number + 1))
      else Part.some (.inl candidate)

/-- Turns until a candidate is free, the name itself first. -/
def countUp (taken : List String) (name : String) : Part String :=
  PFun.fix (tryCandidate taken name) (name, 2)

/-- A computation that takes names, and may never end. -/
abbrev Naming := StateT (List String) Part

namespace Naming

/-- Names a column for a key, and takes the name. -/
def column (key : Key) : Naming String := do
  let column ← (countUp (← get) key.foreignColumn : Part String)
  modify (column :: ·)
  return column

/-- Names the columns of references to each entity that has a key, in order. -/
def references : List KeyedEnd → Naming (List Reference)
  | [] => return []
  | target :: rest => do
      if target.keys.isEmpty then references rest
      else
        let columns ← target.keys.mapM column
        return { target, columns } :: (← references rest)

end Naming

end EntitySchema
