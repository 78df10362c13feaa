/-
# EntitySchema.Key.Machine -- the resolver, step by step

The resolver answers a question for a key by asking for other keys, and so on.  Here this
is a machine that takes one step after another.  What it works at is a `Dialogue`, a tree
that is done, makes an entry in the journal, or asks for the key of an entity and goes on
with the answer.

The machine keeps the ids of the entities whose keys are being computed.  It adds an id when
it turns to the dialogue that computes a key (`Classified.keyDialogue`) and takes it away
when that is done; meanwhile what asked for the key waits on the stack.  A question for an
entity that is being computed is answered by no key.

That a question has the answer of `EntitySchema.Classified.keyAmong` is
`EntitySchema.Machine.steps_question`.
-/
import EntitySchema.Key.Resolver

namespace EntitySchema

set_option autoImplicit false

/-! ## Dialogues -/

/-- A computation that asks for keys and goes on as the answers are. -/
inductive Dialogue (α : Type) where
  | done (a : α)
  | note (level : Level) (component : Component) (message : String) (next : Dialogue α)
  | ask (entity : Construct) (next : List Key → Dialogue α)

namespace Dialogue

variable {α β : Type}

/-- One dialogue after another. -/
protected def bind : Dialogue α → (α → Dialogue β) → Dialogue β
  | done a, goesOn => goesOn a
  | note level component message next, goesOn =>
      note level component message (next.bind goesOn)
  | ask entity next, goesOn => ask entity fun keys => (next keys).bind goesOn

instance : Monad Dialogue where
  pure := done
  bind := Dialogue.bind

def key (entity : Construct) : Dialogue (List Key) := ask entity done

/-- The inquiry that asks a look-up for the keys. -/
def holdWith (lookup : KeyLookup) : Dialogue α → Inquiry α
  | done a => return a
  | note level component message next => do
      Inquiry.note level component message
      next.holdWith lookup
  | ask entity next => do (next (← lookup entity)).holdWith lookup

end Dialogue

namespace Classified

def firstOwnerDialogue (weak : Construct) : List OwnerCandidate → Dialogue (Option KeyedEnd)
  | [] => return none
  | candidate :: rest => do
      let keys ← .key candidate.owner
      if keys.isEmpty then firstOwnerDialogue weak rest
      else
        .note .debug .keyResolution
          ("Weak entity " ++ weak.label ++ " owned by " ++ candidate.owner.label ++ " via "
            ++ candidate.relationship.label)
          (return some { node := candidate.owner, link := candidate.link, keys })

def weakOwnerDialogue (d : Classified) (weak : Construct) : Dialogue (Option KeyedEnd) :=
  firstOwnerDialogue weak (d.ownerCandidates weak)

def keyedEndDialogue (neighbour : Link × Construct) : Dialogue KeyedEnd := do
  let keys ← .key neighbour.2
  return { node := neighbour.2, link := neighbour.1, keys }

def participantsDialogue (d : Classified) (node : Construct) : Dialogue (List KeyedEnd) :=
  (d.participantEnds node).mapM keyedEndDialogue

def associativeDialogue (d : Classified) (entity : Construct) : Dialogue (List Reference) := do
  let ends ← d.participantsDialogue entity
  if ends.isEmpty || ends.any (·.keys.isEmpty) then return []
  else return planReferences (d.attributeColumns entity) ends

/-- What computes the key of an entity's table. -/
def keyDialogue (d : Classified) (entity : Construct) : Dialogue (List Key) :=
  let table := tableName entity.label
  match entity.kind with
  | .weakEntity => do
      match d.partialKey? entity, ← d.weakOwnerDialogue entity with
      | some partialKey, some owner => return partialKey :: owner.keys.map (·.carriedTo table)
      | _, _ => return []
  | .associativeEntity => do
      let references ← d.associativeDialogue entity
      return references.flatMap fun reference =>
        reference.typedColumns.map fun (column, sqlType) => { owner := table, column, sqlType }
  | _ =>
      if (d.superclassOf? entity).isSome then
        return (d.inheritedKey entity).map (·.carriedTo table)
      else return d.ownerKeys entity

def keyColumnDialogue (entity : Construct) : Dialogue (Option Key) := do
  match ← .key entity with
  | [key] => return some key
  | _ => return none

def keyedPairDialogue (origin : Construct) (links : List Link)
    (accepts : Link → Construct → Bool) : Dialogue (Option (KeyedEnd × KeyedEnd)) := do
  match farEnds origin accepts links with
  | [] => return none
  | [only] =>
      let _ ← keyedEndDialogue only
      return none
  | first :: second :: _ =>
      let first ← keyedEndDialogue first
      let second ← keyedEndDialogue second
      return some (first, second)

end Classified

/-! ## The machine -/

/-- An entity whose key is being computed, and how the dialogue that asked for it goes on. -/
structure Frame where
  entity : Construct
  next : List Key → Dialogue (List Key)

/-- A resolver at work: what it has found and said, the ids of the entities whose keys are
being computed, the dialogue that it holds, and those that wait. -/
structure Machine where
  session : Session
  resolving : List String
  current : Dialogue (List Key)
  stack : List Frame

namespace Machine

open Inquiry

/-- A fresh resolver before a dialogue. -/
def start (journal : Journal) (dialogue : Dialogue (List Key)) : Machine :=
  { session := { journal }, resolving := [], current := dialogue, stack := [] }

/-- The session after an inquiry that has no answer. -/
def told (machine : Machine) (inquiry : Inquiry Unit) : Session :=
  (StateT.run inquiry machine.session).2

/-- One step, unless the machine is done. -/
def step? (d : Classified) (machine : Machine) : Option Machine :=
  match machine.current with
  | .note level component message next =>
      some { machine with session := machine.told (note level component message), current := next }
  | .ask entity next =>
      match machine.session.resolved.lookup entity.id with
      | some keys => some { machine with current := next keys }
      | none =>
          if entity.id ∈ machine.resolving then
            some
              { machine with
                session := machine.told (note .warning .keyResolution
                  ("Cyclic key dependency through " ++ entity.label ++ "; treating as keyless"))
                current := next [] }
          else
            some
              { machine with
                resolving := entity.id :: machine.resolving
                current := d.keyDialogue entity
                stack := ⟨entity, next⟩ :: machine.stack }
  | .done keys =>
      match machine.stack with
      | [] => none
      | frame :: waiting =>
          some
            { session := machine.told (remember frame.entity.id keys)
              resolving := machine.resolving.erase frame.entity.id
              current := frame.next keys
              stack := waiting }

/-- The machine after a number of steps, if it takes as many. -/
def after? (d : Classified) : Nat → Machine → Option Machine
  | 0, machine => some machine
  | steps + 1, machine => (machine.step? d).bind (after? d steps)

end Machine

end EntitySchema
