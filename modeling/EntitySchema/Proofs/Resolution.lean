/-
# EntitySchema.Proofs.Resolution -- what key questions answer

A run asks for the keys of tables again and again, and what it remembers grows
as it goes.  A remembered key is never changed (`Memo.Grows`), and every
question asked from outside is remembered, so the answers of a whole run can be
read off what is remembered at its end.

`Inquiry.Meets` is the shape of the statements here: an inquiry lets the memo
grow, keeps a property of it, and gives an answer that is related as described
to whatever is remembered from then on.  Each part of the resolver has one such
lemma, relative to what is known of the look-up it is given
(`meets_computeKeyWith` is the last of them); `meets_keyAmong` closes the
recursion, and `meets_tableKey` is the case that the synthesis uses.

`KeyComputed` is the rule that a computed key follows, and `Founded` says that
every remembered key follows it.
-/
import EntitySchema.Proofs.Neighbourhood
import Mathlib.Data.List.Forall2

namespace EntitySchema

set_option autoImplicit false

/-! ## What is remembered -/

/-- The keys found so far, by the id of the entity. -/
abbrev Memo := List (String × List Key)

/-- Whatever was remembered still is. -/
def Memo.Grows (before after : Memo) : Prop :=
  ∀ id keys, before.lookup id = some keys → after.lookup id = some keys

theorem Memo.Grows.refl (memo : Memo) : memo.Grows memo := fun _ _ found => found

theorem Memo.Grows.trans {first second third : Memo} (early : first.Grows second)
    (late : second.Grows third) : first.Grows third :=
  fun id keys found => late id keys (early id keys found)

/-- What is remembered for other ids does not depend on one more key. -/
theorem Memo.lookup_cons_of_ne {id other : String} (different : id ≠ other) (keys : List Key)
    (memo : Memo) : List.lookup id ((other, keys) :: memo) = memo.lookup id := by
  rw [List.lookup_cons, beq_false_of_ne different]

/-- A key is only added for an entity that has none yet. -/
theorem Memo.grows_cons {memo : Memo} {id : String} (unknown : memo.lookup id = none)
    (keys : List Key) : memo.Grows ((id, keys) :: memo) := by
  intro other found known
  have different : other ≠ id := by
    rintro rfl
    simp [unknown] at known
  rw [lookup_cons_of_ne different]
  exact known

namespace Inquiry

variable {α β : Type}

def answer (inquiry : Inquiry α) (session : Session) : α := (StateT.run inquiry session).1

def memoAfter (inquiry : Inquiry α) (session : Session) : Memo :=
  (StateT.run inquiry session).2.resolved

@[simp] theorem run_remembered? (id : String) (session : Session) :
    StateT.run (remembered? id) session = (session.resolved.lookup id, session) := rfl

/-! ### Inquiries that keep a property of the memo -/

/-- Where `P` holds of the memo, the memo grows, `P` still holds of it, and the
answer is related by `post` to all that is remembered later. -/
def Meets (P : Memo → Prop) (inquiry : Inquiry α) (post : α → Memo → Prop) : Prop :=
  ∀ session, P session.resolved →
    Memo.Grows session.resolved (inquiry.memoAfter session) ∧ P (inquiry.memoAfter session) ∧
      ∀ later, Memo.Grows (inquiry.memoAfter session) later → post (inquiry.answer session) later

variable {P : Memo → Prop}

theorem Meets.mono {inquiry : Inquiry α} {Q weaker : α → Memo → Prop}
    (meets : Meets P inquiry Q) (implies : ∀ a later, Q a later → weaker a later) :
    Meets P inquiry weaker := by
  intro session holds
  obtain ⟨grows, kept, said⟩ := meets session holds
  exact ⟨grows, kept, fun later reached => implies _ _ (said later reached)⟩

theorem meets_pure {Q : α → Memo → Prop} {a : α} (holds : ∀ later, Q a later) :
    Meets P (pure a) Q :=
  fun session kept => ⟨Memo.Grows.refl session.resolved, kept, fun later _ => holds later⟩

theorem meets_bind {first : Inquiry α} {next : α → Inquiry β} {Q : α → Memo → Prop}
    {R : α → β → Memo → Prop} (starts : Meets P first Q)
    (goesOn : ∀ a memo, Q a memo → Meets P (next a) (R a)) :
    Meets P (first >>= next) fun b later => ∃ a, Q a later ∧ R a b later := by
  intro session holds
  obtain ⟨grows, kept, said⟩ := starts session holds
  have middle := said _ (Memo.Grows.refl _)
  obtain ⟨growsOn, keptOn, saidOn⟩ :=
    goesOn _ _ middle (StateT.run first session).2 kept
  refine ⟨grows.trans growsOn, keptOn, fun later reached => ?_⟩
  exact ⟨_, said later (growsOn.trans reached), saidOn later reached⟩

theorem meets_note {level : Level} {component : Component} {message : String} :
    Meets P (note level component message) fun _ _ => True :=
  fun session kept => ⟨Memo.Grows.refl session.resolved, kept, fun _ _ => trivial⟩

/-- Questions in a row: an answer that is related to what is remembered stays so while the memo
grows, up to the end of the row and after it. -/
theorem meets_mapM {items : List α} {ask : α → Inquiry β} {Q : α → β → Memo → Prop}
    (each : ∀ item ∈ items, Meets P (ask item) (Q item)) :
    Meets P (items.mapM ask) fun found later =>
      List.Forall₂ (fun item b => Q item b later) items found := by
  induction items with
  | nil => exact meets_pure fun _ => .nil
  | cons item rest ih =>
      rw [List.mapM_cons]
      have others := ih fun other mem => each other (List.mem_cons_of_mem item mem)
      refine (meets_bind (each item List.mem_cons_self) fun b _ _ =>
        meets_bind others fun found _ _ =>
          meets_pure (Q := fun all _ => all = b :: found) fun _ => rfl).mono ?_
      rintro all later ⟨b, said, found, saidOthers, rfl⟩
      exact .cons said saidOthers

end Inquiry

open Inquiry

namespace Classified

/-! ## The rules that keys follow -/

/-- The first candidate with a key, when `Tells` tells what candidates answer. -/
inductive FirstOwner (Tells : Construct → List Key → Prop) :
    List OwnerCandidate → Option KeyedEnd → Prop
  | none : FirstOwner Tells [] none
  | skip {candidate : OwnerCandidate} {rest : List OwnerCandidate} {owner? : Option KeyedEnd} :
      Tells candidate.owner [] → FirstOwner Tells rest owner? →
        FirstOwner Tells (candidate :: rest) owner?
  | found {candidate : OwnerCandidate} {rest : List OwnerCandidate} {keys : List Key} :
      Tells candidate.owner keys → keys ≠ [] →
        FirstOwner Tells (candidate :: rest)
          (some { node := candidate.owner, link := candidate.link, keys })

/-- An end with the key that its entity answers. -/
def EndTells (Tells : Construct → List Key → Prop) (neighbour : Link × Construct)
    (place : KeyedEnd) : Prop :=
  place.node = neighbour.2 ∧ place.link = neighbour.1 ∧ Tells neighbour.2 place.keys

/-- The key of a strong entity, which depends on no other table's. -/
def strongKeyOf (d : Classified) (entity : Construct) : List Key :=
  if (d.superclassOf? entity).isSome then
    (d.inheritedKey entity).map (·.carriedTo (tableName entity.label))
  else d.ownerKeys entity

/-- The key of a weak entity that has an owner. -/
def weakKeyOf (d : Classified) (weak : Construct) : Option KeyedEnd → List Key
  | none => []
  | some owner =>
      match d.partialKey? weak with
      | none => []
      | some partialKey => partialKey :: owner.keys.map (·.carriedTo (tableName weak.label))

/-- The references of an associative entity whose participants have their keys. -/
def referencesOf (d : Classified) (entity : Construct) (ends : List KeyedEnd) : List Reference :=
  if ends.isEmpty || ends.any (·.keys.isEmpty) then []
  else planReferences (d.attributeColumns entity) ends

/-- The key that references make in the table of an associative entity. -/
def associativeKeyOf (entity : Construct) (references : List Reference) : List Key :=
  references.flatMap fun reference =>
    reference.typedColumns.map fun (column, sqlType) =>
      { owner := tableName entity.label, column, sqlType }

/-- A key computed from answers that `Tells` allows. -/
def KeyComputed (d : Classified) (Tells : Construct → List Key → Prop) (entity : Construct)
    (keys : List Key) : Prop :=
  match entity.kind with
  | .weakEntity =>
      ∃ owner?, FirstOwner Tells (d.ownerCandidates entity) owner? ∧ keys = d.weakKeyOf entity owner?
  | .associativeEntity =>
      ∃ ends, List.Forall₂ (EndTells Tells) (d.participantEnds entity) ends ∧
        keys = associativeKeyOf entity (d.referencesOf entity ends)
  | _ => keys = d.strongKeyOf entity

/-- The entities whose keys the key of an entity may be computed from. -/
def keySources (d : Classified) (entity : Construct) : List Construct :=
  match entity.kind with
  | .weakEntity => (d.ownerCandidates entity).map (·.owner)
  | .associativeEntity => (d.participantEnds entity).map (·.2)
  | _ => []

theorem FirstOwner.mono {Tells Allows : Construct → List Key → Prop}
    (implies : ∀ entity keys, Tells entity keys → Allows entity keys)
    {candidates : List OwnerCandidate} {owner? : Option KeyedEnd}
    (first : FirstOwner Tells candidates owner?) : FirstOwner Allows candidates owner? := by
  induction first with
  | none => exact .none
  | skip said _ ih => exact .skip (implies _ _ said) ih
  | found said keyed => exact .found (implies _ _ said) keyed

theorem keyComputed_weak {d : Classified} {Tells : Construct → List Key → Prop}
    {entity : Construct} (kind : entity.kind = .weakEntity) {keys : List Key} :
    d.KeyComputed Tells entity keys ↔
      ∃ owner?, FirstOwner Tells (d.ownerCandidates entity) owner? ∧
        keys = d.weakKeyOf entity owner? := by
  simp only [KeyComputed, kind]

theorem keyComputed_associative {d : Classified} {Tells : Construct → List Key → Prop}
    {entity : Construct} (kind : entity.kind = .associativeEntity) {keys : List Key} :
    d.KeyComputed Tells entity keys ↔
      ∃ ends, List.Forall₂ (EndTells Tells) (d.participantEnds entity) ends ∧
        keys = associativeKeyOf entity (d.referencesOf entity ends) := by
  simp only [KeyComputed, kind]

theorem keyComputed_strong {d : Classified} {Tells : Construct → List Key → Prop}
    {entity : Construct} (notWeak : entity.kind ≠ .weakEntity)
    (notAssociative : entity.kind ≠ .associativeEntity) {keys : List Key} :
    d.KeyComputed Tells entity keys ↔ keys = d.strongKeyOf entity := by
  cases kind : entity.kind <;> simp_all [KeyComputed]

/-- A key that was computed from answers of one kind was computed from answers of a weaker kind. -/
theorem KeyComputed.mono {d : Classified} {Tells Allows : Construct → List Key → Prop}
    (implies : ∀ entity keys, Tells entity keys → Allows entity keys) {entity : Construct}
    {keys : List Key} (computed : d.KeyComputed Tells entity keys) :
    d.KeyComputed Allows entity keys := by
  by_cases weak : entity.kind = .weakEntity
  · rw [keyComputed_weak weak] at computed ⊢
    obtain ⟨owner?, first, same⟩ := computed
    exact ⟨owner?, first.mono implies, same⟩
  by_cases associative : entity.kind = .associativeEntity
  · rw [keyComputed_associative associative] at computed ⊢
    obtain ⟨ends, told, same⟩ := computed
    exact ⟨ends, told.imp fun _ _ ⟨node, link, key⟩ => ⟨node, link, implies _ _ key⟩, same⟩
  · rw [keyComputed_strong weak associative] at computed ⊢
    exact computed

end Classified

/-! ## The parts of the resolver -/

namespace Classified

variable {P : Memo → Prop} {lookup : KeyLookup} {T : Construct → List Key → Memo → Prop}

/-- The owner is the first candidate with a key.  Those before it have answered that they have none,
which an entity on a circle may say of itself for the time being. -/
theorem meets_firstOwnerWith {weak : Construct} {candidates : List OwnerCandidate}
    (asks : ∀ candidate ∈ candidates,
      Meets P (lookup candidate.owner) (T candidate.owner)) :
    Meets P (firstOwnerWith lookup weak candidates) fun owner? later =>
      FirstOwner (fun entity keys => T entity keys later) candidates owner? := by
  induction candidates with
  | nil => exact meets_pure fun _ => .none
  | cons candidate rest ih =>
      have others := ih fun other mem => asks other (List.mem_cons_of_mem candidate mem)
      have next : ∀ keys memo, T candidate.owner keys memo →
          Meets P
            (if keys.isEmpty then firstOwnerWith lookup weak rest
             else do
              note .debug .keyResolution
                ("Weak entity " ++ weak.label ++ " owned by " ++ candidate.owner.label ++ " via "
                  ++ candidate.relationship.label)
              return some { node := candidate.owner, link := candidate.link, keys })
            fun owner? later => T candidate.owner keys later →
              FirstOwner (fun entity keys => T entity keys later) (candidate :: rest) owner? := by
        intro keys _ _
        split
        · rename_i keyless
          have none : keys = [] := List.isEmpty_iff.1 keyless
          subst none
          exact others.mono fun owner? later first said => .skip said first
        · rename_i keyed
          refine (meets_bind meets_note fun _ _ _ => meets_pure
            (Q := fun owner? later => T candidate.owner keys later →
              FirstOwner (fun entity keys => T entity keys later) (candidate :: rest) owner?)
            fun _ said => .found said (by simpa using keyed)).mono ?_
          rintro owner? later ⟨_, _, first⟩
          exact first
      refine (meets_bind (asks candidate List.mem_cons_self) next).mono ?_
      rintro owner? later ⟨keys, said, first⟩
      exact first said

theorem meets_keyedEndWith {neighbour : Link × Construct}
    (asks : Meets P (lookup neighbour.2) (T neighbour.2)) :
    Meets P (keyedEndWith lookup neighbour) fun place later =>
      EndTells (fun entity keys => T entity keys later) neighbour place := by
  refine (meets_bind asks fun keys _ _ => meets_pure
    (Q := fun place _ => place = KeyedEnd.mk neighbour.2 neighbour.1 keys) fun _ => rfl).mono ?_
  rintro place later ⟨keys, said, rfl⟩
  exact ⟨rfl, rfl, said⟩

theorem meets_participantsWith {d : Classified} {node : Construct}
    (asks : ∀ neighbour ∈ d.participantEnds node,
      Meets P (lookup neighbour.2) (T neighbour.2)) :
    Meets P (d.participantsWith lookup node) fun ends later =>
      List.Forall₂ (EndTells fun entity keys => T entity keys later)
        (d.participantEnds node) ends :=
  meets_mapM fun neighbour mem => meets_keyedEndWith (asks neighbour mem)

/-- All participants are asked, those behind a keyless one too, and references are made of their
answers. -/
theorem meets_associativeReferencesWith {d : Classified} {entity : Construct}
    (asks : ∀ neighbour ∈ d.participantEnds entity,
      Meets P (lookup neighbour.2) (T neighbour.2)) :
    Meets P (d.associativeReferencesWith lookup entity) fun references later =>
      ∃ ends, List.Forall₂ (EndTells fun entity keys => T entity keys later)
        (d.participantEnds entity) ends ∧ references = d.referencesOf entity ends := by
  have next : ∀ ends : List KeyedEnd,
      Meets P
        (if ends.isEmpty || ends.any (·.keys.isEmpty) then return []
         else return planReferences (d.attributeColumns entity) ends)
        fun references _ => references = d.referencesOf entity ends := by
    intro ends
    unfold referencesOf
    split <;> exact meets_pure fun _ => rfl
  exact meets_bind (meets_participantsWith asks) fun ends _ _ => next ends

/-- The rule of a key, whatever the look-up behind it: with answers that are to be relied on, the
key is computed from them. -/
theorem meets_computeKeyWith {d : Classified} {entity : Construct}
    (asks : ∀ source ∈ d.keySources entity, Meets P (lookup source) (T source)) :
    Meets P (d.computeKeyWith lookup entity) fun keys later =>
      d.KeyComputed (fun entity keys => T entity keys later) entity keys := by
  by_cases weak : entity.kind = .weakEntity
  · simp only [keyComputed_weak weak, computeKeyWith, weak]
    simp only [keySources, weak, List.forall_mem_map] at asks
    refine meets_bind (meets_firstOwnerWith asks) fun owner? _ _ => ?_
    cases owner? <;> cases partialKey : d.partialKey? entity <;>
      exact meets_pure (Q := fun keys _ => keys = d.weakKeyOf entity _)
        fun _ => by simp [weakKeyOf, partialKey]
  by_cases associative : entity.kind = .associativeEntity
  · simp only [keyComputed_associative associative, computeKeyWith, associative]
    simp only [keySources, associative, List.forall_mem_map] at asks
    refine (meets_bind (meets_associativeReferencesWith asks) fun references _ _ => meets_pure
      (Q := fun keys _ => keys = associativeKeyOf entity references) fun _ => rfl).mono ?_
    rintro keys later ⟨_, ⟨ends, told, rfl⟩, rfl⟩
    exact ⟨ends, told, rfl⟩
  · simp only [keyComputed_strong weak associative]
    have strong : d.computeKeyWith lookup entity = pure (d.strongKeyOf entity) := by
      unfold computeKeyWith strongKeyOf
      split
      · contradiction
      · contradiction
      · split <;> rfl
    rw [strong]
    exact meets_pure fun _ => rfl

end Classified

/-! ## Remembered keys -/

namespace Classified

variable {d : Classified} {T : Construct → List Key → Memo → Prop}

theorem mem_nodes_of_mem_keySources {entity source : Construct}
    (mem : source ∈ d.keySources entity) : source ∈ d.nodes := by
  unfold keySources at mem
  split at mem
  · obtain ⟨candidate, inCandidates, rfl⟩ := List.mem_map.1 mem
    exact (owner_spec inCandidates).1
  · obtain ⟨neighbour, inEnds, rfl⟩ := List.mem_map.1 mem
    exact (participant_spec inEnds).1
  · simp at mem

/-- A memo to which keys were added one after the other, each computed from what
was remembered before. -/
inductive Built (d : Classified) (T : Construct → List Key → Memo → Prop) : Memo → Prop
  | nil : Built d T []
  | remember {memo : Memo} {entity : Construct} {keys : List Key} :
      entity ∈ d.nodes → memo.lookup entity.id = none →
        d.KeyComputed (fun other found => T other found memo) entity keys → Built d T memo →
          Built d T ((entity.id, keys) :: memo)

/-- While the keys of `available` may be computed, no other key is remembered but
those that were found before, and every remembered key follows the rule. -/
structure Founded (d : Classified) (T : Construct → List Key → Memo → Prop)
    (available : List String) (memo : Memo) : Prop where
  pending : ∀ id, id ∉ available → memo.lookup id = none
  built : d.Built T memo

/-- The memo after one more key. -/
theorem lookup_remembered {memo : Memo} {entity other : Construct} {keys found : List Key}
    (entityIn : entity ∈ d.nodes) (otherIn : other ∈ d.nodes)
    (known : List.lookup entity.id ((other.id, keys) :: memo) = some found) :
    (entity = other ∧ keys = found) ∨ (entity.id ≠ other.id ∧ memo.lookup entity.id = some found) := by
  by_cases same : entity.id = other.id
  · rw [same, List.lookup_cons_self] at known
    exact .inl ⟨eq_of_id_eq entityIn otherIn same, Option.some.inj known⟩
  · rw [Memo.lookup_cons_of_ne same] at known
    exact .inr ⟨same, known⟩

/-- A remembered key is the answer. -/
theorem keyAmong_of_known {available : List String} {entity : Construct} {session : Session}
    {keys : List Key} (known : session.resolved.lookup entity.id = some keys) :
    StateT.run (d.keyAmong available entity) session = (keys, session) := by
  rw [keyAmong, StateT.run_bind, run_remembered?, known]
  rfl

/-- A key that may be computed is computed without the entity itself, and remembered. -/
theorem keyAmong_of_available {available : List String} {entity : Construct} {session : Session}
    (unknown : session.resolved.lookup entity.id = none) (free : entity.id ∈ available) :
    StateT.run (d.keyAmong available entity) session =
      let ran := StateT.run
        (d.computeKeyWith (d.keyAmong (available.erase entity.id)) entity) session
      (ran.1, { ran.2 with resolved := (entity.id, ran.1) :: ran.2.resolved }) := by
  rw [keyAmong, StateT.run_bind, run_remembered?, unknown]
  simp only [free, dite_true]
  rfl

/-- An entity whose key is being computed counts as keyless. -/
theorem keyAmong_of_busy {available : List String} {entity : Construct} {session : Session}
    (unknown : session.resolved.lookup entity.id = none) (busy : entity.id ∉ available) :
    (d.keyAmong available entity).answer session = [] ∧
      (d.keyAmong available entity).memoAfter session = session.resolved := by
  rw [answer, memoAfter, keyAmong, StateT.run_bind, run_remembered?, unknown]
  simp only [busy, dite_false]
  exact ⟨rfl, rfl⟩

section Resolver

/-- Taking away an id whose key is not known yet. -/
theorem Founded.erase {available : List String} {memo : Memo} {id : String}
    (founded : d.Founded T available memo) (unknown : memo.lookup id = none) :
    d.Founded T (available.erase id) memo where
  pending other absent := by
    by_cases itself : other = id
    · rw [itself, unknown]
    · exact founded.pending other fun mem => absent ((List.mem_erase_of_ne itself).2 mem)
  built := founded.built

/-- Remembering a key that follows the rule. -/
theorem Founded.remember {available : List String} {memo : Memo} {entity : Construct}
    {keys : List Key} (founded : d.Founded T (available.erase entity.id) memo)
    (nodup : available.Nodup) (free : entity.id ∈ available) (inNodes : entity ∈ d.nodes)
    (computed : d.KeyComputed (fun other found => T other found memo) entity keys) :
    d.Founded T available ((entity.id, keys) :: memo) where
  pending id absent := by
    have different : id ≠ entity.id := fun same => absent (same ▸ free)
    rw [Memo.lookup_cons_of_ne different]
    exact founded.pending id fun mem => absent (List.mem_of_mem_erase mem)
  built := .remember inNodes (founded.pending _ nodup.not_mem_erase) computed founded.built

/-- A key that is computed now is remembered, and founded like those of its sources. -/
theorem Founded.compute {available : List String} {entity : Construct} {session : Session}
    (founded : d.Founded T available session.resolved) (nodup : available.Nodup)
    (free : entity.id ∈ available) (inNodes : entity ∈ d.nodes)
    (unknown : session.resolved.lookup entity.id = none)
    (asks : ∀ source ∈ d.keySources entity,
      Meets (d.Founded T (available.erase entity.id))
        (d.keyAmong (available.erase entity.id) source) (T source)) :
    Memo.Grows session.resolved ((d.keyAmong available entity).memoAfter session) ∧
      d.Founded T available ((d.keyAmong available entity).memoAfter session) ∧
      ((d.keyAmong available entity).memoAfter session).lookup entity.id =
        some ((d.keyAmong available entity).answer session) := by
  obtain ⟨grows, kept, said⟩ := meets_computeKeyWith asks session (founded.erase unknown)
  have ran := keyAmong_of_available (d := d) unknown free
  simp only [answer, memoAfter, ran] at grows kept said ⊢
  have growsOn := Memo.grows_cons (kept.pending _ nodup.not_mem_erase)
    (StateT.run (d.computeKeyWith (d.keyAmong (available.erase entity.id)) entity) session).1
  exact ⟨grows.trans growsOn, kept.remember nodup free inNodes (said _ (.refl _)),
    List.lookup_cons_self⟩

/-- Every remembered key is computed from what is remembered in the end. -/
theorem Built.computed {memo : Memo} (built : d.Built T memo)
    (stays : ∀ entity keys memo later, T entity keys memo → Memo.Grows memo later →
      T entity keys later) {entity : Construct} (inNodes : entity ∈ d.nodes) {keys : List Key}
    (known : memo.lookup entity.id = some keys) :
    d.KeyComputed (fun other found => T other found memo) entity keys := by
  induction built with
  | nil => simp at known
  | @remember memo other found otherIn unknown computed _ ih =>
      have grows := Memo.grows_cons unknown found
      obtain ⟨rfl, rfl⟩ | ⟨_, earlier⟩ := lookup_remembered inNodes otherIn known
      · exact computed.mono fun source asked told => stays source asked _ _ told grows
      · exact (ih earlier).mono fun source asked told => stays source asked _ _ told grows

variable
  (remembered : ∀ entity keys memo, memo.lookup entity.id = some keys → T entity keys memo)
  {Waits : List String → Construct → Prop}
  (asksOn : ∀ available entity source, Waits available entity → entity ∈ d.nodes →
    source ∈ d.keySources entity → Waits (available.erase entity.id) source)
  (busy : ∀ available entity memo, entity ∈ d.nodes → Waits available entity →
    entity.id ∉ available → T entity [] memo)

include remembered asksOn busy

/-- The resolver keeps remembered keys founded, whatever `T` allows to be
told of an entity whose key is being computed.  The induction is on the ids that
are available: each computation takes its own away. -/
theorem meets_keyAmong {available : List String} (nodup : available.Nodup) {entity : Construct}
    (inNodes : entity ∈ d.nodes) (waits : Waits available entity) :
    Meets (d.Founded T available) (d.keyAmong available entity) fun keys later =>
      T entity keys later ∧
        (entity.id ∈ available → later.lookup entity.id = some keys) := by
  induction size : available.length using Nat.strongRecOn generalizing available entity with
  | ind count ih =>
      intro session founded
      cases known : session.resolved.lookup entity.id with
      | some keys =>
          simp only [answer, memoAfter, keyAmong_of_known known]
          refine ⟨.refl _, founded, fun later grows => ?_⟩
          have still := grows _ _ known
          exact ⟨remembered _ _ _ still, fun _ => still⟩
      | none =>
          by_cases free : entity.id ∈ available
          · have shorter : (available.erase entity.id).length < count := by
              have taken := List.length_erase_of_mem free
              have some := List.length_pos_of_mem free
              omega
            have asks : ∀ source ∈ d.keySources entity,
                Meets (d.Founded T (available.erase entity.id))
                  (d.keyAmong (available.erase entity.id) source) (T source) :=
              fun source mem =>
                (ih _ shorter (nodup.erase _) (mem_nodes_of_mem_keySources mem)
                  (asksOn _ _ _ waits inNodes mem) rfl).mono fun _ _ told => told.1
            obtain ⟨grows, kept, found⟩ := founded.compute nodup free inNodes known asks
            refine ⟨grows, kept, fun later reached => ?_⟩
            have still := reached entity.id _ found
            exact ⟨remembered _ _ _ still, fun _ => still⟩
          · obtain ⟨answered, untouched⟩ := keyAmong_of_busy (d := d) known free
            rw [answered, untouched]
            exact ⟨.refl _, founded, fun later _ =>
              ⟨busy _ _ later inNodes waits free, fun asked => absurd asked free⟩⟩

/-- A question from outside is answered by what is remembered from then on. -/
theorem meets_tableKey (waits : ∀ entity ∈ d.nodes, Waits d.ids entity) {entity : Construct}
    (inNodes : entity ∈ d.nodes) :
    Meets (d.Founded T d.ids) (d.tableKey entity) fun keys later =>
      later.lookup entity.id = some keys :=
  (meets_keyAmong remembered asksOn busy d.ids_nodup inNodes (waits entity inNodes)).mono
    fun _ _ told => told.2 (id_mem_ids inNodes)

end Resolver

end Classified

end EntitySchema
