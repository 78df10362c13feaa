/-
# EntitySchema.Proofs.Machine -- questions for keys come back

A question for the key of an entity may lead to others, and these back to the entity, yet
the machine that resolves keys always comes back to what asked (`steps_question`).  The
induction is on the ids that are not being resolved (`Classified.idle`), of which every
computation takes one away.  `Classified.keyAmong` is handed these ids, and the answers are
its answers.

Two things hold after every step.  The ids that are being resolved are those on the stack,
each once, and none of them is remembered (`Guarded`); hence nothing that is remembered is
changed or forgotten.  And what is remembered for an entity, or may come to be, are keys of
its table (`Supplied`).

`key_question_answered` puts this together for every state that a resolver comes to, and
`questions_end` says that all questions that a resolver takes are dialogues of this kind.
-/
import EntitySchema.Key.Machine
import EntitySchema.Proofs.AnyRun
import EntitySchema.Proofs.PlainKeys

namespace EntitySchema

open Inquiry
open Relation (ReflTransGen)

set_option autoImplicit false

/-! ## Dialogues -/

namespace Dialogue

variable {α β : Type}

theorem bind_done (dialogue : Dialogue α) : dialogue.bind done = dialogue := by
  induction dialogue with
  | done a => rfl
  | note level component message next ih => exact congrArg (note level component message) ih
  | ask entity next ih => exact congrArg (ask entity) (funext ih)

theorem bind_assoc {γ : Type} (dialogue : Dialogue α) (goesOn : α → Dialogue β)
    (last : β → Dialogue γ) :
    (dialogue.bind goesOn).bind last = dialogue.bind fun a => (goesOn a).bind last := by
  induction dialogue with
  | done a => rfl
  | note level component message next ih => exact congrArg (note level component message) ih
  | ask entity next ih => exact congrArg (ask entity) (funext ih)

instance : LawfulMonad Dialogue := LawfulMonad.mk' Dialogue bind_done (fun _ _ => rfl) bind_assoc

theorem holdWith_pure (lookup : KeyLookup) (a : α) :
    (pure a : Dialogue α).holdWith lookup = pure a := rfl

theorem holdWith_key (lookup : KeyLookup) (entity : Construct) :
    (key entity).holdWith lookup = lookup entity := bind_pure (lookup entity)

theorem holdWith_bind (lookup : KeyLookup) (dialogue : Dialogue α) (next : α → Dialogue β) :
    (dialogue >>= next).holdWith lookup =
      dialogue.holdWith lookup >>= fun a => (next a).holdWith lookup := by
  induction dialogue with
  | done a => rfl
  | note level component message rest ih =>
      show (do Inquiry.note level component message; (rest >>= next).holdWith lookup) = _
      rw [ih]
      rfl
  | ask entity rest ih =>
      show (do ((rest (← lookup entity)) >>= next).holdWith lookup) = _
      simp only [ih]
      rfl

theorem holdWith_map (lookup : KeyLookup) (f : α → β) (dialogue : Dialogue α) :
    (f <$> dialogue).holdWith lookup = f <$> dialogue.holdWith lookup := by
  rw [map_eq_pure_bind, map_eq_pure_bind, holdWith_bind]
  rfl

theorem holdWith_mapM (lookup : KeyLookup) (items : List α) (each : α → Dialogue β) :
    (items.mapM each).holdWith lookup = items.mapM fun item => (each item).holdWith lookup := by
  induction items with
  | nil => rfl
  | cons item rest ih =>
      simp only [List.mapM_cons, holdWith_bind, holdWith_pure, ih]

end Dialogue

namespace Classified

open Dialogue

/-! ### The dialogues of the resolver -/

theorem holdWith_firstOwnerDialogue (lookup : KeyLookup) (weak : Construct)
    (candidates : List OwnerCandidate) :
    (firstOwnerDialogue weak candidates).holdWith lookup =
      firstOwnerWith lookup weak candidates := by
  induction candidates with
  | nil => rfl
  | cons candidate rest ih =>
      rw [firstOwnerDialogue, firstOwnerWith, holdWith_bind, holdWith_key]
      congr 1
      funext keys
      split
      · exact ih
      · rfl

theorem holdWith_keyedEndDialogue (lookup : KeyLookup) (neighbour : Link × Construct) :
    (keyedEndDialogue neighbour).holdWith lookup = keyedEndWith lookup neighbour := by
  rw [keyedEndDialogue, keyedEndWith, holdWith_bind, holdWith_key]
  rfl

theorem holdWith_participantsDialogue (d : Classified) (lookup : KeyLookup) (node : Construct) :
    (d.participantsDialogue node).holdWith lookup = d.participantsWith lookup node := by
  rw [participantsDialogue, participantsWith, holdWith_mapM]
  simp only [holdWith_keyedEndDialogue]

theorem holdWith_associativeDialogue (d : Classified) (lookup : KeyLookup) (entity : Construct) :
    (d.associativeDialogue entity).holdWith lookup = d.associativeReferencesWith lookup entity := by
  rw [associativeDialogue, associativeReferencesWith, holdWith_bind, holdWith_participantsDialogue]
  congr 1
  funext ends
  split <;> rfl

/-- The dialogue that computes a key is the computation with the look-up as an argument. -/
theorem holdWith_keyDialogue (d : Classified) (lookup : KeyLookup) (entity : Construct) :
    (d.keyDialogue entity).holdWith lookup = d.computeKeyWith lookup entity := by
  cases kind : entity.kind with
  | weakEntity =>
      simp only [keyDialogue, computeKeyWith, kind]
      rw [holdWith_bind, weakOwnerDialogue, holdWith_firstOwnerDialogue, weakOwnerWith]
      congr 1
      funext owner?
      cases owner? <;> cases d.partialKey? entity <;> rfl
  | associativeEntity =>
      simp only [keyDialogue, computeKeyWith, kind]
      rw [holdWith_bind, holdWith_associativeDialogue]
      rfl
  | _ =>
      simp only [keyDialogue, computeKeyWith, kind]
      split <;> rfl

theorem holdWith_keyColumnDialogue (d : Classified) (entity : Construct) :
    (keyColumnDialogue entity).holdWith d.tableKey = d.keyColumn? entity := by
  rw [keyColumnDialogue, keyColumn?, holdWith_bind, holdWith_key]
  congr 1
  funext keys
  rcases keys with _ | ⟨key, _ | ⟨second, rest⟩⟩ <;> rfl

theorem holdWith_keyedPairDialogue (d : Classified) (origin : Construct) (links : List Link)
    (accepts : Link → Construct → Bool) :
    (keyedPairDialogue origin links accepts).holdWith d.tableKey =
      d.keyedPair? origin links accepts := by
  unfold keyedPairDialogue keyedPair?
  rcases farEnds origin accepts links with _ | ⟨first, _ | ⟨second, rest⟩⟩
  · rfl
  · simp only [holdWith_bind, holdWith_keyedEndDialogue]
    rfl
  · simp only [holdWith_bind, holdWith_keyedEndDialogue]
    rfl

end Classified

/-! ### What a dialogue may ask and may end with -/

/-- All that the dialogue may ask for is in `Asks`, and all that it may end with in `Ends`. -/
inductive Dialogue.Sound {α : Type} (Asks : Construct → Prop) (Ends : α → Prop) :
    Dialogue α → Prop
  | done {a : α} : Ends a → Sound Asks Ends (.done a)
  | note {level : Level} {component : Component} {message : String} {next : Dialogue α} :
      Sound Asks Ends next → Sound Asks Ends (.note level component message next)
  | ask {entity : Construct} {next : List Key → Dialogue α} : Asks entity →
      (∀ keys, Sound Asks Ends (next keys)) → Sound Asks Ends (.ask entity next)

/-- The keys are those of the entity's table. -/
def Owned (entity : Construct) (keys : List Key) : Prop :=
  ∀ key ∈ keys, key.owner = tableName entity.label

namespace Dialogue

variable {α β : Type} {Asks : Construct → Prop}

theorem Sound.bind {Ends : α → Prop} {Last : β → Prop} {dialogue : Dialogue α}
    {goesOn : α → Dialogue β} (first : dialogue.Sound Asks Ends)
    (later : ∀ a, Ends a → (goesOn a).Sound Asks Last) : (dialogue >>= goesOn).Sound Asks Last := by
  induction first with
  | done ended => exact later _ ended
  | note _ ih => exact .note ih
  | ask asked _ ih => exact .ask asked ih

theorem sound_key {entity : Construct} (asked : Asks entity) :
    (key entity).Sound Asks fun _ => True := .ask asked fun _ => .done trivial

theorem Sound.map {f : α → β} {dialogue : Dialogue α}
    (sound : dialogue.Sound Asks fun _ => True) : (f <$> dialogue).Sound Asks fun _ => True := by
  rw [map_eq_pure_bind]
  exact sound.bind fun _ _ => .done trivial

theorem sound_mapM {items : List α} {each : α → Dialogue β}
    (sound : ∀ item ∈ items, (each item).Sound Asks fun _ => True) :
    (items.mapM each).Sound Asks fun _ => True := by
  induction items with
  | nil => exact .done trivial
  | cons item rest ih =>
      rw [List.mapM_cons]
      refine (sound item List.mem_cons_self).bind fun _ _ => ?_
      refine (ih fun other mem => sound other (List.mem_cons_of_mem item mem)).bind fun _ _ => ?_
      exact .done trivial

end Dialogue

namespace Classified

variable {d : Classified}

theorem sound_firstOwnerDialogue {weak : Construct} {candidates : List OwnerCandidate}
    (known : ∀ candidate ∈ candidates, candidate.owner ∈ d.nodes) :
    (firstOwnerDialogue weak candidates).Sound (· ∈ d.nodes) fun _ => True := by
  induction candidates with
  | nil => exact .done trivial
  | cons candidate rest ih =>
      refine (Dialogue.sound_key (known candidate List.mem_cons_self)).bind fun keys _ => ?_
      split
      · exact ih fun other mem => known other (List.mem_cons_of_mem candidate mem)
      · exact .note (.done trivial)

theorem sound_keyedEndDialogue {neighbour : Link × Construct} (inNodes : neighbour.2 ∈ d.nodes) :
    (keyedEndDialogue neighbour).Sound (· ∈ d.nodes) fun _ => True :=
  (Dialogue.sound_key inNodes).bind fun _ _ => .done trivial

theorem sound_participantsDialogue (node : Construct) :
    (d.participantsDialogue node).Sound (· ∈ d.nodes) fun _ => True :=
  Dialogue.sound_mapM fun _ mem => sound_keyedEndDialogue (participant_spec mem).1

theorem sound_associativeDialogue (entity : Construct) :
    (d.associativeDialogue entity).Sound (· ∈ d.nodes) fun _ => True := by
  refine (sound_participantsDialogue entity).bind fun ends _ => ?_
  split <;> exact .done trivial

theorem owned_carriedTo (entity : Construct) (keys : List Key) :
    Owned entity (keys.map (·.carriedTo (tableName entity.label))) := by
  intro key mem
  obtain ⟨_, _, rfl⟩ := List.mem_map.1 mem
  rfl

theorem owned_keysOfKind (entity : Construct) (kind : NodeKind) :
    Owned entity (d.keysOfKind entity kind) := by
  intro key mem
  obtain ⟨_, _, rfl⟩ := List.mem_map.1 mem
  rfl

/-- Computing a key asks for the keys of nodes, and ends with keys of the entity's table. -/
theorem sound_keyDialogue (entity : Construct) :
    (d.keyDialogue entity).Sound (· ∈ d.nodes) (Owned entity) := by
  cases kind : entity.kind with
  | weakEntity =>
      simp only [keyDialogue, kind]
      refine (sound_firstOwnerDialogue fun _ mem => (owner_spec mem).1).bind fun owner? _ => ?_
      cases partialKey : d.partialKey? entity with
      | none => exact .done fun _ mem => absurd mem List.not_mem_nil
      | some key =>
          cases owner? with
          | none => exact .done fun _ mem => absurd mem List.not_mem_nil
          | some owner =>
              refine .done (List.forall_mem_cons.2 ⟨?_, owned_carriedTo entity owner.keys⟩)
              exact owned_keysOfKind entity _ key (List.mem_of_head? partialKey)
  | associativeEntity =>
      simp only [keyDialogue, kind]
      refine (sound_associativeDialogue entity).bind fun references _ => .done fun key mem => ?_
      obtain ⟨reference, _, mem⟩ := List.mem_flatMap.1 mem
      obtain ⟨_, _, rfl⟩ := List.mem_map.1 mem
      rfl
  | _ =>
      simp only [keyDialogue, kind]
      split
      · exact .done (owned_carriedTo entity _)
      · exact .done (owned_keysOfKind entity _)

end Classified

/-! ## Coming back -/

namespace Classified

variable {d : Classified}

/-- The ids of the entities that are not being resolved. -/
def idle (d : Classified) (resolving : List String) : List String :=
  d.ids.filter fun id => !resolving.contains id

theorem mem_idle_iff {resolving : List String} {entity : Construct} (inNodes : entity ∈ d.nodes) :
    entity.id ∈ d.idle resolving ↔ entity.id ∉ resolving := by
  simp [idle, id_mem_ids inNodes]

theorem idle_nil (d : Classified) : d.idle [] = d.ids := by
  simp [idle]

theorem idle_nodup (resolving : List String) : (d.idle resolving).Nodup := d.ids_nodup.filter _

/-- Resolving one more entity takes its id away. -/
theorem idle_cons (id : String) (resolving : List String) :
    d.idle (id :: resolving) = (d.idle resolving).erase id := by
  rw [(idle_nodup resolving).erase_eq_filter, idle, idle, List.filter_filter]
  refine List.filter_congr fun other _ => ?_
  by_cases same : other = id <;> simp [same]

/-- An entity whose key is being computed is answered by no key, and the journal says so. -/
theorem run_keyAmong_of_busy {available : List String} {entity : Construct} {session : Session}
    (unknown : session.resolved.lookup entity.id = none) (busy : entity.id ∉ available) :
    StateT.run (d.keyAmong available entity) session =
      ([], (StateT.run (note .warning .keyResolution
        ("Cyclic key dependency through " ++ entity.label ++ "; treating as keyless")) session).2) := by
  rw [keyAmong, StateT.run_bind, run_remembered?, unknown]
  simp only [busy, dite_false]
  rfl

end Classified

namespace Machine

variable {d : Classified}

/-- One step leads from the one to the other.  No machine has a choice, so what some steps
lead to is what its run comes to. -/
def Next (d : Classified) (machine later : Machine) : Prop := machine.step? d = some later

abbrev Steps (d : Classified) : Machine → Machine → Prop := ReflTransGen (Next d)

/-- All that a machine may do in one step. -/
inductive Move (d : Classified) : Machine → Machine → Prop
  | note {session : Session} {resolving : List String} {level : Level} {component : Component}
      {message : String} {next : Dialogue (List Key)} {stack : List Frame} :
      Move d ⟨session, resolving, .note level component message next, stack⟩
        ⟨(StateT.run (note level component message) session).2, resolving, next, stack⟩
  | known {session : Session} {resolving : List String} {entity : Construct}
      {next : List Key → Dialogue (List Key)} {stack : List Frame} {keys : List Key} :
      session.resolved.lookup entity.id = some keys →
        Move d ⟨session, resolving, .ask entity next, stack⟩ ⟨session, resolving, next keys, stack⟩
  | busy {session : Session} {resolving : List String} {entity : Construct}
      {next : List Key → Dialogue (List Key)} {stack : List Frame} :
      session.resolved.lookup entity.id = none → entity.id ∈ resolving →
        Move d ⟨session, resolving, .ask entity next, stack⟩
          ⟨(StateT.run (note .warning .keyResolution
              ("Cyclic key dependency through " ++ entity.label ++ "; treating as keyless"))
              session).2, resolving, next [], stack⟩
  | idle {session : Session} {resolving : List String} {entity : Construct}
      {next : List Key → Dialogue (List Key)} {stack : List Frame} :
      session.resolved.lookup entity.id = none → entity.id ∉ resolving →
        Move d ⟨session, resolving, .ask entity next, stack⟩
          ⟨session, entity.id :: resolving, d.keyDialogue entity, ⟨entity, next⟩ :: stack⟩
  | done {session : Session} {resolving : List String} {keys : List Key} {frame : Frame}
      {stack : List Frame} :
      Move d ⟨session, resolving, .done keys, frame :: stack⟩
        ⟨{ session with resolved := (frame.entity.id, keys) :: session.resolved },
          resolving.erase frame.entity.id, frame.next keys, stack⟩

/-- The moves are the steps. -/
theorem next_iff_move {machine later : Machine} : Next d machine later ↔ Move d machine later := by
  constructor
  · obtain ⟨session, resolving, current, stack⟩ := machine
    intro next
    cases current with
    | note =>
        obtain rfl := Option.some.inj next
        exact .note
    | ask entity goesOn =>
        cases known : session.resolved.lookup entity.id with
        | some keys =>
            simp only [Next, step?, known, Option.some.injEq] at next
            exact next ▸ .known known
        | none =>
            by_cases busy : entity.id ∈ resolving
            · simp only [Next, step?, known, busy, if_true, Option.some.injEq] at next
              exact next ▸ .busy known busy
            · simp only [Next, step?, known, busy, if_false, Option.some.injEq] at next
              exact next ▸ .idle known busy
    | done keys =>
        cases stack with
        | nil => cases next
        | cons frame stack =>
            obtain rfl := Option.some.inj next
            exact .done
  · rintro (_ | known | ⟨unknown, busy⟩ | ⟨unknown, fresh⟩ | _)
    · rfl
    · simp only [Next, step?, known]
    · simp only [Next, step?, unknown, busy, if_true]
      rfl
    · simp only [Next, step?, unknown, fresh, if_false]
    · rfl

theorem Move.next {machine later : Machine} (move : Move d machine later) : Next d machine later :=
  next_iff_move.2 move

theorem Next.move {machine later : Machine} (next : Next d machine later) : Move d machine later :=
  next_iff_move.1 next

theorem next_done {session : Session} {resolving : List String} {keys : List Key} {frame : Frame}
    {stack : List Frame} :
    Next d ⟨session, frame.entity.id :: resolving, .done keys, frame :: stack⟩
      ⟨{ session with resolved := (frame.entity.id, keys) :: session.resolved }, resolving,
        frame.next keys, stack⟩ := by
  have move : Move d ⟨session, frame.entity.id :: resolving, .done keys, frame :: stack⟩ _ := .done
  rw [List.erase_cons_head] at move
  exact move.next

/-- Where questions come back, dialogues come to their ends. -/
theorem steps_of_questions {resolving : List String}
    (answered : ∀ entity ∈ d.nodes, ∀ (next : List Key → Dialogue (List Key)) (session : Session)
      (stack : List Frame),
      let ran := StateT.run (d.keyAmong (d.idle resolving) entity) session
      Steps d ⟨session, resolving, .ask entity next, stack⟩ ⟨ran.2, resolving, next ran.1, stack⟩)
    {Ends : List Key → Prop} {dialogue : Dialogue (List Key)}
    (sound : dialogue.Sound (· ∈ d.nodes) Ends) (session : Session) (stack : List Frame) :
    let ran := StateT.run (dialogue.holdWith (d.keyAmong (d.idle resolving))) session
    Steps d ⟨session, resolving, dialogue, stack⟩ ⟨ran.2, resolving, .done ran.1, stack⟩ := by
  induction sound generalizing session with
  | done _ => exact .refl
  | note _ ih => exact .head rfl (ih _)
  | @ask entity next asked _ ih => exact (answered entity asked next session stack).trans (ih _ _)

/-- A question comes back with the answer of `keyAmong`.  The induction is on the ids of the
entities that are not being resolved. -/
theorem steps_question {entity : Construct} (inNodes : entity ∈ d.nodes)
    (next : List Key → Dialogue (List Key)) (session : Session) (resolving : List String)
    (stack : List Frame) :
    let ran := StateT.run (d.keyAmong (d.idle resolving) entity) session
    Steps d ⟨session, resolving, .ask entity next, stack⟩ ⟨ran.2, resolving, next ran.1, stack⟩ := by
  induction size : (d.idle resolving).length using Nat.strongRecOn
    generalizing resolving entity next session stack with
  | ind count ih =>
      cases known : session.resolved.lookup entity.id with
      | some keys =>
          rw [Classified.keyAmong_of_known known]
          exact .single (Move.known known).next
      | none =>
          by_cases busy : entity.id ∈ resolving
          · have taken : entity.id ∉ d.idle resolving :=
              fun mem => (Classified.mem_idle_iff inNodes).1 mem busy
            rw [Classified.run_keyAmong_of_busy known taken]
            exact .single (Move.busy known busy).next
          · have free : entity.id ∈ d.idle resolving := (Classified.mem_idle_iff inNodes).2 busy
            have fewer : (d.idle (entity.id :: resolving)).length < count := by
              have taken := List.length_erase_of_mem free
              have some := List.length_pos_of_mem free
              rw [Classified.idle_cons]
              omega
            have computed := steps_of_questions
              (fun other otherIn next session stack => ih _ fewer otherIn next session _ stack rfl)
              (Classified.sound_keyDialogue entity) session (⟨entity, next⟩ :: stack)
            rw [Classified.holdWith_keyDialogue, Classified.idle_cons] at computed
            rw [Classified.keyAmong_of_available known free]
            exact (ReflTransGen.head (Move.idle known busy).next computed).tail next_done

/-! ## What a step preserves -/

/-- The dialogue asks for nodes only, and when it is done with the keys of the entity on top
of the stack, so does what waits there. -/
inductive Waiting (d : Classified) : Dialogue (List Key) → List Frame → Prop
  | bottom {dialogue : Dialogue (List Key)} :
      dialogue.Sound (· ∈ d.nodes) (fun _ => True) → Waiting d dialogue []
  | frame {dialogue : Dialogue (List Key)} {frame : Frame} {stack : List Frame} :
      dialogue.Sound (· ∈ d.nodes) (Owned frame.entity) → frame.entity ∈ d.nodes →
        (∀ keys, Waiting d (frame.next keys) stack) → Waiting d dialogue (frame :: stack)

theorem Waiting.of_note {level : Level} {component : Component} {message : String}
    {next : Dialogue (List Key)} {stack : List Frame}
    (waiting : Waiting d (.note level component message next) stack) : Waiting d next stack := by
  cases waiting with
  | bottom sound =>
      cases sound with
      | note sound => exact .bottom sound
  | frame sound inNodes goesOn =>
      cases sound with
      | note sound => exact .frame sound inNodes goesOn

theorem Waiting.of_ask {entity : Construct} {next : List Key → Dialogue (List Key)}
    {stack : List Frame} (waiting : Waiting d (.ask entity next) stack) :
    entity ∈ d.nodes ∧ ∀ keys, Waiting d (next keys) stack := by
  cases waiting with
  | bottom sound =>
      cases sound with
      | ask asked sound => exact ⟨asked, fun keys => .bottom (sound keys)⟩
  | frame sound inNodes goesOn =>
      cases sound with
      | ask asked sound => exact ⟨asked, fun keys => .frame (sound keys) inNodes goesOn⟩

theorem Waiting.of_done {keys : List Key} {frame : Frame} {stack : List Frame}
    (waiting : Waiting d (.done keys) (frame :: stack)) :
    frame.entity ∈ d.nodes ∧ Owned frame.entity keys ∧ Waiting d (frame.next keys) stack := by
  cases waiting with
  | frame sound inNodes goesOn =>
      cases sound with
      | done owned => exact ⟨inNodes, owned, goesOn keys⟩

theorem Waiting.mem_nodes {dialogue : Dialogue (List Key)} {stack : List Frame}
    (waiting : Waiting d dialogue stack) : ∀ frame ∈ stack, frame.entity ∈ d.nodes := by
  induction stack generalizing dialogue with
  | nil => exact fun _ mem => absurd mem List.not_mem_nil
  | cons frame stack ih =>
      cases waiting with
      | frame _ inNodes goesOn => exact List.forall_mem_cons.2 ⟨inNodes, ih (goesOn [])⟩

/-- Whatever is remembered for an id are keys of the table of the node with this id. -/
def OwnedMemo (d : Classified) (memo : Memo) : Prop :=
  ∀ id keys, memo.lookup id = some keys → ∃ node ∈ d.nodes, node.id = id ∧ Owned node keys

/-- What is remembered for a node are keys of its table. -/
theorem OwnedMemo.of_lookup {memo : Memo} (owned : OwnedMemo d memo) {entity : Construct}
    (inNodes : entity ∈ d.nodes) {keys : List Key} (known : memo.lookup entity.id = some keys) :
    Owned entity keys := by
  obtain ⟨node, nodeIn, same, nodeOwned⟩ := owned _ _ known
  exact Classified.eq_of_id_eq nodeIn inNodes same ▸ nodeOwned

/-- All that is remembered, or will be, are keys of the tables of nodes. -/
structure Supplied (d : Classified) (machine : Machine) : Prop where
  waiting : Waiting d machine.current machine.stack
  owned : OwnedMemo d machine.session.resolved

/-- The entities that are being resolved are those on the stack, each once, and none of them
is remembered. -/
structure Guarded (machine : Machine) : Prop where
  stacked : machine.resolving = machine.stack.map (·.entity.id)
  distinct : machine.resolving.Nodup
  pending : ∀ id ∈ machine.resolving, machine.session.resolved.lookup id = none

theorem supplied_start {dialogue : Dialogue (List Key)}
    (sound : dialogue.Sound (· ∈ d.nodes) fun _ => True) (journal : Journal) :
    Supplied d (start journal dialogue) where
  waiting := .bottom sound
  owned _ _ known := by cases known

theorem guarded_start (journal : Journal) (dialogue : Dialogue (List Key)) :
    Guarded (start journal dialogue) where
  stacked := rfl
  distinct := List.nodup_nil
  pending _ mem := absurd mem List.not_mem_nil

/-- One step keeps the keys in their places: what a dialogue comes back with is remembered for the
entity it was asked of, and is made of keys of its table. -/
theorem Supplied.next {machine later : Machine} (supplied : Supplied d machine)
    (next : Next d machine later) : Supplied d later := by
  obtain ⟨waiting, owned⟩ := supplied
  cases next.move with
  | note => exact ⟨waiting.of_note, owned⟩
  | known _ => exact ⟨waiting.of_ask.2 _, owned⟩
  | busy _ _ => exact ⟨waiting.of_ask.2 [], owned⟩
  | idle _ _ =>
      obtain ⟨inNodes, goesOn⟩ := waiting.of_ask
      exact ⟨.frame (Classified.sound_keyDialogue _) inNodes goesOn, owned⟩
  | @done session resolving keys frame stack =>
      obtain ⟨inNodes, ownedKeys, goesOn⟩ := waiting.of_done
      refine ⟨goesOn, fun id stored known => ?_⟩
      by_cases same : id = frame.entity.id
      · rw [same, List.lookup_cons_self] at known
        exact ⟨frame.entity, inNodes, same.symm, Option.some.inj known ▸ ownedKeys⟩
      · rw [Memo.lookup_cons_of_ne same] at known
        exact owned id stored known

/-- A step keeps the guard, and nothing is forgotten or changed. -/
theorem Guarded.next {machine later : Machine} (guarded : Guarded machine)
    (next : Next d machine later) :
    Guarded later ∧ Memo.Grows machine.session.resolved later.session.resolved := by
  obtain ⟨stacked, distinct, pending⟩ := guarded
  cases next.move with
  | note => exact ⟨⟨stacked, distinct, pending⟩, .refl _⟩
  | known _ => exact ⟨⟨stacked, distinct, pending⟩, .refl _⟩
  | busy _ _ => exact ⟨⟨stacked, distinct, pending⟩, .refl _⟩
  | @idle session resolving entity goesOn stack unknown fresh =>
      refine ⟨⟨congrArg (entity.id :: ·) stacked, List.nodup_cons.2 ⟨fresh, distinct⟩, ?_⟩, .refl _⟩
      exact List.forall_mem_cons.2 ⟨unknown, pending⟩
  | @done session resolving keys frame stack =>
      obtain rfl : resolving = frame.entity.id :: stack.map (·.entity.id) := stacked
      obtain ⟨unknown, pending⟩ := List.forall_mem_cons.1 pending
      obtain ⟨apart, distinct⟩ := List.nodup_cons.1 distinct
      have taken := List.erase_cons_head frame.entity.id (stack.map (·.entity.id))
      refine ⟨⟨taken, taken.symm ▸ distinct, ?_⟩, Memo.grows_cons unknown keys⟩
      show ∀ id ∈ (frame.entity.id :: stack.map (·.entity.id)).erase frame.entity.id, _
      rw [taken]
      intro id mem
      have different : id ≠ frame.entity.id := fun same => apart (same ▸ mem)
      exact (Memo.lookup_cons_of_ne different keys session.resolved).trans (pending id mem)

theorem Supplied.steps {machine later : Machine} (supplied : Supplied d machine)
    (steps : Steps d machine later) : Supplied d later := by
  induction steps with
  | refl => exact supplied
  | tail _ next ih => exact ih.next next

theorem Guarded.steps {machine later : Machine} (guarded : Guarded machine)
    (steps : Steps d machine later) :
    Guarded later ∧ Memo.Grows machine.session.resolved later.session.resolved := by
  induction steps with
  | refl => exact ⟨guarded, .refl _⟩
  | tail _ next ih =>
      obtain ⟨guarded, grows⟩ := ih
      obtain ⟨guarded, growsOn⟩ := guarded.next next
      exact ⟨guarded, grows.trans growsOn⟩

/-- No more dialogues wait than there are nodes. -/
theorem Guarded.depth_le {machine : Machine} (guarded : Guarded machine)
    (supplied : Supplied d machine) : machine.stack.length ≤ d.nodes.length := by
  have known : machine.resolving ⊆ d.ids := by
    intro id mem
    rw [guarded.stacked] at mem
    obtain ⟨frame, onStack, rfl⟩ := List.mem_map.1 mem
    exact Classified.id_mem_ids (supplied.waiting.mem_nodes frame onStack)
  have fits := (List.subperm_of_subset guarded.distinct known).length_le
  rwa [guarded.stacked, List.length_map, Classified.ids, List.length_map] at fits

/-! ## Questions -/

/-- A dialogue that a fresh resolver is given comes to its end, with the keys of `tableKey`. -/
theorem start_ends {Ends : List Key → Prop} {dialogue : Dialogue (List Key)}
    (sound : dialogue.Sound (· ∈ d.nodes) Ends) (journal : Journal) :
    let ran := StateT.run (dialogue.holdWith d.tableKey) { journal }
    Steps d (start journal dialogue) ⟨ran.2, [], .done ran.1, []⟩ := by
  have ends := steps_of_questions
    (fun _ inNodes next session stack => steps_question inNodes next session [] stack) sound
    { journal } []
  rwa [Classified.idle_nil] at ends

end Machine

namespace Classified.Query

open Dialogue

variable {d : Classified}

/-- The dialogue of a question. -/
def dialogue : d.Query → Dialogue Answer
  | tableKey entity _ => .keys <$> .key entity
  | keyColumn entity _ => .key <$> keyColumnDialogue entity
  | weakOwner weak => .owner <$> d.weakOwnerDialogue weak
  | participants node => .ends <$> d.participantsDialogue node
  | associativeReferences entity => .references <$> d.associativeDialogue entity
  | keyedPair origin links _ accepts => .pair <$> keyedPairDialogue origin links accepts

/-- The resolver is asked what the dialogue asks. -/
theorem holdWith_dialogue (query : d.Query) : query.dialogue.holdWith d.tableKey = query.ask := by
  cases query with
  | tableKey entity _ => rw [dialogue, ask, holdWith_map, holdWith_key]
  | keyColumn entity _ => rw [dialogue, ask, holdWith_map, holdWith_keyColumnDialogue]
  | weakOwner weak =>
      rw [dialogue, ask, holdWith_map, weakOwnerDialogue, holdWith_firstOwnerDialogue]
      rfl
  | participants node =>
      rw [dialogue, ask, holdWith_map, holdWith_participantsDialogue]
      rfl
  | associativeReferences entity =>
      rw [dialogue, ask, holdWith_map, holdWith_associativeDialogue]
      rfl
  | keyedPair origin links _ accepts =>
      rw [dialogue, ask, holdWith_map, holdWith_keyedPairDialogue]

/-- A question is about nodes. -/
theorem sound_dialogue (query : d.Query) : query.dialogue.Sound (· ∈ d.nodes) fun _ => True := by
  cases query with
  | tableKey entity inNodes => exact (sound_key inNodes).map
  | keyColumn entity inNodes =>
      refine Sound.map ((sound_key inNodes).bind fun keys _ => ?_)
      split <;> exact .done trivial
  | weakOwner weak => exact (sound_firstOwnerDialogue fun _ mem => (owner_spec mem).1).map
  | participants node => exact (sound_participantsDialogue node).map
  | associativeReferences entity => exact (sound_associativeDialogue entity).map
  | keyedPair origin links known accepts =>
      have near : ∀ neighbour ∈ farEnds origin accepts links,
          (keyedEndDialogue neighbour).Sound (· ∈ d.nodes) fun _ => True := fun neighbour mem =>
        sound_keyedEndDialogue (mem_nodes_of_mem_farEnds known mem)
      refine Sound.map ?_
      unfold keyedPairDialogue
      split
      · exact .done trivial
      · rename_i only ends
        exact (near only (by simp [ends])).bind fun _ _ => .done trivial
      · rename_i first second _ ends
        refine (near first (by simp [ends])).bind fun _ _ => ?_
        exact (near second (by simp [ends])).bind fun _ _ => .done trivial

end Classified.Query

namespace Machine

variable {d : Classified}

def questions (queries : List d.Query) : Dialogue (List Key) := do
  let _ ← queries.mapM Classified.Query.dialogue
  return []

theorem sound_questions (queries : List d.Query) :
    (questions queries).Sound (· ∈ d.nodes) fun _ => True :=
  (Dialogue.sound_mapM fun query _ => query.sound_dialogue).bind fun _ _ => .done trivial

/-- Whatever a fresh resolver is asked, the machine comes to an end, with all that the
questions leave remembered and said. -/
theorem questions_end (queries : List d.Query) (journal : Journal) :
    Steps d (start journal (questions queries))
      ⟨(StateT.run (queries.mapM Classified.Query.ask) { journal }).2, [], .done [], []⟩ := by
  have ends := start_ends (sound_questions queries) journal
  have asked : (questions queries).holdWith d.tableKey = do
      let _ ← queries.mapM Classified.Query.ask
      return [] := by
    rw [questions, Dialogue.holdWith_bind, Dialogue.holdWith_mapM]
    simp only [Classified.Query.holdWith_dialogue]
    rfl
  rwa [asked] at ends

/-! ## Any state -/

/-- The machine is that of a fresh resolver after some steps of a dialogue about nodes. -/
def Reached (d : Classified) (machine : Machine) : Prop :=
  ∃ (journal : Journal) (dialogue : Dialogue (List Key)),
    dialogue.Sound (· ∈ d.nodes) (fun _ => True) ∧ Steps d (start journal dialogue) machine

/-- The machine with a question for the key of an entity. -/
def asking (machine : Machine) (entity : Construct) (next : List Key → Dialogue (List Key)) :
    Machine :=
  { machine with current := .ask entity next }

/-- The machine after the question, with nothing left to resolve that was not before. -/
def answered (machine : Machine) (next : List Key → Dialogue (List Key)) (keys : List Key)
    (session : Session) : Machine :=
  { machine with session, current := next keys }

/-- A machine that asks for the key of an entity comes back with `keys`. -/
structure Answers (d : Classified) (machine : Machine) (entity : Construct)
    (next : List Key → Dialogue (List Key)) (keys : List Key) (session : Session) : Prop where
  comesBack : Steps d (machine.asking entity next) (machine.answered next keys session)
  /-- It is as if the resolver were handed the ids that are not being resolved. -/
  ran : StateT.run (d.keyAmong (d.idle machine.resolving) entity) machine.session = (keys, session)
  outermost : machine.stack = [] → machine.resolving = []
  grows : Memo.Grows machine.session.resolved session.resolved
  busy : entity.id ∈ machine.resolving → keys = []
  remembered : entity.id ∉ machine.resolving → session.resolved.lookup entity.id = some keys
  owned : Owned entity keys
  ownedMemo : OwnedMemo d session.resolved
  /-- The same question has the same answer at any later time, in one step. -/
  again : entity.id ∉ machine.resolving → ∀ later nextThen,
    Steps d (machine.answered next keys session) later →
      Next d (later.asking entity nextThen) (later.answered nextThen keys later.session)

/-- Whatever state a resolver is in, a question for the key of an entity is answered. -/
theorem key_question_answered {machine : Machine} (reached : Reached d machine)
    {entity : Construct} (inNodes : entity ∈ d.nodes) (next : List Key → Dialogue (List Key)) :
    ∃ keys session, Answers d machine entity next keys session := by
  obtain ⟨journal, dialogue, sound, steps⟩ := reached
  obtain ⟨guarded, _⟩ := (guarded_start journal dialogue).steps steps
  have supplied := (supplied_start sound journal).steps steps
  obtain ⟨session, resolving, current, stack⟩ := machine
  obtain ⟨stacked, distinct, pending⟩ := guarded
  obtain ⟨keys, after, ran⟩ : ∃ keys after,
      StateT.run (d.keyAmong (d.idle resolving) entity) session = (keys, after) := ⟨_, _, rfl⟩
  have comesBack : ∀ (next : List Key → Dialogue (List Key)) (stack : List Frame),
      Steps d ⟨session, resolving, .ask entity next, stack⟩ ⟨after, resolving, next keys, stack⟩ := by
    intro next stack
    have steps := steps_question inNodes next session resolving stack
    rwa [ran] at steps
  have asking : Guarded ⟨session, resolving, .ask entity next, stack⟩ := ⟨stacked, distinct, pending⟩
  obtain ⟨guarded, grows⟩ := asking.steps (comesBack next stack)
  -- what comes to be remembered does not depend on what waits for the answer
  have alone : Supplied d ⟨session, resolving, .key entity, []⟩ :=
    ⟨.bottom (Dialogue.sound_key inNodes), supplied.owned⟩
  have ownedMemo : OwnedMemo d after.resolved := (alone.steps (comesBack .done [])).owned
  have busy : entity.id ∈ resolving → keys = [] := by
    intro mem
    have taken : entity.id ∉ d.idle resolving :=
      fun free => (Classified.mem_idle_iff inNodes).1 free mem
    rw [Classified.run_keyAmong_of_busy (pending _ mem) taken] at ran
    exact (Prod.mk.inj ran).1.symm
  have remembered : entity.id ∉ resolving → after.resolved.lookup entity.id = some keys := by
    intro fresh
    obtain ⟨_, _, said⟩ := Classified.meets_keyAmong_beside (d := d)
      (Classified.idle_nodup resolving) session.resolved entity session fun _ _ => rfl
    rw [memoAfter, answer, ran] at said
    exact said _ (.refl _) ((Classified.mem_idle_iff inNodes).2 fresh)
  refine ⟨keys, after, comesBack next stack, ran, ?_, grows, busy, remembered, ?_, ownedMemo, ?_⟩
  · rintro rfl
    exact stacked
  · by_cases mem : entity.id ∈ resolving
    · rw [busy mem]
      exact fun _ mem => absurd mem List.not_mem_nil
    · exact ownedMemo.of_lookup inNodes (remembered mem)
  · intro fresh later nextThen steps
    obtain ⟨_, growsOn⟩ := guarded.steps steps
    exact (Move.known (growsOn _ _ (remembered fresh))).next

theorem steps_of_after? {steps : Nat} {machine later : Machine}
    (ran : machine.after? d steps = some later) : Steps d machine later := by
  induction steps generalizing machine with
  | zero => exact Option.some.inj ran ▸ .refl
  | succ steps ih =>
      obtain ⟨between, next, ran⟩ := Option.bind_eq_some_iff.1 ran
      exact .head next (ih ran)

end Machine

def Dialogue.asksFor? {α : Type} : Dialogue α → Option Construct
  | .ask entity _ => some entity
  | _ => none

theorem Dialogue.eq_ask {α : Type} {dialogue : Dialogue α} {entity : Construct}
    (asks : dialogue.asksFor? = some entity) : ∃ next, dialogue = .ask entity next := by
  cases dialogue with
  | ask other next => exact ⟨next, by rw [Option.some.inj asks]⟩
  | _ => cases asks

open Classified Machine

/-- Two weak entities that may own each other, the first of which has another owner. -/
def mutualOwners : Diagram :=
  { nodes :=
      [.drawn "a" "A" "WeakEntity", .drawn "p" "p" "PartialKeyAttribute",
       .drawn "b" "B" "WeakEntity", .drawn "q" "q" "PartialKeyAttribute",
       .drawn "d" "D" "StrongEntity", .drawn "k" "k" "KeyAttribute",
       .drawn "r" "R" "WeakRelationship", .drawn "s" "S" "WeakRelationship"]
    connections :=
      [.drawn "1" "a" "p", .drawn "2" "b" "q", .drawn "3" "d" "k",
       .drawn "4" "a" "r" "DoubleLineToMany", .drawn "5" "b" "r" "SingleLineToOne",
       .drawn "6" "a" "s" "DoubleLineToMany", .drawn "7" "d" "s" "SingleLineToOne"]
    node_ids_nodup := by decide
    connection_ids_nodup := by decide }

/-- The key of `A` leads to that of `B` and back to `A`, which counts as keyless there; yet
the question that was asked first is answered by the key that the other owner makes. -/
theorem mutualOwners_answered :
    ∃ d a, mutualOwners.classify = .ok d ∧ d.node? "a" = some a ∧
      (∃ machine next session, Reached d machine ∧ machine.current = .ask a next ∧
        machine.resolving = ["b", "a"] ∧ Answers d machine a next [] session) ∧
      ∃ keys session, keys.map (·.column) = ["p", "k-d"] ∧
        Answers d (start #[] (.key a)) a .done keys session := by
  have checked : classifiesTo mutualOwners (fun d => (d.node? "a").any fun a =>
      ((start #[] (.key a)).after? d 2).any (fun machine =>
        decide (machine.resolving = ["b", "a"] ∧ machine.current.asksFor? = some a)) &&
      decide (((d.keyAmong (d.idle []) a).answer { journal := #[] }).map (·.column) =
        ["p", "k-d"])) = true := by
    decide +kernel
  obtain ⟨d, read, found⟩ := exists_of_classifiesTo checked
  simp only [Bool.and_eq_true, Option.any_eq_true, decide_eq_true_eq] at found
  obtain ⟨a, foundA, ⟨machine, ran, resolving, asksFor⟩, columns⟩ := found
  obtain ⟨next, asks⟩ := Dialogue.eq_ask asksFor
  have inNodes : a ∈ d.nodes := List.mem_of_find?_eq_some foundA
  have sound : (Dialogue.key a).Sound (· ∈ d.nodes) fun _ => True := Dialogue.sound_key inNodes
  have reached : Reached d machine := ⟨#[], _, sound, steps_of_after? ran⟩
  obtain ⟨inner, session, answered⟩ := key_question_answered reached inNodes next
  obtain rfl : inner = [] := answered.busy (by
    rw [resolving, show a.id = "a" by simpa using List.find?_some foundA]
    decide)
  have fresh : Reached d (start #[] (.key a)) := ⟨#[], _, sound, .refl⟩
  obtain ⟨keys, outer, answeredFirst⟩ := key_question_answered fresh inNodes .done
  have same : (d.keyAmong (d.idle []) a).answer { journal := #[] } = keys :=
    congrArg Prod.fst answeredFirst.ran
  exact ⟨d, a, read, foundA, ⟨machine, next, session, reached, asks, resolving, answered⟩,
    keys, outer, same ▸ columns, answeredFirst⟩

end EntitySchema
