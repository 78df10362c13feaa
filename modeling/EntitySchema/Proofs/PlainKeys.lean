/-
# EntitySchema.Proofs.PlainKeys -- answers that remember nothing

The resolver remembers keys and treats an entity whose key is being computed as
keyless.  Where no key depends on itself neither shows: `plainKey` is the same rule
by plain recursion, each key computed anew from those it needs (`plainKey_eq`), and
`answers_plain` says that the answers to any questions, in any order, are those
that the plain keys give.

All that is remembered is plain (`Built.holds_plain`), by induction on the order in
which it was found; that the resolver never meets an entity that is being computed
is `answered_of_acyclic`.
-/
import EntitySchema.Proofs.Integrity
import Mathlib.Data.Fintype.Card
import Mathlib.Data.Fintype.EquivFin

namespace EntitySchema

open Inquiry
open Relation (TransGen)

set_option autoImplicit false

namespace Classified

variable {d : Classified} {keys others : KeyTable}

/-! ## The rule for one key -/

/-- The key of an entity, given those of the entities that it needs. -/
def keyIn (d : Classified) (keys : KeyTable) (entity : Construct) : List Key :=
  match entity.kind with
  | .weakEntity => d.weakKeyOf entity (d.ownerIn keys entity)
  | .associativeEntity => associativeKeyOf entity (d.referencesIn keys entity)
  | _ => d.strongKeyOf entity

/-- A key that was computed from answers of the table is that of the rule. -/
theorem KeyComputed.eq_keyIn {entity : Construct} {found : List Key}
    (computed : d.KeyComputed (fun other told => keys other = told) entity found) :
    found = d.keyIn keys entity := by
  by_cases weak : entity.kind = .weakEntity
  · obtain ⟨owner?, first, rfl⟩ := (keyComputed_weak weak).1 computed
    rw [first.eq_firstOwner fun _ _ same => same]
    simp only [keyIn, weak, ownerIn]
  by_cases associative : entity.kind = .associativeEntity
  · obtain ⟨ends, told, rfl⟩ := (keyComputed_associative associative).1 computed
    rw [eq_map_endAt (fun _ _ same => same) told]
    simp only [keyIn, associative, referencesIn, participantsIn]
  · rw [(keyComputed_strong weak associative).1 computed, keyIn]
    split
    · contradiction
    · contradiction
    · rfl

/-! ### Tables that agree -/

theorem firstOwner_congr {candidates : List OwnerCandidate}
    (agree : ∀ candidate ∈ candidates, keys candidate.owner = others candidate.owner) :
    keys.firstOwner candidates = others.firstOwner candidates := by
  induction candidates with
  | nil => rfl
  | cons candidate rest ih =>
      have first := agree candidate List.mem_cons_self
      have later := ih fun other mem => agree other (List.mem_cons_of_mem candidate mem)
      simp only [KeyTable.firstOwner, KeyTable.endAt, first, later]

theorem participantsIn_congr {node : Construct}
    (agree : ∀ neighbour ∈ d.participantEnds node, keys neighbour.2 = others neighbour.2) :
    d.participantsIn keys node = d.participantsIn others node :=
  List.map_congr_left fun neighbour mem => by simp only [KeyTable.endAt, agree neighbour mem]

theorem pairIn_congr {origin : Construct} {links : List Link} {accepts : Link → Construct → Bool}
    (agree : ∀ neighbour ∈ farEnds origin accepts links, keys neighbour.2 = others neighbour.2) :
    pairIn? keys origin links accepts = pairIn? others origin links accepts := by
  unfold pairIn?
  split
  · rename_i first second _ ends
    simp only [KeyTable.endAt, agree first (by simp [ends]), agree second (by simp [ends])]
  · rfl

/-- The key of an entity needs those of its sources and no others. -/
theorem keyIn_congr {entity : Construct}
    (agree : ∀ source ∈ d.keySources entity, keys source = others source) :
    d.keyIn keys entity = d.keyIn others entity := by
  cases kind : entity.kind with
  | weakEntity =>
      simp only [keySources, kind, List.forall_mem_map] at agree
      simp only [keyIn, kind, ownerIn, firstOwner_congr agree]
  | associativeEntity =>
      simp only [keySources, kind, List.forall_mem_map] at agree
      simp only [keyIn, kind, referencesIn, participantsIn_congr agree]
  | _ => simp only [keyIn, kind]

/-! ## Plain recursion -/

/-- Where no key depends on itself, computing keys from their sources ends. -/
theorem wellFounded_keySources (acyclic : d.KeysAcyclic) :
    WellFounded fun source entity => source ∈ d.keySources entity := by
  -- among the nodes, which are finitely many, the keys that a key needs form a strict order
  let Needs (source entity : {node // node ∈ d.nodes}) := TransGen d.DependsOn entity.1 source.1
  have : IsTrans _ Needs := ⟨fun _ _ _ early late => late.trans early⟩
  have : Std.Irrefl Needs := ⟨fun entity => acyclic entity.1 entity.2⟩
  have ends : ∀ entity : {node // node ∈ d.nodes},
      Acc (fun source entity => source ∈ d.keySources entity) entity.1 := by
    intro entity
    induction entity using (Finite.wellFounded_of_trans_of_irrefl Needs).induction with
    | _ entity ih =>
        exact ⟨_, fun source mem => ih ⟨source, mem_nodes_of_mem_keySources mem⟩
          (.single (dependsOn_of_mem_keySources mem))⟩
  exact ⟨fun entity => ⟨_, fun source mem => ends ⟨source, mem_nodes_of_mem_keySources mem⟩⟩⟩

/-- The key of an entity, by recursion on the keys that it needs. -/
noncomputable def plainKey (d : Classified) (acyclic : d.KeysAcyclic) : KeyTable :=
  (wellFounded_keySources acyclic).fix fun entity known =>
    d.keyIn (fun source => if asked : source ∈ d.keySources entity then known source asked else [])
      entity

theorem plainKey_eq (acyclic : d.KeysAcyclic) (entity : Construct) :
    d.plainKey acyclic entity = d.keyIn (d.plainKey acyclic) entity := by
  rw [plainKey, WellFounded.fix_eq]
  exact keyIn_congr fun source asked => dif_pos asked

/-- The plain keys are the only ones of which each is computed from the others. -/
theorem Exact.eq_plainKey (exactly : d.Exact keys) (acyclic : d.KeysAcyclic) {entity : Construct}
    (inNodes : entity ∈ d.nodes) : keys entity = d.plainKey acyclic entity := by
  induction entity using (wellFounded_keySources acyclic).induction with
  | _ entity ih =>
      rw [(exactly entity inNodes).eq_keyIn, plainKey_eq]
      exact keyIn_congr fun source asked => ih source asked (mem_nodes_of_mem_keySources asked)

/-- A run ends with the plain keys. -/
theorem keysAfter_eq_plainKey (settings : Settings) {diagram : Diagram}
    (read : diagram.classify = .ok d) (acyclic : d.KeysAcyclic) {entity : Construct}
    (inNodes : entity ∈ d.nodes) :
    keysAfter settings diagram d entity = d.plainKey acyclic entity :=
  (exact_keysAfter settings read acyclic).eq_plainKey acyclic inNodes

/-! ## What is remembered -/

/-- The table with the entries of the nodes, looked up by their ids. -/
def byId (d : Classified) (keys : KeyTable) : KeyTable := fun entity =>
  ((d.node? entity.id).map keys).getD []

theorem byId_eq {node entity : Construct} (inNodes : node ∈ d.nodes) (same : entity.id = node.id) :
    d.byId keys entity = keys node := by
  simp [byId, same, node?_id inNodes]

/-- What is remembered is plain. -/
theorem Built.holds_plain (acyclic : d.KeysAcyclic) {memo : Memo}
    (built : d.Built Remembered memo) : (d.byId (d.plainKey acyclic)).Holds memo := by
  induction built with
  | nil => exact fun _ _ known => by simp at known
  | @remember memo newest found newestIn _ computed _ ih =>
      intro entity keys known
      by_cases same : entity.id = newest.id
      · rw [same, List.lookup_cons_self] at known
        obtain rfl := Option.some.inj known
        rw [byId_eq newestIn same, plainKey_eq, (computed.mono ih).eq_keyIn]
        exact keyIn_congr fun source asked =>
          (byId_eq (mem_nodes_of_mem_keySources asked) rfl).symm
      · rw [Memo.lookup_cons_of_ne same] at known
        exact ih entity keys known

/-! ## Questions -/

/-- A question about keys; those for one key are about nodes of the diagram, and
those for a pair of ends about links of it. -/
inductive Query (d : Classified) where
  | tableKey (entity : Construct) (inNodes : entity ∈ d.nodes)
  | keyColumn (entity : Construct) (inNodes : entity ∈ d.nodes)
  | weakOwner (weak : Construct)
  | participants (node : Construct)
  | associativeReferences (entity : Construct)
  | keyedPair (origin : Construct) (links : List Link) (known : ∀ link ∈ links, link ∈ d.links)
      (accepts : Link → Construct → Bool)

/-- What is answered. -/
inductive Answer where
  | keys (keys : List Key)
  | key (key? : Option Key)
  | owner (owner? : Option KeyedEnd)
  | ends (ends : List KeyedEnd)
  | references (references : List Reference)
  | pair (pair? : Option (KeyedEnd × KeyedEnd))
  deriving DecidableEq, Repr

/-- The only part of a key, if there is exactly one. -/
def soleKey? : List Key → Option Key
  | [key] => some key
  | _ => none

namespace Query

def ask : d.Query → Inquiry Answer
  | tableKey entity _ => .keys <$> d.tableKey entity
  | keyColumn entity _ => .key <$> d.keyColumn? entity
  | weakOwner weak => .owner <$> d.weakOwner? weak
  | participants node => .ends <$> d.participants node
  | associativeReferences entity => .references <$> d.associativeReferences entity
  | keyedPair origin links _ accepts => .pair <$> d.keyedPair? origin links accepts

/-- The answer that a table of keys gives. -/
def answerIn (keys : KeyTable) : d.Query → Answer
  | tableKey entity _ => .keys (keys entity)
  | keyColumn entity _ => .key (soleKey? (keys entity))
  | weakOwner weak => .owner (d.ownerIn keys weak)
  | participants node => .ends (d.participantsIn keys node)
  | associativeReferences entity => .references (d.referencesIn keys entity)
  | keyedPair origin links _ accepts => .pair (pairIn? keys origin links accepts)

/-- The answer depends on the keys of nodes only. -/
theorem answerIn_congr (agree : ∀ entity ∈ d.nodes, keys entity = others entity)
    (query : d.Query) : query.answerIn keys = query.answerIn others := by
  cases query with
  | tableKey entity inNodes | keyColumn entity inNodes =>
      simp only [answerIn, agree entity inNodes]
  | weakOwner weak =>
      refine congrArg Answer.owner (firstOwner_congr fun candidate mem => ?_)
      exact agree _ (owner_spec mem).1
  | participants node =>
      refine congrArg Answer.ends (participantsIn_congr fun neighbour mem => ?_)
      exact agree _ (participant_spec mem).1
  | associativeReferences entity =>
      refine congrArg (Answer.references ∘ d.referencesOf entity)
        (participantsIn_congr fun neighbour mem => ?_)
      exact agree _ (participant_spec mem).1
  | keyedPair origin links known accepts =>
      refine congrArg Answer.pair (pairIn_congr fun neighbour mem => ?_)
      exact agree _ (mem_nodes_of_mem_farEnds known mem)

theorem reads_ask {P : Memo → Prop} (answered : d.Answered P) (query : d.Query) :
    Reads P query.ask query.answerIn := by
  cases query with
  | tableKey entity inNodes => exact reads_map (reads_tableKey answered inNodes) _
  | keyColumn entity inNodes =>
      refine reads_map (reads_bind (G := fun found _ => soleKey? found)
        (reads_tableKey answered inNodes) fun keys => ?_) _
      rcases keys entity with _ | ⟨key, _ | _⟩ <;> exact reads_pure _
  | weakOwner weak => exact reads_map (reads_weakOwner answered weak) _
  | participants node => exact reads_map (reads_participants (answered.participants node)) _
  | associativeReferences entity => exact reads_map (reads_associativeReferences answered entity) _
  | keyedPair origin links known accepts => exact reads_map (reads_keyedPair (answered.farEnds known)) _

end Query

/-- Where no key depends on itself, the answers to any questions, asked one after
the other, are those of the plain keys. -/
theorem answers_plain (acyclic : d.KeysAcyclic) (queries : List d.Query) (journal : Journal) :
    (queries.mapM Query.ask).answer { journal } =
      queries.map (·.answerIn (d.plainKey acyclic)) := by
  have reads := reads_mapM fun (query : d.Query) (_ : query ∈ queries) =>
    query.reads_ask (answered_of_acyclic acyclic)
  obtain ⟨_, founded, read⟩ := reads { journal } (founded_nil _)
  rw [read _ (.refl _) _ (founded.built.holds_plain acyclic)]
  exact List.map_congr_left fun query _ =>
    query.answerIn_congr fun entity inNodes => byId_eq inNodes rfl

/-- Questions about every node, the last one first: an associative entity is asked
for before the entities that it refers to. -/
def backwards (d : Classified) : List d.Query :=
  d.nodes.reverse.flatMap fun node =>
    [.associativeReferences node, .weakOwner node, .participants node]

end Classified

open Classified

theorem ownedPair_answers_plain :
    ∃ d, ownedPair.classify = .ok d ∧ ∃ acyclic : d.KeysAcyclic,
      (d.backwards.mapM Query.ask).answer {} =
        d.backwards.map (·.answerIn (d.plainKey acyclic)) := by
  have checked : classifiesTo ownedPair (fun d => decide
      (∀ entity ∈ d.nodes, ∀ source ∈ d.keySources entity,
        d.nodes.idxOf source < d.nodes.idxOf entity)) = true := by decide +kernel
  obtain ⟨d, read, ordered⟩ := exists_of_classifiesTo checked
  have acyclic := keysAcyclic_of_order (of_decide_eq_true ordered)
  exact ⟨d, read, acyclic, answers_plain acyclic d.backwards #[]⟩

end EntitySchema
