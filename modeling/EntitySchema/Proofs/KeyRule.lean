/-
# EntitySchema.Proofs.KeyRule -- the keys of a run as equations

Whatever the diagram, the keys that a run ends with are `Settled`: each is
computed from the others, or from none where entities depend on each other in a
circle.  That fixes the keys of strong entities, and for the others what they are
made of.

Where no key depends on itself (`KeysAcyclic`), the keys are `Exact`: each is
computed from the others as they are.
-/
import EntitySchema.Proofs.Rendition
import Mathlib.Logic.Relation

namespace EntitySchema

open Inquiry
open Relation (TransGen)

set_option autoImplicit false

namespace Classified

/-! ## Settled keys -/

section Settled

/-- Each key is computed from the other keys, some of which may have been missing. -/
def Settled (d : Classified) (keys : KeyTable) : Prop :=
  ∀ entity ∈ d.nodes,
    d.KeyComputed (fun other found => found = [] ∨ keys other = found) entity (keys entity)

variable {d : Classified} {keys : KeyTable}

theorem Settled.strong (settled : d.Settled keys) {entity : Construct} (inNodes : entity ∈ d.nodes)
    (kind : entity.kind = .strongEntity) : keys entity = d.strongKeyOf entity :=
  (keyComputed_strong (by simp [kind]) (by simp [kind])).1 (settled entity inNodes)

theorem firstOwner_isSome_of_keyed {candidates : List OwnerCandidate} {candidate : OwnerCandidate}
    (mem : candidate ∈ candidates) (keyed : keys candidate.owner ≠ []) :
    ∃ owner, keys.firstOwner candidates = some owner := by
  induction candidates with
  | nil => simp at mem
  | cons first rest ih =>
      unfold KeyTable.firstOwner
      split
      · rename_i keyless
        rcases List.mem_cons.1 mem with rfl | mem
        · exact absurd (List.isEmpty_iff.1 keyless) keyed
        · exact ih mem
      · exact ⟨_, rfl⟩

theorem FirstOwner.mem_of_found {Tells : Construct → List Key → Prop}
    {candidates : List OwnerCandidate} {owner : KeyedEnd}
    (first : FirstOwner Tells candidates (some owner)) :
    ∃ candidate ∈ candidates, Tells candidate.owner owner.keys ∧ owner.keys ≠ [] := by
  generalize found : some owner = owner? at first
  induction first with
  | none => simp at found
  | @skip candidate _ _ _ _ ih =>
      obtain ⟨other, mem, told⟩ := ih found
      exact ⟨other, List.mem_cons_of_mem candidate mem, told⟩
  | @found candidate _ _ told keyed =>
      obtain rfl := Option.some.inj found
      exact ⟨candidate, List.mem_cons_self, told, keyed⟩

/-- A weak entity that has a key has a partial key before it and an owner. -/
theorem Settled.weak (settled : d.Settled keys) {weak : Construct} (inNodes : weak ∈ d.nodes)
    (kind : weak.kind = .weakEntity) (keyed : keys weak ≠ []) :
    ∃ partialKey owner, d.partialKey? weak = some partialKey ∧ d.ownerIn keys weak = some owner ∧
      keys weak = partialKey :: (keys weak).drop 1 := by
  obtain ⟨owner?, first, computed⟩ := (keyComputed_weak kind).1 (settled weak inNodes)
  cases owner? with
  | none => exact absurd computed keyed
  | some told =>
      cases found : d.partialKey? weak with
      | none => simp [computed, weakKeyOf, found] at keyed
      | some partialKey =>
          obtain ⟨candidate, mem, keyless | known, toldKeyed⟩ := first.mem_of_found
          · exact absurd keyless toldKeyed
          · obtain ⟨owner, owned⟩ := firstOwner_isSome_of_keyed mem (known ▸ toldKeyed)
            exact ⟨partialKey, owner, rfl, owned, by simp [computed, weakKeyOf, found]⟩

/-- Ends that have keys are told what the table says. -/
theorem endTells_of_keyed {neighbours : List (Link × Construct)} {ends : List KeyedEnd}
    (told : List.Forall₂ (EndTells fun other found => found = [] ∨ keys other = found)
      neighbours ends)
    (keyed : ∀ place ∈ ends, place.keys ≠ []) :
    List.Forall₂ (EndTells fun other found => keys other = found) neighbours ends := by
  induction told with
  | nil => exact .nil
  | @cons _ place _ _ told _ ih =>
      obtain ⟨node, link, keyless | known⟩ := told
      · exact absurd keyless (keyed place List.mem_cons_self)
      · exact .cons ⟨node, link, known⟩ (ih fun other mem =>
          keyed other (List.mem_cons_of_mem place mem))

/-- An associative entity that has a key is keyed by its references. -/
theorem Settled.associative (settled : d.Settled keys) {entity : Construct}
    (inNodes : entity ∈ d.nodes) (kind : entity.kind = .associativeEntity)
    (keyed : keys entity ≠ []) :
    keys entity = associativeKeyOf entity (d.referencesIn keys entity) := by
  obtain ⟨ends, told, computed⟩ := (keyComputed_associative kind).1 (settled entity inNodes)
  have allKeyed : ¬(ends.isEmpty || ends.any (·.keys.isEmpty)) = true := by
    intro keyless
    rw [computed, referencesOf, if_pos keyless] at keyed
    exact keyed rfl
  have same : ends = d.participantsIn keys entity := by
    refine eq_map_endAt (fun _ _ same => same) (endTells_of_keyed told fun place mem keyless => ?_)
    refine allKeyed (Bool.or_eq_true_iff.2 (.inr (List.any_eq_true.2 ⟨place, mem, ?_⟩)))
    simp [keyless]
  rw [computed, same]
  rfl

end Settled

/-! ## Exact keys -/

/-- The key of an entity may need the key of another: a weak entity those of the
entities at the far ends of its weak relationships, or of the superclass of a
generalization there, and an associative entity those of its participants. -/
inductive DependsOn (d : Classified) : Construct → Construct → Prop
  | owner {weak relationship owner : Construct} {near far : Link} :
      weak.kind = .weakEntity → (near, relationship) ∈ d.neighbours weak.id →
        relationship.kind = .weakRelationship → (far, owner) ∈ d.neighbours relationship.id →
          owner.id ≠ weak.id → owner.kind.isEntity = true → DependsOn d weak owner
  | ownerAbove {weak relationship generalization owner : Construct} {near far above : Link} :
      weak.kind = .weakEntity → (near, relationship) ∈ d.neighbours weak.id →
        relationship.kind = .weakRelationship →
          (far, generalization) ∈ d.neighbours relationship.id →
            generalization.kind.isGeneralization = true →
              d.superclassEnd? generalization = some (above, owner) → DependsOn d weak owner
  | participant {entity other : Construct} {link : Link} :
      entity.kind = .associativeEntity → (link, other) ∈ d.neighbours entity.id →
        other.kind.isEntity = true → other.id ≠ entity.id → DependsOn d entity other

/-- No key depends on itself. -/
def KeysAcyclic (d : Classified) : Prop := ∀ entity ∈ d.nodes, ¬TransGen d.DependsOn entity entity

/-- Each key is computed from the other keys. -/
def Exact (d : Classified) (keys : KeyTable) : Prop :=
  ∀ entity ∈ d.nodes, d.KeyComputed (fun other found => keys other = found) entity (keys entity)

variable {d : Classified}

theorem Exact.weak {keys : KeyTable} (exactly : d.Exact keys) {weak : Construct}
    (inNodes : weak ∈ d.nodes) (kind : weak.kind = .weakEntity) :
    keys weak = d.weakKeyOf weak (d.ownerIn keys weak) := by
  obtain ⟨owner?, first, computed⟩ := (keyComputed_weak kind).1 (exactly weak inNodes)
  rw [computed, first.eq_firstOwner fun _ _ same => same]
  rfl

theorem Exact.settled {keys : KeyTable} (exactly : d.Exact keys) : d.Settled keys :=
  fun entity inNodes => (exactly entity inNodes).mono fun _ _ same => .inr same

/-- An entity asks for no more keys than its relation of dependence allows. -/
theorem dependsOn_of_mem_keySources {entity source : Construct}
    (mem : source ∈ d.keySources entity) : d.DependsOn entity source := by
  unfold keySources at mem
  split at mem
  · rename_i kind
    obtain ⟨candidate, inCandidates, rfl⟩ := List.mem_map.1 mem
    obtain ⟨near, other, nearIn, farIn, apart, behind⟩ := mem_ownerCandidates_iff.1 inCandidates
    obtain ⟨nearIn, relationshipKind⟩ := mem_neighboursOf_iff.1 nearIn
    have weakRelationship : candidate.relationship.kind = .weakRelationship := by
      simpa using relationshipKind
    unfold ownerBehind? at behind
    split at behind
    · rename_i generalization
      obtain ⟨⟨above, _⟩, found, rfl⟩ := Option.map_eq_some_iff.1 behind
      exact .ownerAbove kind nearIn weakRelationship farIn generalization found
    · split at behind
      · rename_i isEntity
        obtain rfl := Option.some.inj behind
        exact .owner kind nearIn weakRelationship farIn apart isEntity
      · simp at behind
  · rename_i kind
    obtain ⟨⟨link, other⟩, inEnds, rfl⟩ := List.mem_map.1 mem
    obtain ⟨near, apart⟩ := List.mem_filter.1 inEnds
    obtain ⟨near, entityKind⟩ := mem_neighboursOf_iff.1 near
    exact .participant kind near entityKind (by simpa using apart)
  · simp at mem

/-- Every entity that an entity depends on is one of the sources of its key, so the list is neither
more nor less than the relation. -/
theorem mem_keySources_of_dependsOn {entity source : Construct} (inNodes : entity ∈ d.nodes)
    (asked : d.DependsOn entity source) : source ∈ d.keySources entity := by
  cases asked with
  | owner kind nearIn relationshipKind farIn apart isEntity =>
      have notGeneralization : source.kind.isGeneralization = false := by
        cases found : source.kind <;> simp_all [NodeKind.isEntity, NodeKind.isGeneralization]
      simp only [keySources, kind]
      refine List.mem_map.2 ⟨⟨_, _, source⟩, mem_ownerCandidates_iff.2 ⟨_, source,
        mem_neighboursOf_iff.2 ⟨nearIn, ?_⟩, farIn, apart, ?_⟩, rfl⟩
      · simp [relationshipKind]
      · simp [ownerBehind?, notGeneralization, isEntity]
  | ownerAbove kind nearIn relationshipKind farIn isGeneralization found =>
      simp only [keySources, kind]
      refine List.mem_map.2 ⟨⟨_, _, source⟩, mem_ownerCandidates_iff.2 ⟨_, _,
        mem_neighboursOf_iff.2 ⟨nearIn, ?_⟩, farIn, fun same => ?_, ?_⟩, rfl⟩
      · simp [relationshipKind]
      · obtain rfl := eq_of_id_eq (mem_nodes_of_mem_neighbours farIn) inNodes same
        have weak : (NodeKind.weakEntity).isGeneralization = true := kind ▸ isGeneralization
        simp [NodeKind.isGeneralization] at weak
      · simp [ownerBehind?, isGeneralization, found]
  | participant kind near isEntity apart =>
      simp only [keySources, kind]
      exact List.mem_map.2 ⟨(_, source), List.mem_filter.2
        ⟨mem_neighboursOf_iff.2 ⟨near, isEntity⟩, by simpa using apart⟩, rfl⟩

/-- No key depends on itself if the entities that a key needs are drawn before its own. -/
theorem keysAcyclic_of_order
    (ordered : ∀ entity ∈ d.nodes, ∀ source ∈ d.keySources entity,
      d.nodes.idxOf source < d.nodes.idxOf entity) : d.KeysAcyclic := by
  have falls : ∀ entity other, TransGen d.DependsOn entity other → entity ∈ d.nodes →
      d.nodes.idxOf other < d.nodes.idxOf entity := by
    intro entity other needs inNodes
    induction needs using TransGen.head_induction_on with
    | single asked => exact ordered _ inNodes _ (mem_keySources_of_dependsOn inNodes asked)
    | head asked _ ih =>
        have source := mem_keySources_of_dependsOn inNodes asked
        exact Nat.lt_trans (ih (mem_nodes_of_mem_keySources source)) (ordered _ inNodes _ source)
  exact fun entity inNodes needs => Nat.lt_irrefl _ (falls entity entity needs inNodes)

def Remembered (entity : Construct) (keys : List Key) (memo : Memo) : Prop :=
  memo.lookup entity.id = some keys

/-- While a key is being computed, its entity depends on every one that is asked for. -/
theorem answered_of_acyclic (acyclic : d.KeysAcyclic) :
    d.Answered (d.Founded Remembered d.ids) := by
  let Waits := fun (available : List String) (entity : Construct) =>
    ∀ other ∈ d.nodes, other.id ∉ available → TransGen d.DependsOn other entity
  have asksOn : ∀ available entity source, Waits available entity → entity ∈ d.nodes →
      source ∈ d.keySources entity → Waits (available.erase entity.id) source := by
    intro available entity source waits inNodes mem other otherIn busy
    have asked := dependsOn_of_mem_keySources mem
    by_cases itself : other.id = entity.id
    · obtain rfl := eq_of_id_eq otherIn inNodes itself
      exact .single asked
    · exact (waits other otherIn fun free =>
        busy ((List.mem_erase_of_ne itself).2 free)).tail asked
  have busy : ∀ available entity (memo : Memo), entity ∈ d.nodes → Waits available entity →
      entity.id ∉ available → Remembered entity [] memo :=
    fun available entity memo inNodes waits taken =>
      absurd (waits entity inNodes taken) (acyclic entity inNodes)
  have starts : ∀ entity ∈ d.nodes, Waits d.ids entity :=
    fun entity _ other otherIn taken => absurd (id_mem_ids otherIn) taken
  exact fun entity inNodes => @meets_tableKey d Remembered
    (fun _ _ _ known => known) Waits asksOn busy starts entity inNodes

/-! ## Linked associative entities -/

theorem mem_participantEnds_comm {entity other : Construct} {link : Link}
    (inNodes : entity ∈ d.nodes) (isEntity : entity.kind.isEntity = true)
    (linked : (link, other) ∈ d.participantEnds entity) :
    (link, entity) ∈ d.participantEnds other := by
  obtain ⟨near, apart⟩ := List.mem_filter.1 linked
  have back := mem_neighbours_comm inNodes (mem_neighboursOf_iff.1 near).1
  have apart : other.id ≠ entity.id := by simpa using apart
  exact List.mem_filter.2 ⟨mem_neighboursOf_iff.2 ⟨back, isEntity⟩, by simpa using apart.symm⟩

/-- An associative entity has no key while a participant's is not known yet. -/
theorem Built.keyless {memo : Memo} (built : d.Built Told memo) {entity other : Construct}
    {link : Link} (inNodes : entity ∈ d.nodes) (kind : entity.kind = .associativeEntity)
    (linked : (link, other) ∈ d.participantEnds entity) {keys : List Key}
    (known : memo.lookup entity.id = some keys) (unknown : memo.lookup other.id = none) :
    keys = [] := by
  induction built with
  | nil => simp at known
  | @remember memo newest found newestIn fresh computed _ ih =>
      have stillUnknown : memo.lookup other.id = none := by
        rw [List.lookup_cons] at unknown
        split at unknown
        · simp at unknown
        · exact unknown
      obtain ⟨rfl, rfl⟩ | ⟨_, earlier⟩ := lookup_remembered inNodes newestIn known
      · obtain ⟨ends, told, rfl⟩ := (keyComputed_associative kind).1 computed
        obtain ⟨place, placeIn, _, _, keyless | known⟩ := exists_of_mem_left told linked
        · have some : (ends.isEmpty || ends.any (·.keys.isEmpty)) = true :=
            Bool.or_eq_true_iff.2 (.inr (List.any_eq_true.2 ⟨place, placeIn, by simp [keyless]⟩))
          rw [referencesOf, if_pos some]
          rfl
        · rw [stillUnknown] at known
          simp at known
      · exact ih earlier stillUnknown

/-- Of two associative entities that take part in each other, the one whose key is
found first has none. -/
theorem Built.keyless_or {memo : Memo} (built : d.Built Told memo) {entity other : Construct}
    {link : Link} (inNodes : entity ∈ d.nodes) (otherIn : other ∈ d.nodes)
    (kind : entity.kind = .associativeEntity) (otherKind : other.kind = .associativeEntity)
    (linked : (link, other) ∈ d.participantEnds entity) {keys others : List Key}
    (known : memo.lookup entity.id = some keys) (otherKnown : memo.lookup other.id = some others) :
    keys = [] ∨ others = [] := by
  have back := mem_participantEnds_comm inNodes (by simp [kind, NodeKind.isEntity]) linked
  have apart : other.id ≠ entity.id := by simpa using (List.mem_filter.1 linked).2
  induction built with
  | nil => simp at known
  | remember newestIn fresh _ rest ih =>
      obtain ⟨rfl, _⟩ | ⟨_, earlier⟩ := lookup_remembered inNodes newestIn known
      · obtain ⟨rfl, _⟩ | ⟨_, otherEarlier⟩ := lookup_remembered otherIn newestIn otherKnown
        · exact absurd rfl apart
        · exact .inr (rest.keyless otherIn otherKind back otherEarlier fresh)
      · obtain ⟨rfl, _⟩ | ⟨_, otherEarlier⟩ := lookup_remembered otherIn newestIn otherKnown
        · exact .inl (rest.keyless inNodes kind linked earlier fresh)
        · exact ih earlier otherEarlier

/-- What holds of a key once it holds of all those that the key is computed from
holds of every remembered key, in whatever order the keys were found. -/
theorem Built.forall_remembered {memo : Memo} (built : d.Built Told memo)
    {Holds : Construct → List Key → Prop} (keyless : ∀ entity, Holds entity [])
    (step : ∀ entity ∈ d.nodes, ∀ keys,
      d.KeyComputed (fun other found => other ∈ d.nodes → Holds other found) entity keys →
        Holds entity keys)
    {entity : Construct} (inNodes : entity ∈ d.nodes) {keys : List Key}
    (known : memo.lookup entity.id = some keys) : Holds entity keys := by
  induction built generalizing entity keys with
  | nil => simp at known
  | @remember memo newest found newestIn _ computed _ ih =>
      obtain ⟨rfl, rfl⟩ | ⟨_, earlier⟩ := lookup_remembered inNodes newestIn known
      · refine step _ inNodes _ (computed.mono fun other keys told otherIn => ?_)
        obtain rfl | remembered := told
        · exact keyless other
        · exact ih otherIn remembered
      · exact ih inNodes earlier

/-! ## The keys of a run -/

variable {settings : Settings} {diagram : Diagram}

theorem settled_keysAfter (settings : Settings) (read : diagram.classify = .ok d) :
    d.Settled (keysAfter settings diagram d) :=
  fun _ inNodes => keysAfter_computed settings read inNodes

theorem exact_keysAfter (settings : Settings) (read : diagram.classify = .ok d)
    (acyclic : d.KeysAcyclic) : d.Exact (keysAfter settings diagram d) := by
  intro entity inNodes
  obtain ⟨_, founded, known⟩ :=
    closingMemo_spec settings read (answered_of_acyclic acyclic) (founded_nil _)
  have computed := founded.built.computed (fun _ _ _ _ known grows => grows _ _ known) inNodes
    (known entity inNodes)
  refine computed.mono fun other keys told => ?_
  exact KeyTable.ofMemo_holds _ _ _ told

/-- Of two associative entities that take part in each other, one has no key. -/
theorem keyless_of_linked (settings : Settings) (read : diagram.classify = .ok d)
    {entity other : Construct} {link : Link} (inNodes : entity ∈ d.nodes)
    (kind : entity.kind = .associativeEntity) (otherKind : other.kind = .associativeEntity)
    (linked : (link, other) ∈ d.participantEnds entity) :
    keysAfter settings diagram d entity = [] ∨ keysAfter settings diagram d other = [] := by
  have otherIn := (participant_spec linked).1
  obtain ⟨_, founded, known⟩ :=
    closingMemo_spec settings read (answered_told d) (founded_nil Told)
  exact founded.built.keyless_or inNodes otherIn kind otherKind linked (known entity inNodes)
    (known other otherIn)

/-- The keys of a run have what each key has once those it is computed from have it. -/
theorem keysAfter_induction (settings : Settings) (read : diagram.classify = .ok d)
    {Holds : Construct → List Key → Prop} (keyless : ∀ entity, Holds entity [])
    (step : ∀ entity ∈ d.nodes, ∀ keys,
      d.KeyComputed (fun other found => other ∈ d.nodes → Holds other found) entity keys →
        Holds entity keys)
    {entity : Construct} (inNodes : entity ∈ d.nodes) :
    Holds entity (keysAfter settings diagram d entity) := by
  obtain ⟨_, founded, known⟩ :=
    closingMemo_spec settings read (answered_told d) (founded_nil Told)
  exact founded.built.forall_remembered keyless step inNodes (known entity inNodes)

end Classified

end EntitySchema
