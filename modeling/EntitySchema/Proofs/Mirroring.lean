/-
# EntitySchema.Proofs.Mirroring -- questions about a copy have the same answers

Two sessions, one about a diagram and one about a copy of it, go on in step as long
as they are asked the same questions.  `Inquiry.Mirrors` says so of two inquiries:
where the memos are related, the answer of the second is the image of the first one's,
and the memos are related again.  It is closed under sequencing (`mirrors_bind`), each
part of the resolver has one such lemma, and `mirrors_tableKey` closes the
recursion; nothing is assumed about cycles, since an entity that is being computed
is met on both sides at the same time (`Copy.Matches`).

How the memos are related is left open but for what the resolver needs
(`Copy.Tracks`).  Two relations are used: that the memos are equal, for a diagram and
itself (`tracks_eq`), and that the memo of the copy holds the same keys and has
forgotten and learned nothing else since some earlier time (`Copy.Beside`).
-/
import EntitySchema.Proofs.Copy

namespace EntitySchema

set_option autoImplicit false

/-! ## Inquiries in step -/

namespace Inquiry

variable {α β γ δ : Type}

/-- From related memos the second inquiry has the image of the first one's answer, and
the memos are related after them. -/
def Mirrors (S : Memo → Memo → Prop) (F : α → β) (inquiry : Inquiry α) (image : Inquiry β) :
    Prop :=
  ∀ session other : Session, S session.resolved other.resolved →
    image.answer other = F (inquiry.answer session) ∧
      S (inquiry.memoAfter session) (image.memoAfter other)

variable {S : Memo → Memo → Prop}

theorem mirrors_pure {F : α → β} {a : α} {b : β} (same : b = F a) :
    Mirrors S F (pure a) (pure b) := fun _ _ related => ⟨same, related⟩

theorem mirrors_note {level other : Level} {component second : Component}
    {message text : String} :
    Mirrors S (fun _ => ()) (note level component message) (note other second text) :=
  fun _ _ related => ⟨rfl, related⟩

theorem mirrors_bind {first : Inquiry α} {image : Inquiry β} {F : α → β}
    {next : α → Inquiry γ} {imageNext : β → Inquiry δ} {G : γ → δ}
    (starts : Mirrors S F first image) (goesOn : ∀ a, Mirrors S G (next a) (imageNext (F a))) :
    Mirrors S G (first >>= next) (image >>= imageNext) := by
  intro session other related
  obtain ⟨answered, middle⟩ := starts session other related
  have onward := goesOn (first.answer session) (StateT.run first session).2
    (StateT.run image other).2 middle
  rw [← answered] at onward
  exact onward

theorem mirrors_mapM {items : List α} {f : α → β} {ask : α → Inquiry γ} {image : β → Inquiry δ}
    {F : γ → δ} (each : ∀ item ∈ items, Mirrors S F (ask item) (image (f item))) :
    Mirrors S (List.map F) (items.mapM ask) ((items.map f).mapM image) := by
  induction items with
  | nil => exact mirrors_pure rfl
  | cons item rest ih =>
      have others := ih fun other mem => each other (List.mem_cons_of_mem item mem)
      simp only [List.map_cons, List.mapM_cons]
      exact mirrors_bind (each item List.mem_cons_self) fun answer =>
        mirrors_bind others fun answers => mirrors_pure rfl

theorem mirrors_forM {items : List α} {f : α → β} {ask : α → Inquiry Unit}
    {image : β → Inquiry Unit}
    (each : ∀ item ∈ items, Mirrors S id (ask item) (image (f item))) :
    Mirrors S id (items.forM ask) ((items.map f).forM image) := by
  induction items with
  | nil => exact mirrors_pure rfl
  | cons item rest ih =>
      have others := ih fun other mem => each other (List.mem_cons_of_mem item mem)
      exact mirrors_bind (each item List.mem_cons_self) fun _ => others

end Inquiry

open Inquiry

namespace Classified

theorem associativeReferencesWith_eq (d : Classified) (lookup : KeyLookup) (entity : Construct) :
    d.associativeReferencesWith lookup entity = do
      return d.referencesOf entity (← d.participantsWith lookup entity) := by
  refine bind_congr fun ends => ?_
  rw [referencesOf]
  split <;> rfl

namespace Copy

variable {d e : Classified} (copy : Copy d e)

/-! ## Related memos -/

section Tracks

variable {β : Type}

/-- Related lists hold the same entries for nodes and their copies, and are related
still when a node and its copy get an entry. -/
structure Tracks (S : List (String × β) → List (String × β) → Prop) : Prop where
  lookup : ∀ {known image}, S known image → ∀ node ∈ d.nodes,
    image.lookup (copy.rename node.id) = known.lookup node.id
  cons : ∀ {known image}, S known image → ∀ node ∈ d.nodes, ∀ value,
    S ((node.id, value) :: known) ((copy.rename node.id, value) :: image)

/-- The image holds the entries of the copies and otherwise what it held at the start. -/
structure Beside (start known image : List (String × β)) : Prop where
  copied : ∀ node ∈ d.nodes, image.lookup (copy.rename node.id) = known.lookup node.id
  kept : ∀ id, (∀ node ∈ d.nodes, copy.rename node.id ≠ id) → image.lookup id = start.lookup id

/-- An entry for a node and its copy says nothing of other ids, so the image keeps all that it held
at the start under ids of its own. -/
theorem tracks_beside (start : List (String × β)) : copy.Tracks (copy.Beside start) where
  lookup related := related.copied
  cons related node inNodes value :=
    { copied := by
        intro other otherIn
        by_cases same : other.id = node.id
        · simp only [same, List.lookup_cons_self]
        · have apart := mt (copy.rename_eq_iff otherIn inNodes).1 same
          simp only [List.lookup_cons, beq_false_of_ne same, beq_false_of_ne apart]
          exact related.copied other otherIn
      kept := by
        intro id foreign
        have apart : id ≠ copy.rename node.id := (foreign node inNodes).symm
        simp only [List.lookup_cons, beq_false_of_ne apart]
        exact related.kept id foreign }

theorem tracks_eq (d : Classified) :
    (refl d).Tracks (Eq : List (String × β) → List (String × β) → Prop) where
  lookup same _ _ := by rw [same]; rfl
  cons same _ _ _ := by rw [same]; rfl

end Tracks

/-! ## The resolver -/

variable {copy} {S : Memo → Memo → Prop} {lookup image : KeyLookup}

/-- The search for an owner asks for the copies in the same order and stops at the same place. -/
theorem mirrors_firstOwnerWith {weak : Construct} {candidates : List OwnerCandidate}
    (asks : ∀ candidate ∈ candidates,
      Mirrors S id (lookup candidate.owner) (image (copy.node candidate.owner))) :
    Mirrors S (Option.map copy.place) (firstOwnerWith lookup weak candidates)
      (firstOwnerWith image (copy.node weak) (candidates.map copy.candidate)) := by
  induction candidates with
  | nil => exact mirrors_pure rfl
  | cons candidate rest ih =>
      have others := ih fun other mem => asks other (List.mem_cons_of_mem candidate mem)
      rw [List.map_cons, firstOwnerWith, firstOwnerWith]
      refine mirrors_bind (asks candidate List.mem_cons_self) fun keys => ?_
      by_cases keyless : keys.isEmpty
      · simp only [id_eq, if_pos keyless]
        exact others
      · simp only [id_eq, if_neg keyless]
        exact mirrors_bind mirrors_note fun _ => mirrors_pure rfl

theorem mirrors_keyedEndWith {neighbour : Link × Construct}
    (asks : Mirrors S id (lookup neighbour.2) (image (copy.node neighbour.2))) :
    Mirrors S copy.place (keyedEndWith lookup neighbour)
      (keyedEndWith image (copy.neighbour neighbour)) :=
  mirrors_bind asks fun _ => mirrors_pure rfl

variable {item : Construct} (inNodes : item ∈ d.nodes)

include inNodes

theorem mirrors_weakOwnerWith
    (asks : ∀ candidate ∈ d.ownerCandidates item,
      Mirrors S id (lookup candidate.owner) (image (copy.node candidate.owner))) :
    Mirrors S (Option.map copy.place) (d.weakOwnerWith lookup item)
      (e.weakOwnerWith image (copy.node item)) := by
  rw [weakOwnerWith, weakOwnerWith, copy.ownerCandidates_node inNodes]
  exact mirrors_firstOwnerWith asks

theorem mirrors_participantsWith
    (asks : ∀ neighbour ∈ d.participantEnds item,
      Mirrors S id (lookup neighbour.2) (image (copy.node neighbour.2))) :
    Mirrors S (List.map copy.place) (d.participantsWith lookup item)
      (e.participantsWith image (copy.node item)) := by
  rw [participantsWith, participantsWith, copy.participantEnds_node inNodes]
  exact mirrors_mapM fun neighbour mem => mirrors_keyedEndWith (asks neighbour mem)

theorem mirrors_associativeReferencesWith
    (asks : ∀ neighbour ∈ d.participantEnds item,
      Mirrors S id (lookup neighbour.2) (image (copy.node neighbour.2))) :
    Mirrors S (List.map copy.reference) (d.associativeReferencesWith lookup item)
      (e.associativeReferencesWith image (copy.node item)) := by
  rw [associativeReferencesWith_eq, associativeReferencesWith_eq]
  exact mirrors_bind (mirrors_participantsWith inNodes asks) fun ends =>
    mirrors_pure (copy.referencesOf_node inNodes ends)

/-- A key is computed from keys of other entities, so if these are mirrored the key is.  The cases
are the kinds of entities, in the order in which they are told apart. -/
theorem mirrors_computeKeyWith
    (asks : ∀ source ∈ d.keySources item, Mirrors S id (lookup source) (image (copy.node source))) :
    Mirrors S id (d.computeKeyWith lookup item) (e.computeKeyWith image (copy.node item)) := by
  cases kind : item.kind with
  | weakEntity =>
      simp only [keySources, kind, List.forall_mem_map] at asks
      simp only [computeKeyWith, node_kind, kind, copy.partialKey_node inNodes]
      refine mirrors_bind (mirrors_weakOwnerWith inNodes asks) fun owner? => ?_
      cases owner? <;> cases d.partialKey? item <;> exact mirrors_pure rfl
  | associativeEntity =>
      simp only [keySources, kind, List.forall_mem_map] at asks
      simp only [computeKeyWith, node_kind, kind]
      exact mirrors_bind (mirrors_associativeReferencesWith inNodes asks) fun references =>
        mirrors_pure (copy.associativeKeyOf_node item references)
  | _ =>
      simp only [computeKeyWith, node_kind, kind, copy.superclassOf_node inNodes,
        Option.isSome_map, copy.inheritedKey_node inNodes, copy.ownerKeys_node inNodes, node_label]
      split <;> exact mirrors_pure rfl

omit inNodes

/-- A key is looked up, computed or refused on both sides.  The induction is on the ids
that are available: each computation takes its own away. -/
theorem mirrors_keyAmong (tracks : copy.Tracks S) {available imageAvailable : List String}
    (left : copy.Matches available imageAvailable) {item : Construct} (inNodes : item ∈ d.nodes) :
    Mirrors S id (d.keyAmong available item) (e.keyAmong imageAvailable (copy.node item)) := by
  induction size : available.length using Nat.strongRecOn
    generalizing available imageAvailable item with
  | ind count ih =>
      intro session other related
      have sameEntry := tracks.lookup related item inNodes
      cases known : session.resolved.lookup item.id with
      | some keys =>
          have copyKnown : other.resolved.lookup (copy.node item).id = some keys :=
            sameEntry.trans known
          simp only [answer, memoAfter, keyAmong_of_known known, keyAmong_of_known copyKnown]
          exact ⟨rfl, related⟩
      | none =>
          have copyUnknown : other.resolved.lookup (copy.node item).id = none :=
            sameEntry.trans known
          by_cases free : item.id ∈ available
          · have copyFree : (copy.node item).id ∈ imageAvailable :=
              (left.mem_iff item inNodes).2 free
            have shorter : (available.erase item.id).length < count := by
              have taken := List.length_erase_of_mem free
              have some := List.length_pos_of_mem free
              omega
            have computed : Mirrors S id
                (d.computeKeyWith (d.keyAmong (available.erase item.id)) item)
                (e.computeKeyWith (e.keyAmong (imageAvailable.erase (copy.node item).id))
                  (copy.node item)) :=
              mirrors_computeKeyWith inNodes fun source mem =>
                ih _ shorter (left.erase inNodes) (mem_nodes_of_mem_keySources mem) rfl
            obtain ⟨answered, after⟩ := computed session other related
            simp only [answer, memoAfter, keyAmong_of_available known free,
              keyAmong_of_available copyUnknown copyFree] at answered after ⊢
            refine ⟨answered, ?_⟩
            rw [answered]
            exact tracks.cons after item inNodes _
          · have copyBusy : (copy.node item).id ∉ imageAvailable :=
              mt (left.mem_iff item inNodes).1 free
            obtain ⟨answered, untouched⟩ := keyAmong_of_busy (d := d) known free
            obtain ⟨copyAnswered, copyUntouched⟩ := keyAmong_of_busy (d := e) copyUnknown copyBusy
            rw [answered, untouched, copyAnswered, copyUntouched]
            exact ⟨rfl, related⟩

theorem mirrors_tableKey (tracks : copy.Tracks S) {item : Construct} (inNodes : item ∈ d.nodes) :
    Mirrors S id (d.tableKey item) (e.tableKey (copy.node item)) :=
  mirrors_keyAmong tracks matches_ids inNodes

/-! ## Questions from outside -/

variable (tracks : copy.Tracks S)

include tracks inNodes

theorem mirrors_weakOwner :
    Mirrors S (Option.map copy.place) (d.weakOwner? item) (e.weakOwner? (copy.node item)) :=
  mirrors_weakOwnerWith inNodes fun _ mem => mirrors_tableKey tracks (owner_spec mem).1

theorem mirrors_participants :
    Mirrors S (List.map copy.place) (d.participants item) (e.participants (copy.node item)) :=
  mirrors_participantsWith inNodes fun _ mem => mirrors_tableKey tracks (participant_spec mem).1

theorem mirrors_associativeReferences :
    Mirrors S (List.map copy.reference) (d.associativeReferences item)
      (e.associativeReferences (copy.node item)) :=
  mirrors_associativeReferencesWith inNodes fun _ mem =>
    mirrors_tableKey tracks (participant_spec mem).1

end Copy

end Classified

end EntitySchema
