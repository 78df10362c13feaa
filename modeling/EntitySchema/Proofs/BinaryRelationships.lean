/-
# EntitySchema.Proofs.BinaryRelationships -- how a relationship of two ends is embedded

A relationship with two ends, not both of them to many, becomes a foreign key in the table of
one of them.  Three choices are made by the kinds of the two links: which end holds the foreign
key, whether its columns may be empty, and whether triggers guard it.  `Embedding.Suits` says
how they are made, without regard to the order of the links where that must not matter.

The ends are looked for twice, once among the participants and once along the links of the
relationship; both find the same two (`exists_pair`), whatever else hangs off the relationship.
`binary_relationship_encoded` is the statement about a step from any run: with enough numbers
left it makes an embedding that suits the ends, and otherwise it fails.
-/
import EntitySchema.Proofs.AnyRun
import EntitySchema.Proofs.Wholeness

namespace EntitySchema

open Inquiry

set_option autoImplicit false

/-! ## Which end refers to which -/

/-- How two ends are embedded.  One to many, the many end refers to the other; it has to if it is
double, and is guarded if the other is.  One to one, the end that alone is double refers to the
other, or else the second to the first; it has to, and is guarded, if some end is double. -/
structure Embedding.Suits (how : Embedding) (first second : KeyedEnd) : Prop where
  sides : how.holder = first ∧ how.target = second ∨ how.holder = second ∧ how.target = first
  oneToMany : first.link.kind.isToMany = true ∨ second.link.kind.isToMany = true →
    how.oneToOne = false ∧ how.holder.link.kind.isToMany = true ∧
      how.notNull = how.holder.isDouble ∧ how.guarded = how.target.isDouble
  oneToOne : first.link.kind.isToOne = true ∧ second.link.kind.isToOne = true →
    how.oneToOne = true ∧ how.notNull = (first.isDouble || second.isDouble) ∧
      how.guarded = (first.isDouble || second.isDouble) ∧
      (first.isDouble ≠ second.isDouble → how.holder.isDouble = true) ∧
      (first.isDouble = second.isDouble → how.holder = second)

/-- How many numbers the triggers of an embedding take. -/
def Embedding.raises (how : Embedding) : Nat :=
  if how.guarded then (if how.oneToOne then 6 else 5) else 0

section Ends

variable {first second : KeyedEnd}

/-- Two links that carry a cardinality are not both to many, so they have one that is embedded. -/
theorem ofEnds_pair {one other : ConnectionKind} (labelled : one.isCardinality = true)
    (labelledToo : other.isCardinality = true)
    (notMany : ¬(one.isToMany = true ∧ other.isToMany = true)) :
    Cardinality.ofEnds? [one, other] =
      some (if one.isToMany = true ∨ other.isToMany = true then .oneToMany else .oneToOne) := by
  cases one <;> cases other <;> revert labelled labelledToo notMany <;> decide

/-- No link is both to one and to many. -/
theorem ConnectionKind.isToOne_eq (kind : ConnectionKind) (labelled : kind.isCardinality = true) :
    kind.isToOne = !kind.isToMany := by
  cases kind <;> revert labelled <;> decide

/-- The choice of the holder and of what is guarded, case by case over the kinds of the two links.
-/
theorem suits_ofPair (labelled : first.link.kind.isCardinality = true)
    (labelledToo : second.link.kind.isCardinality = true) :
    (Embedding.ofPair first second
      (if first.link.kind.isToMany = true ∨ second.link.kind.isToMany = true then .oneToMany
        else .oneToOne)).Suits first second := by
  have ones := first.link.kind.isToOne_eq labelled
  have onesToo := second.link.kind.isToOne_eq labelledToo
  cases many : first.link.kind.isToMany with
  | true =>
      rw [many] at ones
      have holder : Embedding.ofPair first second .oneToMany =
          { holder := first, target := second, notNull := first.isDouble
            guarded := second.isDouble, oneToOne := false } := by simp [Embedding.ofPair, many]
      rw [if_pos (.inl rfl), holder]
      exact ⟨.inl ⟨rfl, rfl⟩, fun _ => ⟨rfl, many, rfl, rfl⟩, fun both => by simp [ones] at both⟩
  | false =>
      cases manyToo : second.link.kind.isToMany with
      | true =>
          rw [manyToo] at onesToo
          have holder : Embedding.ofPair first second .oneToMany =
              { holder := second, target := first, notNull := second.isDouble
                guarded := first.isDouble, oneToOne := false } := by simp [Embedding.ofPair, many]
          rw [if_pos (.inr rfl), holder]
          exact ⟨.inr ⟨rfl, rfl⟩, fun _ => ⟨rfl, manyToo, rfl, rfl⟩,
            fun both => by simp [onesToo] at both⟩
      | false =>
          rw [if_neg (by simp)]
          have single : ∀ one : first.link.kind.isToMany = true ∨ second.link.kind.isToMany = true,
              False := by simp [many, manyToo]
          cases double : first.isDouble <;> cases doubleToo : second.isDouble <;>
            exact ⟨by simp [Embedding.ofPair, double, doubleToo], fun one => (single one).elim,
              fun _ => by simp [Embedding.ofPair, double, doubleToo]⟩

end Ends

/-! ## Encoded relationships -/

namespace Classified

variable {d : Classified}

/-- The triggers of an embedding whose foreign key has some columns: if it is guarded, that of the
target and then that of the holder, which is autonomous. -/
structure GuardsEmbedding (message : String) (node : Construct) (how : Embedding)
    (columns : List String) (code : Int) (triggers : List Trigger) : Prop where
  issued : triggers = issuedFrom message code
    (if how.guarded then
      [targetPlan (tableName node.label) how.holder how.target { target := how.target, columns },
       holderPlan (tableName node.label) how.holder { target := how.target, columns } how.oneToOne]
    else [])
  places : triggers.map (fun trigger => (trigger.table, trigger.autonomous)) =
    if how.guarded then [(how.target.table, false), (how.holder.table, true)] else []
  codes : triggers.flatMap (·.errorCodes) = codesFrom code how.raises

/-- What a relationship that is embedded has made: the columns that refer to the whole key of the
target, its own attributes, the foreign key and the triggers. -/
def EmbeddedAs (d : Classified) (message : String) (node : Construct) (how : Embedding) (code : Int)
    (statements : List Statement) : Prop :=
  ∃ columns key triggers, RefersTo how.holder.table [how.target] columns [key] ∧
    (∀ column ∈ columns, column.notNull = how.notNull) ∧ key.deferrable = how.guarded ∧
    GuardsEmbedding message node how key.columns code triggers ∧
    statements = (columns ++ d.storedColumns node).map (.addColumn how.holder.table)
      ++ [.addForeignKey key] ++ triggers.map .createTrigger

theorem sum_rules_embeddingPlans (node : Construct) (how : Embedding) (reference : Reference) :
    ((embeddingPlans node how reference).map fun plan => plan.rules.length).sum = how.raises := by
  unfold embeddingPlans Embedding.raises
  cases how.guarded <;> cases oneToOne : how.oneToOne <;> simp [targetPlan, holderPlan]

theorem guardsEmbedding_issuedFrom (message : String) (node : Construct) (how : Embedding)
    (columns : List String) (code : Int) :
    GuardsEmbedding message node how columns code
      (issuedFrom message code (embeddingPlans node how { target := how.target, columns })) where
  issued := rfl
  places := by
    unfold embeddingPlans
    cases how.guarded <;> rfl
  codes := by
    rw [← sum_rules_embeddingPlans node how { target := how.target, columns }]
    exact flatMap_errorCodes_issuedFrom message code _

theorem raisesIn_embeddingSketch (node : Construct) (how : Embedding) (reference : Reference) :
    raisesIn (d.embeddingSketch node how reference).parts = how.raises := by
  rw [embeddingSketch, raisesIn_append, raisesIn_plans, sum_rules_embeddingPlans,
    raisesIn_of_unplanned (Part.trigger_not_mem_map_of _ _ _), Nat.zero_add]

/-- What an embedding has made when its triggers have numbers. -/
theorem embeddedAs_numbered (message : String) (node : Construct) (how : Embedding)
    (taken : List String) (code : Int) :
    d.EmbeddedAs message node how code
      ((d.embeddingSketch node how (embeddedReference taken how)).numbered message
        code).statements := by
  obtain ⟨columns, key, refers, notNull, deferrable, reference, statements⟩ :=
    embeddingStatements_spec d node how taken
  rw [numbered_embeddingSketch, statements, reference]
  exact ⟨columns, key, _, refers, notNull, deferrable, guardsEmbedding_issuedFrom _ _ _ _ _, rfl⟩

variable {node : Construct} {first second : KeyedEnd}

/-- Two ends that are not both to many, whatever the keys are, make an embedding that suits them. -/
theorem exists_cardinality {keys : KeyTable}
    (two : d.relationshipEnds keys node = [first, second])
    (notMany : ¬(first.link.kind.isToMany = true ∧ second.link.kind.isToMany = true)) :
    ∃ cardinality, cardinality ≠ .manyToMany ∧
      Cardinality.ofEnds? ((d.relationshipEnds keys node).map (·.link.kind)) = some cardinality ∧
      (Embedding.ofPair first second cardinality).Suits first second := by
  have labelled : ∀ place ∈ [first, second], place.link.kind.isCardinality = true := by
    intro place mem
    rw [← two] at mem
    exact (List.mem_filter.1 mem).2
  have one := labelled first (by simp)
  have other := labelled second (by simp)
  refine ⟨_, ?_, by rw [two]; exact ofEnds_pair one other notMany, suits_ofPair one other⟩
  split <;> simp

/-- Asked for after the participants, the pair is the two ends that were found among them. -/
theorem pair_eq_participants (listed : node ∈ d.ofKind .relationship) {before session : Session}
    (two : ((d.participants node).answer before).filter (·.link.kind.isCardinality) =
      [first, second])
    (notMany : ¬(first.link.kind.isToMany = true ∧ second.link.kind.isToMany = true))
    (grows : Memo.Grows ((d.participants node).memoAfter before) session.resolved) :
    (d.keyedPair? node (d.linksOf node.id) leadsToParticipant).answer session =
      some (first, second) := by
  obtain ⟨inNodes, kind⟩ := mem_ofKind_iff.1 listed
  have near := (answered_always d).participants node
  have nearEnds : ∀ neighbour ∈ farEnds node leadsToParticipant (d.linksOf node.id),
      d.AnsweredAt (fun _ => True) neighbour.2 := by
    rw [farEnds_relationship inNodes kind]
    exact fun neighbour mem => near neighbour (List.mem_filter.1 mem).1
  obtain ⟨growsOn, _, paired⟩ := reads_keyedPair nearEnds session trivial
  obtain ⟨_, _, read⟩ := reads_participants near before trivial
  let keys := KeyTable.ofMemo
    ((d.keyedPair? node (d.linksOf node.id) leadsToParticipant).memoAfter session)
  have ends : d.relationshipEnds keys node = [first, second] := by
    rw [← two, read _ (grows.trans growsOn) keys (KeyTable.ofMemo_holds _)]
    rfl
  obtain ⟨cardinality, oneSided, found, _⟩ := exists_cardinality ends notMany
  obtain ⟨one, other, same, pair⟩ := exists_pair keys inNodes kind found oneSided
  obtain ⟨rfl, rfl⟩ : one = first ∧ other = second := by simpa using same.symm.trans ends
  exact (paired _ (.refl _) keys (KeyTable.ofMemo_holds _)).trans pair

/-- A relationship of two ends with keys, not both of them to many: its pair is the two ends in
the order of their links, and it is embedded as suits them, unless numbers run out. -/
theorem binary_relationship_encoded (message : String) (reserved : Reservations) (run : Run)
    (listed : node ∈ d.ofKind .relationship)
    (two : ((d.participants node).answer run.session).filter (·.link.kind.isCardinality) =
      [first, second])
    (keyed : first.keys ≠ [] ∧ second.keys ≠ [])
    (notMany : ¬(first.link.kind.isToMany = true ∧ second.link.kind.isToMany = true)) :
    (∀ session : Session, Memo.Grows ((d.participants node).memoAfter run.session) session.resolved →
      (d.keyedPair? node (d.linksOf node.id) leadsToParticipant).answer session =
        some (first, second)) ∧
      ∃ how : Embedding, how.Suits first second ∧
        (run.codes.Room how.raises → ∃ output reservedAfter after,
          outcome (relationship d message reserved node) run = (.ok (output, reservedAfter), after) ∧
            d.EmbeddedAs message node how run.codes.next output.statements ∧ output.issues = [] ∧
            after.codes = run.codes.advance how.raises) ∧
        (¬run.codes.Room how.raises → ∃ codes after,
          outcome (relationship d message reserved node) run =
            (.error (.codesExhausted codes), after)) := by
  refine ⟨fun session grows => pair_eq_participants listed two notMany grows, ?_⟩
  cases ran : outcome (relationship d message reserved node) run with
  | mk result after =>
      obtain ⟨ends, made⟩ := relationship_ran listed ran
      rw [two] at ends
      obtain ⟨cardinality, oneSided, found, suits⟩ := exists_cardinality ends.symm notMany
      have encoded : d.encodingIn after.keys node =
          .embedding (Embedding.ofPair first second cardinality) := by
        have keyless : [first, second].any (·.keys.isEmpty) = false := by simp [keyed]
        rw [encodingIn, Encoding.ofEnds, found, ← ends]
        simp only [keyless, oneSided, Bool.false_eq_true, if_false]
      have spec := relationshipSketch_spec d after.keys reserved node
      rw [encoded] at spec
      have numbers := numbers_numberedSketch (d := d) message after.keys reserved node
      have raises := congrArg (fun sketch => raisesIn sketch.parts) spec
      rw [raisesIn_embeddingSketch] at raises
      refine ⟨_, suits, fun room => ?_, fun short => ?_⟩
      · have finished := numbers.enough _ (raises ▸ room)
        rw [made, raises] at finished
        obtain ⟨rfl, codes⟩ := Prod.mk.inj finished
        refine ⟨_, _, after, rfl, ?_, ?_, codes⟩
        · rw [spec]
          exact embeddedAs_numbered message node _ _ _
        · rw [spec]
          rfl
      · obtain ⟨_, _, _, _, failed⟩ := numbers.short _ (raises ▸ short)
        rw [made] at failed
        obtain ⟨rfl, _⟩ := Prod.mk.inj failed
        exact ⟨_, after, rfl⟩

end Classified

open Classified

/-- An entity with a key of two columns and a relationship between two of its rows, one to many,
with an attribute; the end that is referred to takes part totally and is drawn first. -/
def managed : Diagram :=
  { nodes :=
      [.drawn "e" "E" "StrongEntity", .drawn "k" "k" "KeyAttribute",
       .drawn "l" "l" "KeyAttribute", .drawn "r" "R" "Relationship",
       .drawn "a" "since" "Attribute"]
    connections :=
      [.drawn "1" "e" "k", .drawn "2" "e" "l", .drawn "3" "r" "e" "DoubleLineToOne",
       .drawn "4" "r" "a", .drawn "5" "r" "e" "SingleLineToMany"]
    node_ids_nodup := by decide
    connection_ids_nodup := by decide }

/-- Both ends are the same entity; the second holds the foreign key, since it is the many end. -/
theorem managed_encoded :
    ∃ d, managed.classify = .ok d ∧ ∃ node ∈ d.ofKind .relationship, ∃ first second : KeyedEnd,
      ((d.participants node).answer {}).filter (·.link.kind.isCardinality) = [first, second] ∧
      (first.keys ≠ [] ∧ second.keys ≠ []) ∧
      ¬(first.link.kind.isToMany = true ∧ second.link.kind.isToMany = true) ∧
      first.node = second.node ∧ second.link.kind.isToMany = true ∧
      ∃ how output reservedAfter after, how.Suits first second ∧
        outcome (relationship d "" [] node) (Run.start 20000) =
          (.ok (output, reservedAfter), after) ∧
        d.EmbeddedAs "" node how 20000 output.statements := by
  have checked : classifiesTo managed (fun d => (d.ofKind .relationship).any fun node =>
      let ends := ((d.participants node).answer {}).filter (·.link.kind.isCardinality)
      decide (ends.map (·.link.kind.isToMany) = [false, true] ∧
        (∀ place ∈ ends, place.keys ≠ []) ∧
        ∀ place ∈ ends, ∀ other ∈ ends, place.node = other.node)) = true := by decide +kernel
  obtain ⟨d, read, found⟩ := exists_of_classifiesTo checked
  obtain ⟨node, listed, holds⟩ := List.any_eq_true.1 found
  obtain ⟨kinds, keys, same⟩ := of_decide_eq_true holds
  have count := congrArg List.length kinds
  rw [List.length_map] at count
  obtain ⟨first, second, two⟩ := List.length_eq_two.1 count
  rw [two] at kinds keys same
  obtain ⟨one, many⟩ : first.link.kind.isToMany = false ∧ second.link.kind.isToMany = true := by
    simpa using kinds
  have keyed : first.keys ≠ [] ∧ second.keys ≠ [] := ⟨keys first (by simp), keys second (by simp)⟩
  have notMany : ¬(first.link.kind.isToMany = true ∧ second.link.kind.isToMany = true) := by
    simp [one]
  obtain ⟨_, how, suits, made, _⟩ :=
    binary_relationship_encoded "" [] (Run.start 20000) listed two keyed notMany
  have few : how.raises ≤ 6 := by
    unfold Embedding.raises
    split
    · split <;> decide
    · decide
  have room : (Run.start 20000).codes.Room how.raises := by
    simp only [ErrorCodes.Room, ErrorCodes.next, Run.start, lastErrorCode]
    omega
  obtain ⟨output, reservedAfter, after, ran, embedded, _, _⟩ := made room
  exact ⟨d, read, node, listed, first, second, two, keyed, notMany,
    same first (by simp) second (by simp), many, how, output, reservedAfter, after, suits, ran,
    embedded⟩

end EntitySchema
