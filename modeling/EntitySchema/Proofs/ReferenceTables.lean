/-
# EntitySchema.Proofs.ReferenceTables -- tables that are keyed by their references

The junction table of a many to many relationship and the table of an associative entity are
keyed alike: one foreign key for each participant, numbered in the order of the links, and a
primary key made of the columns of all foreign keys (`KeyedByReferences`).  The same entity may
take part several times and keys may have several columns; the columns are named together, so
none is used twice (`planReferences_spec`), and an associative entity names them beside its own
attributes.

`reference_tables_keyed` is the statement about a step in the middle of any run.
-/
import EntitySchema.Proofs.AnyRun
import EntitySchema.Proofs.Wholeness

namespace EntitySchema

open Inquiry

set_option autoImplicit false

/-! ## Keys made of references -/

/-- The columns and foreign keys of a table that is keyed by what it refers to. -/
structure KeyedByReferences (table : String) (ends : List KeyedEnd) (columns : List Column)
    (foreign : List ForeignKey) : Prop where
  refers : RefersTo table ends columns foreign
  names : foreign.map (·.constraint) = (List.range ends.length).map fun position =>
    if position = 0 then "FK_" ++ table else "FK" ++ toString (position + 1) ++ "_" ++ table
  distinct : (foreign.flatMap (·.columns)).Nodup
  notNull : ∀ column ∈ columns, column.notNull = true

theorem foreignKeyName_natCast (table : String) (position : Nat) :
    foreignKeyName table position =
      if position = 0 then "FK_" ++ table else "FK" ++ toString (position + 1) ++ "_" ++ table := by
  cases position with
  | zero => rfl
  | succ earlier =>
      have later : ((earlier + 1 : Nat) : Int) ≠ 0 := by omega
      rw [foreignKeyName, if_neg later, if_neg (Nat.succ_ne_zero earlier)]
      rfl

theorem map_constraint_foreignKeysOf (table : String) (references : List Reference) :
    (foreignKeysOf table references).map (·.constraint) =
      (List.range references.length).map fun position => foreignKeyName table (position : Nat) := by
  refine List.ext_getElem (by simp [foreignKeysOf]) fun position _ _ => ?_
  simp [foreignKeysOf]

/-- References to entities that have keys key a table, whatever was taken there. -/
theorem keyedByReferences_planReferences {ends : List KeyedEnd}
    (keyed : ∀ place ∈ ends, place.keys ≠ []) (taken : List String) (table : String) :
    KeyedByReferences table ends (referenceColumns (planReferences taken ends))
      (foreignKeysOf table (planReferences taken ends)) where
  refers := refersTo_planReferences keyed taken table
  names := by
    have count := congrArg List.length (map_target_planReferences keyed taken)
    rw [List.length_map] at count
    rw [map_constraint_foreignKeysOf, count]
    exact List.map_congr_left fun position _ => foreignKeyName_natCast table position
  distinct := by
    rw [flatMap_columns_foreignKeysOf]
    exact (planReferences_spec taken ends).1
  notNull _ := notNull_of_mem_referenceColumns

theorem planReferences_ne_nil {ends : List KeyedEnd} {taken : List String} (some : ends ≠ [])
    (keyed : ∀ place ∈ ends, place.keys ≠ []) : planReferences taken ends ≠ [] := by
  intro none
  have targets := map_target_planReferences keyed taken
  rw [none] at targets
  exact some targets.symm

/-! ## Many ends -/

/-- Two or more links, all of them to many. -/
theorem ofEnds_many {kinds : List ConnectionKind} (several : 2 ≤ kinds.length)
    (many : ∀ kind ∈ kinds, kind.isToMany = true) :
    Cardinality.ofEnds? kinds = some .manyToMany := by
  have all : kinds.countP (·.isToMany) = kinds.length := List.countP_eq_length.2 many
  have none : kinds.countP (·.isToOne) = 0 := by
    refine List.countP_eq_zero.2 fun kind mem => ?_
    have toMany := many kind mem
    cases kind <;> revert toMany <;> decide
  simp [Cardinality.ofEnds?, all, none, several]

namespace Classified

variable {d : Classified}

theorem encodingIn_of_many {keys : KeyTable} {node : Construct}
    (several : 2 ≤ (d.relationshipEnds keys node).length)
    (many : ∀ place ∈ d.relationshipEnds keys node, place.link.kind.isToMany = true)
    (keyed : ∀ place ∈ d.relationshipEnds keys node, place.keys ≠ []) :
    d.encodingIn keys node = .junction (d.relationshipEnds keys node) := by
  have matched : Cardinality.ofEnds? ((d.relationshipEnds keys node).map (·.link.kind)) =
      some .manyToMany :=
    ofEnds_many (by rwa [List.length_map]) (List.forall_mem_map.2 many)
  have keyless : (d.relationshipEnds keys node).any (·.keys.isEmpty) = false := by
    simpa using keyed
  rw [encodingIn, Encoding.ofEnds, matched]
  simp [keyless]

/-- A junction table is made without numbers and without reserving columns. -/
theorem numberedSketch_of_junction {message : String} {keys : KeyTable} {reserved : Reservations}
    {node : Construct} {ends : List KeyedEnd} (encoded : d.encodingIn keys node = .junction ends) :
    d.numberedSketch message keys reserved node =
      pure (.emit (junctionStatements d node ends), reserved) := by
  have spec := relationshipSketch_spec d keys reserved node
  have kept := reserved_relationshipSketch d keys reserved node
  rw [encoded] at spec kept
  rw [numberedSketch, spec.2, kept, (junctionSketch_yields node ends).number_eq, pure_bind]

/-- An associative entity refers to its participants if there are some and all have keys. -/
theorem referencesIn_of_keyed {keys : KeyTable} {entity : Construct}
    (some : d.participantsIn keys entity ≠ [])
    (keyed : ∀ place ∈ d.participantsIn keys entity, place.keys ≠ []) :
    d.referencesIn keys entity =
      planReferences (d.attributeColumns entity) (d.participantsIn keys entity) := by
  have complete : ((d.participantsIn keys entity).isEmpty
      || (d.participantsIn keys entity).any (·.keys.isEmpty)) = false := by
    simpa using And.intro some keyed
  rw [referencesIn, referencesOf, complete]
  rfl

/-- The keys of a relationship that is many to many, and those of an associative entity, whose
participants all have keys. -/
theorem reference_tables_keyed (d : Classified) :
    (∀ node ∈ d.ofKind .relationship, ∀ (message : String) (reserved : Reservations) (run : Run)
        (ends : List KeyedEnd),
      ((d.participants node).answer run.session).filter (·.link.kind.isCardinality) = ends →
      2 ≤ ends.length → (∀ place ∈ ends, place.link.kind.isToMany = true) →
      (∀ place ∈ ends, place.keys ≠ []) →
        ∃ columns foreign after, KeyedByReferences (junctionTable ends) ends columns foreign ∧
          outcome (relationship d message reserved node) run =
            (.ok (.emit (.createTable (junctionTable ends) (columns ++ d.storedColumns node)
              :: tableKeys (junctionTable ends) foreign (foreign.flatMap (·.columns))), reserved),
              after) ∧
          after.codes = run.codes) ∧
    (∀ entity ∈ d.ofKind .associativeEntity, ∀ (session : Session) (ends : List KeyedEnd),
      (d.participants entity).answer session = ends →
      ends ≠ [] → (∀ place ∈ ends, place.keys ≠ []) →
        ∃ columns foreign, KeyedByReferences (tableName entity.label) ends columns foreign ∧
          (foreign.flatMap (·.columns)).Disjoint (d.attributeColumns entity) ∧
          (associativeEntity d entity).answer session =
            .emit (columns.map (.addColumn (tableName entity.label))
              ++ tableKeys (tableName entity.label) foreign (foreign.flatMap (·.columns)))) := by
  constructor
  · rintro node listed message reserved run ends rfl several many keyed
    cases ran : outcome (relationship d message reserved node) run with
    | mk result after =>
        obtain ⟨same, made⟩ := relationship_ran listed ran
        rw [same] at several many keyed ⊢
        rw [numberedSketch_of_junction (encodingIn_of_many several many keyed), outcome_pure] at made
        obtain ⟨rfl, codes⟩ := Prod.mk.inj made
        refine ⟨_, _, after, keyedByReferences_planReferences keyed [] _, ?_, codes.symm⟩
        rw [junctionStatements, junctionKeys_eq]
        rfl
  · rintro entity - session ends rfl some keyed
    obtain ⟨same, yields⟩ := associativeEntity_ran (d := d) entity session
    obtain ⟨code, output⟩ := yields.eq_numbered ""
    rw [same] at some keyed ⊢
    have planned : d.referencesIn (.ofMemo ((associativeEntity d entity).memoAfter session)) entity =
        planReferences (d.attributeColumns entity)
          (d.participantsIn (.ofMemo ((associativeEntity d entity).memoAfter session)) entity) :=
      referencesIn_of_keyed some keyed
    refine ⟨_, _, keyedByReferences_planReferences keyed (d.attributeColumns entity) _, ?_, ?_⟩
    · rw [flatMap_columns_foreignKeysOf]
      exact (planReferences_spec _ _).2
    · rw [output, numbered_associativeSketch (planned ▸ planReferences_ne_nil some keyed), planned,
        associativeStatements, junctionKeys_eq]
      rfl

end Classified

open Classified

/-- An entity with a key of two columns that takes part twice in a relationship of three ends, and
an associative entity with an attribute that looks like a column for the first of them. -/
def sharedKeys : Diagram :=
  { nodes :=
      [.drawn "e" "E" "StrongEntity", .drawn "k" "k" "KeyAttribute",
       .drawn "l" "l" "KeyAttribute", .drawn "f" "F" "StrongEntity",
       .drawn "m" "m" "KeyAttribute", .drawn "r" "R" "Relationship",
       .drawn "x" "X" "AssociativeEntity", .drawn "a" "k-e" "Attribute"]
    connections :=
      [.drawn "1" "e" "k", .drawn "2" "e" "l", .drawn "3" "f" "m",
       .drawn "4" "r" "e" "SingleLineToMany", .drawn "5" "r" "f" "DoubleLineToMany",
       .drawn "6" "r" "e" "SingleLineToMany", .drawn "7" "x" "e" "SingleLineToMany",
       .drawn "8" "x" "f" "SingleLineToOne", .drawn "9" "x" "a"]
    node_ids_nodup := by decide
    connection_ids_nodup := by decide }

/-- The junction table has three foreign keys and the associative entity two. -/
theorem sharedKeys_keyed :
    ∃ d, sharedKeys.classify = .ok d ∧
      (∃ node ∈ d.ofKind .relationship, ∃ ends columns foreign after,
        ends.map (·.node.id) = ["e", "f", "e"] ∧ (∀ place ∈ ends, place.keys ≠ []) ∧
        KeyedByReferences (junctionTable ends) ends columns foreign ∧
        outcome (relationship d "" [] node) (Run.start 20000) =
          (.ok (.emit (.createTable (junctionTable ends) (columns ++ d.storedColumns node)
            :: tableKeys (junctionTable ends) foreign (foreign.flatMap (·.columns))), []), after)) ∧
      ∃ entity ∈ d.ofKind .associativeEntity, ∃ ends columns foreign,
        ends.map (·.node.id) = ["e", "f"] ∧ (∀ place ∈ ends, place.keys ≠ []) ∧
        d.attributeColumns entity = ["k-e"] ∧
        KeyedByReferences (tableName entity.label) ends columns foreign ∧
        (foreign.flatMap (·.columns)).Disjoint (d.attributeColumns entity) := by
  have checked : classifiesTo sharedKeys (fun d =>
      ((d.ofKind .relationship).any fun node =>
        let ends := ((d.participants node).answer {}).filter (·.link.kind.isCardinality)
        decide (ends.map (·.node.id) = ["e", "f", "e"] ∧
          (∀ place ∈ ends, place.link.kind.isToMany = true) ∧ ∀ place ∈ ends, place.keys ≠ []))
      && (d.ofKind .associativeEntity).any fun entity =>
        let ends := (d.participants entity).answer {}
        decide (ends.map (·.node.id) = ["e", "f"] ∧ (∀ place ∈ ends, place.keys ≠ []) ∧
          d.attributeColumns entity = ["k-e"])) = true := by decide +kernel
  obtain ⟨d, read, found⟩ := exists_of_classifiesTo checked
  obtain ⟨junction, associative⟩ := Bool.and_eq_true_iff.1 found
  obtain ⟨node, listed, holds⟩ := List.any_eq_true.1 junction
  obtain ⟨entity, listedToo, holdsToo⟩ := List.any_eq_true.1 associative
  obtain ⟨three, many, keyed⟩ := of_decide_eq_true holds
  obtain ⟨two, keyedToo, attributes⟩ := of_decide_eq_true holdsToo
  have count := congrArg List.length three
  rw [List.length_map] at count
  have several : 2 ≤ ["e", "f", "e"].length := by decide
  have some : (d.participants entity).answer {} ≠ [] := by
    intro none
    rw [none] at two
    simp at two
  obtain ⟨columns, foreign, after, keys, ran, _⟩ := (reference_tables_keyed d).1 node listed "" []
    (Run.start 20000) _ rfl (le_of_le_of_eq several count.symm) many keyed
  obtain ⟨others, foreignToo, keysToo, apart, _⟩ := (reference_tables_keyed d).2 entity listedToo {}
    _ rfl some keyedToo
  exact ⟨d, read, ⟨node, listed, _, columns, foreign, after, three, keyed, keys, ran⟩, entity,
    listedToo, _, others, foreignToo, two, keyedToo, attributes, keysToo, apart⟩

end EntitySchema
