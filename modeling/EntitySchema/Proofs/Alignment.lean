/-
# EntitySchema.Proofs.Alignment -- foreign keys whose columns match

A foreign key is aligned if it has columns and as many as it refers to.  All
that a script makes are, but for those of weak entities: there the columns come
from the remembered key of the weak entity and the columns referred to from an
owner that is looked for anew.

`foreign_keys_aligned_exactly` says when the two agree: each weak entity that gets
a key must have one column more than its owner.  Where no key depends on itself it
does.  Two weak entities in a chain depend on each other, and `weakChain` is one
that is drawn so that its first weak entity is keyed too early.
-/
import EntitySchema.Proofs.References

namespace EntitySchema

set_option autoImplicit false

/-- The foreign key has columns, and as many as it refers to. -/
def ForeignKey.Aligned (key : ForeignKey) : Prop :=
  key.columns ≠ [] ∧ key.columns.length = key.refColumns.length

theorem length_foreignColumns (taken : List String) (keys : List Key) :
    (foreignColumns taken keys).length = keys.length := by
  induction keys generalizing taken with
  | nil => rfl
  | cons key rest ih =>
      rw [foreignColumns]
      simp [ih]

theorem length_columns_of_planned {taken : List String} {ends : List KeyedEnd}
    {reference : Reference} (mem : reference ∈ planReferences taken ends) :
    reference.columns.length = reference.target.keys.length := by
  obtain ⟨_, _, before, columns⟩ := Classified.mem_planReferences mem
  rw [columns, length_foreignColumns]

namespace Classified

variable {d : Classified} {keys : KeyTable}

/-- A weak entity that gets a key has its partial key and one column for each of
its owner's. -/
def WeakKeysComplete (d : Classified) (keys : KeyTable) : Prop :=
  ∀ weak ∈ d.ofKind .weakEntity, ∀ partialKey owner, d.partialKey? weak = some partialKey →
    d.ownerIn keys weak = some owner → (keys weak).length = owner.keys.length + 1

theorem aligned_of_keys {key : ForeignKey} {place : KeyedEnd} {columns : List String}
    (keyed : place.keys ≠ []) (sameColumns : key.columns = columns)
    (sameRefs : key.refColumns = place.columns) (long : columns.length = place.keys.length) :
    key.Aligned := by
  have some : place.keys.length ≠ 0 := fun none => keyed (List.length_eq_zero_iff.1 none)
  refine ⟨fun empty => some ?_, ?_⟩
  · rw [← long, ← sameColumns, empty, List.length_nil]
  · rw [sameColumns, sameRefs, long, KeyedEnd.columns, List.length_map]

/-- The foreign key of a weak entity is aligned if the entity has one column more
than its owner. -/
theorem aligned_weak_iff {weak : Construct} {owner : KeyedEnd} (keyed : owner.keys ≠ [])
    {constraint : String} :
    ForeignKey.Aligned
        { table := tableName weak.label, constraint
          columns := ((keys weak).drop 1).map (·.column)
          refTable := owner.table, refColumns := owner.columns } ↔
      (keys weak).length = owner.keys.length + 1 := by
  have some : owner.keys.length ≠ 0 := fun none => keyed (List.length_eq_zero_iff.1 none)
  simp only [ForeignKey.Aligned, KeyedEnd.columns, List.length_map, List.length_drop, ne_eq,
    List.map_eq_nil_iff, List.drop_eq_nil_iff]
  omega

/-- Every foreign key is aligned if the weak entities have complete keys. -/
theorem Refers.aligned {sketch : Sketch} {site : Site} {target : Construct} {key : ForeignKey}
    (refers : d.Refers keys sketch site target key) (complete : d.WeakKeysComplete keys) :
    key.Aligned := by
  cases refers with
  | weakEntity inKind declared owned =>
      exact (aligned_weak_iff (places_of_ownerIn owned).2).2
        (complete _ inKind _ _ declared owned)
  | subtype _ _ _ _ rootKeyed usable =>
      refine ⟨by simpa using rootKeyed, ?_⟩
      simp [usable]
  | junction _ _ planned =>
      exact aligned_of_keys (mem_planReferences planned).2.1 rfl rfl
        (length_columns_of_planned planned)
  | embedding _ _ _ keyed => exact aligned_of_keys keyed rfl rfl (length_foreignColumns _ _)
  | associativeEntity _ planned =>
      have among := mem_referencesIn planned
      exact aligned_of_keys (mem_planReferences among).2.1 rfl rfl (length_columns_of_planned among)
  | multivaluedAttribute _ _ keyed =>
      refine ⟨by simpa using keyed, ?_⟩
      simp

/-- What a weak entity with a partial key and an owner makes. -/
theorem mem_weakKeySketch {weak : Construct} {partialKey : Key} {owner : KeyedEnd}
    (declared : d.partialKey? weak = some partialKey) (owned : d.ownerIn keys weak = some owner)
    {statement : Statement}
    (mem : statement ∈ weakKeyStatements (tableName weak.label) partialKey ((keys weak).drop 1)
      owner) : .of (.weakEntity weak) owner.node statement ∈ (d.weakKeySketch keys weak).parts := by
  simp only [weakKeySketch, declared, owned]
  exact List.mem_map_of_mem mem

/-- Keys that follow from each other are complete. -/
theorem Exact.weakKeysComplete (exactly : d.Exact keys) : d.WeakKeysComplete keys := by
  intro weak inKind partialKey owner declared owned
  obtain ⟨inNodes, kind⟩ := mem_ofKind_iff.1 inKind
  rw [exactly.weak inNodes kind, owned]
  simp [weakKeyOf, declared]

end Classified

/-! ## Scripts -/

open Classified

/-- All foreign keys of a script are aligned exactly when the weak entities have
complete keys; they have where no key depends on itself. -/
theorem foreign_keys_aligned_exactly {settings : Settings} {diagram : Diagram} {d : Classified}
    {result : CompileResult} (read : diagram.classify = .ok d)
    (compiled : compile settings diagram = .ok result) :
    ((∀ key, .addForeignKey key ∈ result.statements → key.Aligned) ↔
        d.WeakKeysComplete (keysAfter settings diagram d)) ∧
      (d.KeysAcyclic → ∀ key, .addForeignKey key ∈ result.statements → key.Aligned) := by
  have enough : d.WeakKeysComplete (keysAfter settings diagram d) →
      ∀ key, .addForeignKey key ∈ result.statements → key.Aligned := by
    intro complete key mem
    obtain ⟨_, _, _, _, _, _, refers⟩ := exists_refers_of_mem_statements read compiled mem
    exact refers.aligned complete
  refine ⟨⟨?_, enough⟩, fun acyclic =>
    enough (exact_keysAfter settings read acyclic).weakKeysComplete⟩
  intro aligned weak inKind partialKey owner declared owned
  have made := mem_weakKeySketch declared owned (mem_weakKeyStatements_iff.2 rfl)
  have inPhase : d.weakKeySketch (keysAfter settings diagram d) weak ∈
      Phase.sketches settings d (keysAfter settings diagram d) .partialKeys :=
    List.mem_map_of_mem inKind
  exact (aligned_weak_iff (places_of_ownerIn owned).2).1
    (aligned _ (Emits.mem_statements read compiled ⟨.partialKeys, _, inPhase, _, made, rfl⟩))

/-- A weak entity with a weak entity for its owner, drawn before it and its owner. -/
def weakChain : Diagram :=
  { nodes :=
      [.drawn "w" "W" "WeakEntity", .drawn "p" "p" "PartialKeyAttribute",
       .drawn "r" "R" "WeakRelationship", .drawn "a" "A" "WeakEntity",
       .drawn "q" "q" "PartialKeyAttribute", .drawn "o" "O" "WeakRelationship",
       .drawn "s" "S" "StrongEntity", .drawn "k" "k" "KeyAttribute"]
    connections :=
      [.drawn "1" "w" "p", .drawn "2" "w" "r", .drawn "3" "r" "a", .drawn "4" "a" "q",
       .drawn "5" "a" "o", .drawn "6" "o" "s", .drawn "7" "s" "k"]
    node_ids_nodup := by decide
    connection_ids_nodup := by decide }

def weakChainKey : ForeignKey :=
  { table := "W", constraint := "FK_W", columns := [], refTable := "A", refColumns := ["q", "k-s"] }

theorem weakChain_not_aligned :
    ¬∀ (settings : Settings) (diagram : Diagram) (result : CompileResult),
      compile settings diagram = .ok result →
        ∀ key, .addForeignKey key ∈ result.statements → key.Aligned := by
  intro aligned
  have found : scriptHolds {} weakChain (.addForeignKey weakChainKey) = true := by decide +kernel
  obtain ⟨result, compiled, made⟩ := mem_of_scriptHolds found
  obtain ⟨nonempty, _⟩ := aligned {} weakChain result compiled weakChainKey made
  exact nonempty rfl

/-- One weak entity and its owner. -/
def weakPair : Diagram :=
  { nodes :=
      [.drawn "w" "W" "WeakEntity", .drawn "p" "p" "PartialKeyAttribute",
       .drawn "r" "R" "WeakRelationship", .drawn "s" "S" "StrongEntity",
       .drawn "k" "k" "KeyAttribute"]
    connections :=
      [.drawn "1" "w" "p", .drawn "2" "w" "r", .drawn "3" "r" "s", .drawn "4" "s" "k"]
    node_ids_nodup := by decide
    connection_ids_nodup := by decide }

theorem weakPair_aligned_exactly :
    ∃ d result, weakPair.classify = .ok d ∧ compile {} weakPair = .ok result ∧
      ((∀ key, .addForeignKey key ∈ result.statements → key.Aligned) ↔
        d.WeakKeysComplete (keysAfter {} weakPair d)) ∧
      (d.KeysAcyclic → ∀ key, .addForeignKey key ∈ result.statements → key.Aligned) := by
  have found : scriptHolds {} weakPair (primaryKey "S" ["k"]) = true := by decide +kernel
  obtain ⟨result, compiled, _⟩ := mem_of_scriptHolds found
  obtain ⟨d, read⟩ := exists_classified compiled
  exact ⟨d, result, read, compiled, foreign_keys_aligned_exactly read compiled⟩

end EntitySchema
