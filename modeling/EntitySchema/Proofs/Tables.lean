/-
# EntitySchema.Proofs.Tables -- the tables that a script creates

A script creates the tables of entities, the junction tables of relationships
(`Classified.junctionTables`) and the child tables of multivalued attributes
(`Classified.childTables`), and no others (`createdTables_perm`).

Entities have different tables by assumption; the other tables are named after
entities, so they may be named alike.  A table that is created once belongs to one
entity, one relationship or one attribute (`Classified.owns_of_created_once`).
-/
import EntitySchema.Proofs.EmissionOrder
import EntitySchema.Proofs.Skimming

namespace EntitySchema

set_option autoImplicit false

/-! ## Tables of a script -/

def createdTables (statements : List Statement) : List String :=
  statements.filterMap (·.created?)

theorem createdTables_eq_flatMap (statements : List Statement) :
    createdTables statements = statements.flatMap (·.created?.toList) :=
  List.filterMap_eq_flatMap_toList _ _

theorem skims_created : Skims (·.created?.toList) where
  trigger _ := rfl
  view _ _ := rfl

namespace Classified

variable {d : Classified} {keys : KeyTable}

def junctionOf (d : Classified) (keys : KeyTable) (node : Construct) : List String :=
  match d.encodingIn keys node with
  | .junction ends => [junctionTable ends]
  | _ => []

def childTable (item owner : Construct) : String :=
  tableName owner.label ++ "_" ++ tableName item.label

/-- The child table of a multivalued attribute, if it has one. -/
def childOf (d : Classified) (keys : KeyTable) (item : Construct) : List String :=
  (d.childOwner? keys item).toList.map (childTable item)

def junctionTables (d : Classified) (keys : KeyTable) : List String :=
  (d.ofKind .relationship).flatMap (d.junctionOf keys)

def childTables (d : Classified) (keys : KeyTable) : List String :=
  (d.ofKind .multivaluedAttribute).flatMap (d.childOf keys)

def entityTables (d : Classified) : List String := (d.ofKinds (·.isEntity)).map (tableName ·.label)

theorem exists_of_mem_junctionOf {table : String} {node : Construct}
    (made : table ∈ d.junctionOf keys node) :
    ∃ ends, d.encodingIn keys node = .junction ends ∧ junctionTable ends = table := by
  unfold junctionOf at made
  split at made
  · rename_i ends encoded
    exact ⟨ends, encoded, (List.mem_singleton.1 made).symm⟩
  · simp at made

theorem exists_of_mem_childOf {table : String} {item : Construct}
    (made : table ∈ d.childOf keys item) :
    ∃ owner, d.childOwner? keys item = some owner ∧ childTable item owner = table := by
  obtain ⟨owner, owned, same⟩ := List.mem_map.1 made
  exact ⟨owner, Option.mem_toList.1 owned, same⟩

theorem mem_junctionTables {node : Construct} {ends : List KeyedEnd}
    (nodeIn : node ∈ d.ofKind .relationship) (encoded : d.encodingIn keys node = .junction ends) :
    junctionTable ends ∈ d.junctionTables keys := by
  refine List.mem_flatMap.2 ⟨node, nodeIn, ?_⟩
  rw [junctionOf, encoded]
  exact List.mem_singleton_self _

theorem mem_childTables {item owner : Construct} (itemIn : item ∈ d.ofKind .multivaluedAttribute)
    (owned : d.childOwner? keys item = some owner) :
    childTable item owner ∈ d.childTables keys := by
  refine List.mem_flatMap.2 ⟨item, itemIn, ?_⟩
  simp [childOf, owned]

/-! ## The tables of a construct -/

/-- An alteration of a table creates none. -/
theorem created_of_alters (table : String) (statement : Statement)
    (alters : statement.Alters table) : statement.created?.toList = [] := by
  cases statement with
  | createTable => exact alters.elim
  | _ => rfl

theorem created_generalizationSketch (d : Classified) (keys : KeyTable)
    (generalization : Construct) :
    (d.generalizationSketch keys generalization).statements.flatMap (·.created?.toList) = [] := by
  rw [statements_generalizationSketch]
  cases d.superclassEnd? generalization with
  | none => rfl
  | some above =>
      dsimp only
      split
      · rfl
      · rw [List.flatMap_append, flatMap_subtypeKeyStatements_of_alters created_of_alters,
          List.flatMap_map]
        exact flatMap_nothing _

/-- A relationship creates a table exactly when it is encoded as a junction. -/
theorem created_relationshipSketch (d : Classified) (keys : KeyTable) (reserved : Reservations)
    (node : Construct) :
    (d.relationshipSketch keys reserved node).1.statements.flatMap (·.created?.toList) =
      d.junctionOf keys node := by
  rw [statements_relationshipSketch, junctionOf]
  cases d.encodingIn keys node with
  | leftOut => rfl
  | junction ends =>
      dsimp only
      rw [junctionStatements, List.flatMap_cons,
        flatMap_eq_nil_of_alters (created_of_alters _) fun _ => alters_of_mem_junctionKeys]
      rfl
  | embedding how =>
      dsimp only
      rw [List.flatMap_append, flatMap_eq_nil_of_alters (created_of_alters _) fun _ =>
        alters_of_mem_embeddingStatements, List.nil_append, List.flatMap_map]
      exact flatMap_nothing _

theorem created_multivaluedSketch (surrogateType : String) (item : Construct) :
    (d.multivaluedSketch keys surrogateType item).statements.flatMap (·.created?.toList) =
      d.childOf keys item := by
  rw [statements_multivaluedSketch, childOf]
  cases d.childOwner? keys item <;> rfl

/-! ## The tables of a run -/

variable {settings : Settings} {diagram : Diagram} {result : CompileResult}

/-- The tables of associative entities come last, but none is missing and none comes twice. -/
theorem ofKinds_perm (d : Classified) :
    (d.ofKinds ownedKinds.contains ++ d.ofKind .associativeEntity).Perm
      (d.ofKinds (·.isEntity)) := by
  have owned : (d.ofKinds (·.isEntity)).filter (ownedKinds.contains ·.kind) =
      d.ofKinds ownedKinds.contains := by
    rw [ofKinds, List.filter_filter]
    apply List.filter_congr
    intro node _
    cases node.kind <;> rfl
  have associative : (d.ofKinds (·.isEntity)).filter (!ownedKinds.contains ·.kind) =
      d.ofKind .associativeEntity := by
    rw [ofKinds, List.filter_filter]
    apply List.filter_congr
    intro node _
    cases node.kind <;> rfl
  rw [← owned, ← associative]
  exact List.filter_append_perm _ _

/-- A script creates the tables of entities, junction tables and child tables. -/
theorem createdTables_perm (read : diagram.classify = .ok d)
    (compiled : compile settings diagram = .ok result) :
    (createdTables result.statements).Perm
      (d.entityTables ++ d.junctionTables (keysAfter settings diagram d)
        ++ d.childTables (keysAfter settings diagram d)) := by
  have tables : ∀ entity, (d.tableStatement entity).created?.toList = [tableName entity.label] :=
    fun _ => rfl
  have relationships := flatMap_relationshipSketches
    (created_relationshipSketch d (keysAfter settings diagram d)) []
    (d.ofKind .relationship)
  rw [createdTables_eq_flatMap, skims_created.flatMap_statements read compiled]
  simp only [tables, flatMap_strongKeySketch_of_alters created_of_alters,
    flatMap_weakKeySketch_of_alters created_of_alters, created_generalizationSketch, relationships,
    flatMap_associativeSketch_of_alters created_of_alters, created_multivaluedSketch,
    flatMap_nothing, List.append_nil, ← List.map_eq_flatMap]
  have entities := (ofKinds_perm d).map (tableName ·.label)
  rw [List.map_append] at entities
  exact (entities.append_right _).append_right _

/-! ## Tables that are created once -/

/-- What is contributed once has one contributor. -/
theorem exists_of_count_flatMap {α : Type} {items : List α} {contribution : α → List String}
    {name : String} (once : (items.flatMap contribution).count name = 1) :
    ∃ item ∈ items, name ∈ contribution item ∧
      ∀ other ∈ items, other ≠ item → name ∉ contribution other := by
  have mem : name ∈ items.flatMap contribution := List.count_pos_iff.1 (by omega)
  obtain ⟨item, itemIn, made⟩ := List.mem_flatMap.1 mem
  refine ⟨item, itemIn, made, fun other otherIn differ madeToo => ?_⟩
  obtain ⟨before, after, rfl⟩ := List.append_of_mem itemIn
  rw [List.flatMap_append, List.flatMap_cons, List.count_append, List.count_append] at once
  have here : 0 < (contribution item).count name := List.count_pos_iff.2 made
  have elsewhere : name ∈ before.flatMap contribution ∨ name ∈ after.flatMap contribution := by
    rcases List.mem_append.1 otherIn with earlier | later
    · exact .inl (List.mem_flatMap.2 ⟨other, earlier, madeToo⟩)
    · rcases List.mem_cons.1 later with same | later
      · exact absurd same differ
      · exact .inr (List.mem_flatMap.2 ⟨other, later, madeToo⟩)
  rcases elsewhere with earlier | later
  · have more := List.count_pos_iff.2 earlier
    omega
  · have more := List.count_pos_iff.2 later
    omega

/-- The construct whose table it is. -/
inductive Owns (d : Classified) (keys : KeyTable) (table : String) : Prop
  | entity {entity : Construct} :
      entity ∈ d.ofKinds (·.isEntity) → tableName entity.label = table →
        table ∉ d.junctionTables keys → table ∉ d.childTables keys → Owns d keys table
  | junction {node : Construct} :
      node ∈ d.ofKind .relationship → table ∈ d.junctionOf keys node →
        (∀ other ∈ d.ofKind .relationship, other ≠ node → table ∉ d.junctionOf keys other) →
        table ∉ d.entityTables → table ∉ d.childTables keys → Owns d keys table
  | child {item : Construct} :
      item ∈ d.ofKind .multivaluedAttribute → table ∈ d.childOf keys item →
        (∀ other ∈ d.ofKind .multivaluedAttribute, other ≠ item → table ∉ d.childOf keys other) →
        table ∉ d.entityTables → table ∉ d.junctionTables keys → Owns d keys table

/-- A table that is created once belongs to one construct. -/
theorem owns_of_created_once (read : diagram.classify = .ok d)
    (compiled : compile settings diagram = .ok result) {table : String}
    (once : (createdTables result.statements).count table = 1) :
    d.Owns (keysAfter settings diagram d) table := by
  rw [(createdTables_perm read compiled).count_eq, List.count_append, List.count_append] at once
  have absent : ∀ {names : List String}, names.count table = 0 → table ∉ names :=
    fun none => List.count_eq_zero.1 none
  by_cases inEntities : (d.entityTables).count table = 0
  · by_cases inJunctions : (d.junctionTables (keysAfter settings diagram d)).count table = 0
    · have children : (d.childTables (keysAfter settings diagram d)).count table = 1 := by omega
      obtain ⟨item, itemIn, made, others⟩ := exists_of_count_flatMap children
      exact .child itemIn made others (absent inEntities) (absent inJunctions)
    · have junctions : (d.junctionTables (keysAfter settings diagram d)).count table = 1 := by omega
      obtain ⟨node, nodeIn, made, others⟩ := exists_of_count_flatMap junctions
      exact .junction nodeIn made others (absent inEntities) (absent (by omega))
  · have entity : table ∈ d.entityTables := List.count_pos_iff.1 (by omega)
    obtain ⟨entity, entityIn, rfl⟩ := List.mem_map.1 entity
    exact .entity entityIn rfl (absent (by omega)) (absent (by omega))

end Classified

end EntitySchema
