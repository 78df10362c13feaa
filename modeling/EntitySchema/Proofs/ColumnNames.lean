/-
# EntitySchema.Proofs.ColumnNames -- when no table is given a column twice

Foreign keys are given names that are free, but what is free is asked of the
attributes and the key of the entity only.  `columns_distinct_exactly` says what that
leaves to be asked of a table that is created once, `Classified.ColumnsApart`: the
other ways by which columns come must not meet each other, nor foreign keys that
were named without them in view.
-/
import EntitySchema.Proofs.TableColumns

namespace EntitySchema

set_option autoImplicit false

namespace Classified

variable {d : Classified} {keys : KeyTable}

/-! ## Columns that come by different ways -/

/-- The columns of a table that come by different ways have different names. -/
structure ColumnsApart (d : Classified) (keys : KeyTable) (table : String) : Prop where
  entity : ∀ entity ∈ d.ofKinds (·.isEntity), tableName entity.label = table →
    (d.attributeColumns entity ++ d.carriedColumns keys entity
        ++ d.lentColumns keys entity).Nodup ∧
      (d.embeddedColumns keys entity).Disjoint
        (d.carriedColumns keys entity ++ d.lentColumns keys entity)
  junction : ∀ node ∈ d.ofKind .relationship, ∀ ends, d.encodingIn keys node = .junction ends →
    junctionTable ends = table →
      ((planReferences [] ends).flatMap (·.columns)).Disjoint (d.attributeColumns node)
  child : ∀ item ∈ d.ofKind .multivaluedAttribute, ∀ owner, d.childOwner? keys item = some owner →
    childTable item owner = table → (childColumns item (keys owner)).Nodup

/-- Foreign keys are named apart from each other and from the attributes of the entity
that holds them. -/
theorem nodup_append_embeddedColumns_iff (entity : Construct) :
    (d.attributeColumns entity ++ d.carriedColumns keys entity ++ d.lentColumns keys entity
        ++ d.embeddedColumns keys entity).Nodup ↔
      (d.attributeColumns entity ++ d.carriedColumns keys entity
          ++ d.lentColumns keys entity).Nodup ∧
        (d.embeddedColumns keys entity).Disjoint
          (d.carriedColumns keys entity ++ d.lentColumns keys entity) := by
  obtain ⟨fresh, free⟩ := planReferences_spec
    (d.attributeColumns entity ++ (keys entity).map (·.column))
    ((d.ofKind .relationship).flatMap fun node => (d.embeddedIn keys entity node).map (·.target))
  rw [List.disjoint_append_right] at free
  rw [List.nodup_append]
  constructor
  · rintro ⟨own, -, apart⟩
    refine ⟨own, fun column embedded other => ?_⟩
    have among : column ∈ d.attributeColumns entity ++ d.carriedColumns keys entity
        ++ d.lentColumns keys entity := by
      rw [List.append_assoc]
      exact List.mem_append_right _ other
    exact apart column among column embedded rfl
  · rintro ⟨own, apart⟩
    refine ⟨own, fresh, ?_⟩
    rintro column among _ embedded rfl
    rw [List.append_assoc] at among
    rcases List.mem_append.1 among with own | other
    · exact free.1 embedded own
    · exact apart embedded other

/-- Only an entity may have the table of an entity. -/
theorem columnsApart_entity_iff {entity : Construct} (distinct : d.entityTables.Nodup)
    (entityIn : entity ∈ d.ofKinds (·.isEntity))
    (unshared : tableName entity.label ∉ d.junctionTables keys)
    (childless : tableName entity.label ∉ d.childTables keys) :
    d.ColumnsApart keys (tableName entity.label) ↔
      (d.attributeColumns entity ++ d.carriedColumns keys entity
          ++ d.lentColumns keys entity).Nodup ∧
        (d.embeddedColumns keys entity).Disjoint
          (d.carriedColumns keys entity ++ d.lentColumns keys entity) := by
  constructor
  · exact fun apart => apart.entity entity entityIn rfl
  · intro apart
    refine ⟨fun other otherIn same => ?_, fun node nodeIn ends encoded same => ?_,
      fun item itemIn owner owned same => ?_⟩
    · rw [eq_of_table_eq distinct entityIn otherIn same]
      exact apart
    · exact absurd (same ▸ mem_junctionTables nodeIn encoded) unshared
    · exact absurd (same ▸ mem_childTables itemIn owned) childless

/-- Only this relationship may have the junction table. -/
theorem columnsApart_junction_iff {node : Construct} {ends : List KeyedEnd}
    (nodeIn : node ∈ d.ofKind .relationship) (encoded : d.encodingIn keys node = .junction ends)
    (others : ∀ other ∈ d.ofKind .relationship, other ≠ node →
      junctionTable ends ∉ d.junctionOf keys other)
    (foreign : junctionTable ends ∉ d.entityTables)
    (childless : junctionTable ends ∉ d.childTables keys) :
    d.ColumnsApart keys (junctionTable ends) ↔
      ((planReferences [] ends).flatMap (·.columns)).Disjoint (d.attributeColumns node) := by
  constructor
  · exact fun apart => apart.junction node nodeIn ends encoded rfl
  · intro apart
    refine ⟨fun entity entityIn same => ?_, fun other otherIn otherEnds otherwise same => ?_,
      fun item itemIn owner owned same => ?_⟩
    · exact absurd (same ▸ List.mem_map_of_mem entityIn) foreign
    · by_cases itself : other = node
      · subst itself
        rw [encoded] at otherwise
        rw [← Encoding.junction.inj otherwise]
        exact apart
      · refine absurd ?_ (others other otherIn itself)
        rw [junctionOf, otherwise]
        exact List.mem_singleton.2 same.symm
    · exact absurd (same ▸ mem_childTables itemIn owned) childless

/-- Only this attribute may have the child table. -/
theorem columnsApart_child_iff {item owner : Construct}
    (itemIn : item ∈ d.ofKind .multivaluedAttribute)
    (owned : d.childOwner? keys item = some owner)
    (others : ∀ other ∈ d.ofKind .multivaluedAttribute, other ≠ item →
      childTable item owner ∉ d.childOf keys other)
    (foreign : childTable item owner ∉ d.entityTables)
    (unshared : childTable item owner ∉ d.junctionTables keys) :
    d.ColumnsApart keys (childTable item owner) ↔ (childColumns item (keys owner)).Nodup := by
  constructor
  · exact fun apart => apart.child item itemIn owner owned rfl
  · intro apart
    refine ⟨fun entity entityIn same => ?_, fun node nodeIn ends encoded same => ?_,
      fun other otherIn otherOwner otherOwned same => ?_⟩
    · exact absurd (same ▸ List.mem_map_of_mem entityIn) foreign
    · exact absurd (same ▸ mem_junctionTables nodeIn encoded) unshared
    · by_cases itself : other = item
      · subst itself
        rw [owned] at otherOwned
        rw [← Option.some.inj otherOwned]
        exact apart
      · refine absurd ?_ (others other otherIn itself)
        rw [childOf, otherOwned, ← same]
        exact List.mem_singleton.2 rfl

end Classified

/-! ## Scripts -/

open Classified

/-- A table that is created once is given no column twice exactly when the columns
that come to it by different ways have different names. -/
theorem columns_distinct_exactly {settings : Settings} {diagram : Diagram} {d : Classified}
    {result : CompileResult} (read : diagram.classify = .ok d)
    (compiled : compile settings diagram = .ok result)
    (entities : ((d.ofKinds (·.isEntity)).map (tableName ·.label)).Nodup)
    (attributes : ∀ node ∈ d.nodes, (d.attributeColumns node).Nodup) {table : String}
    (once : (createdTables result.statements).count table = 1) :
    (columnsOf table result.statements).Nodup ↔
      d.ColumnsApart (keysAfter settings diagram d) table := by
  cases owns_of_created_once read compiled once with
  | @entity entity entityIn here unshared childless =>
      subst here
      rw [(columnsOf_entity_perm read compiled entities entityIn unshared childless).nodup_iff,
        nodup_append_embeddedColumns_iff,
        columnsApart_entity_iff entities entityIn unshared childless]
  | @junction node nodeIn made others foreign childless =>
      obtain ⟨ends, encoded, rfl⟩ := exists_of_mem_junctionOf made
      obtain ⟨inNodes, -⟩ := mem_ofKind_iff.1 nodeIn
      rw [columnsOf_junction read compiled nodeIn encoded others foreign childless,
        columnsApart_junction_iff nodeIn encoded others foreign childless, List.nodup_append']
      have planned := (planReferences_spec [] ends).1
      have stored := attributes node inNodes
      exact ⟨fun distinct => distinct.2.2, fun apart => ⟨planned, stored, apart⟩⟩
  | @child item itemIn made others foreign unshared =>
      obtain ⟨owner, owned, rfl⟩ := exists_of_mem_childOf made
      rw [columnsOf_child read compiled itemIn owned others foreign unshared,
        columnsApart_child_iff itemIn owned others foreign unshared]

/-- A subtype of two entities that also refers to the second. -/
def inheritedTwice : Diagram :=
  { nodes :=
      [.drawn "p" "P" "StrongEntity", .drawn "k" "k" "KeyAttribute",
       .drawn "q" "Q" "StrongEntity", .drawn "j" "j" "KeyAttribute",
       .drawn "g" "G" "GeneralizationDisjoint", .drawn "h" "H" "GeneralizationDisjoint",
       .drawn "e" "E" "StrongEntity", .drawn "r" "R" "Relationship"]
    connections :=
      [.drawn "1" "p" "k", .drawn "2" "q" "j",
       .drawn "3" "g" "p" "SingleLineGeneralization", .drawn "4" "g" "e" "GeneralizationToSubtype",
       .drawn "5" "h" "q" "SingleLineGeneralization", .drawn "6" "h" "e" "GeneralizationToSubtype",
       .drawn "7" "r" "e" "SingleLineToMany", .drawn "8" "r" "q" "SingleLineToOne"]
    node_ids_nodup := by decide
    connection_ids_nodup := by decide }

/-- A column may be added twice even if tables and attributes have names of their own.  The subtype
takes over the key of its second superclass, and then refers to this superclass by a column of the
same name, since only its attributes and its own key count as taken. -/
theorem inheritedTwice_column_repeated :
    ¬∀ (settings : Settings) (diagram : Diagram) (d : Classified) (result : CompileResult),
      diagram.classify = .ok d → compile settings diagram = .ok result →
        ((d.ofKinds (·.isEntity)).map (tableName ·.label)).Nodup →
        (∀ node ∈ d.nodes, (d.attributeColumns node).Nodup) →
          ∀ table, (createdTables result.statements).count table = 1 →
            (columnsOf table result.statements).Nodup := by
  intro distinct
  have named : classifiesTo inheritedTwice (fun d => decide
      (((d.ofKinds (·.isEntity)).map (tableName ·.label)).Nodup ∧
        ∀ node ∈ d.nodes, (d.attributeColumns node).Nodup)) = true := by decide +kernel
  have made : compilesTo {} inheritedTwice (fun statements => decide
      ((createdTables statements).count "E" = 1 ∧
        columnsOf "E" statements = ["k-p", "j-q", "j-q"])) = true := by decide +kernel
  obtain ⟨d, read, holds⟩ := exists_of_classifiesTo named
  obtain ⟨entities, attributes⟩ := of_decide_eq_true holds
  obtain ⟨result, compiled, script⟩ := exists_of_compilesTo made
  obtain ⟨once, columns⟩ := of_decide_eq_true script
  have apart := distinct {} inheritedTwice d result read compiled entities attributes "E" once
  rw [columns] at apart
  exact absurd apart (by decide)

/-- An entity with an attribute that is called like the column for the entity it refers to. -/
def foreignLooking : Diagram :=
  { nodes :=
      [.drawn "e" "E" "StrongEntity", .drawn "k" "k" "KeyAttribute",
       .drawn "a" "l-f" "Attribute", .drawn "f" "F" "StrongEntity",
       .drawn "l" "l" "KeyAttribute", .drawn "r" "R" "Relationship"]
    connections :=
      [.drawn "1" "e" "k", .drawn "2" "e" "a", .drawn "3" "f" "l",
       .drawn "4" "r" "e" "SingleLineToMany", .drawn "5" "r" "f" "SingleLineToOne"]
    node_ids_nodup := by decide
    connection_ids_nodup := by decide }

/-- A foreign key whose name is taken by an attribute gets a number behind it, and the columns stay
apart. -/
theorem foreignLooking_columns_distinct :
    ∃ d result, foreignLooking.classify = .ok d ∧ compile {} foreignLooking = .ok result ∧
      ((d.ofKinds (·.isEntity)).map (tableName ·.label)).Nodup ∧
      (∀ node ∈ d.nodes, (d.attributeColumns node).Nodup) ∧
      (createdTables result.statements).count "E" = 1 ∧
      columnsOf "E" result.statements = ["k", "l-f", "l-f2"] ∧
      d.ColumnsApart (keysAfter {} foreignLooking d) "E" := by
  have named : classifiesTo foreignLooking (fun d => decide
      (((d.ofKinds (·.isEntity)).map (tableName ·.label)).Nodup ∧
        ∀ node ∈ d.nodes, (d.attributeColumns node).Nodup)) = true := by decide +kernel
  have made : compilesTo {} foreignLooking (fun statements => decide
      ((createdTables statements).count "E" = 1 ∧
        columnsOf "E" statements = ["k", "l-f", "l-f2"])) = true := by decide +kernel
  obtain ⟨d, read, holds⟩ := exists_of_classifiesTo named
  obtain ⟨entities, attributes⟩ := of_decide_eq_true holds
  obtain ⟨result, compiled, script⟩ := exists_of_compilesTo made
  obtain ⟨once, columns⟩ := of_decide_eq_true script
  have exactly := columns_distinct_exactly read compiled entities attributes once
  rw [columns] at exactly
  exact ⟨d, result, read, compiled, entities, attributes, once, columns, exactly.1 (by decide)⟩

end EntitySchema
