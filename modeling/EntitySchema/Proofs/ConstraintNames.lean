/-
# EntitySchema.Proofs.ConstraintNames -- when tables and constraints have names of their own

A constraint is named after its table, which gives a primary key and any number of
foreign keys different names (`mem_keyNames`).  Only the foreign key of an embedded
relationship is named after the entity that holds it and the relationship, so there
are two ways in which names meet: a table is keyed twice, or the name that an
embedding puts behind `FK_` (`Classified.embeddingStems`) comes twice or is that of
a table that has foreign keys.

`names_distinct_exactly` takes all sites together.  Given entities with different
tables, the tables and constraints of a script have names of their own exactly when
the other tables have (`Classified.NamesApart`), every entity inherits at most one
key and embeddings meet neither each other nor the tables that refer to others.
-/
import EntitySchema.Proofs.FreshNames
import EntitySchema.Proofs.Tables
import Mathlib.Data.List.Perm.Basic

namespace EntitySchema

set_option autoImplicit false

/-! ## Names of constraints -/

def Statement.constraintName : Statement → List String
  | .addPrimaryKey _ name _ => [name]
  | .addForeignKey key => [key.constraint]
  | _ => []

def constraintNames (statements : List Statement) : List String :=
  statements.flatMap (·.constraintName)

theorem skims_constraintName : Skims Statement.constraintName where
  trigger _ := rfl
  view _ _ := rfl

/-- The names of the foreign keys of a table that has some number of them and of its
primary key. -/
def keyNames (table : String) (count : Nat) : List String :=
  ((List.range count).map fun position : Nat => foreignKeyName table position) ++ ["PK_" ++ table]

section Names

variable {first second : String}

/-- What stands before the first mark and what stands after it. -/
theorem append_mark_inj {before after front back : List Char} {mark : Char}
    (absent : mark ∉ before) (missing : mark ∉ front)
    (same : before ++ mark :: after = front ++ mark :: back) : before = front ∧ after = back := by
  induction before generalizing front with
  | nil =>
      cases front with
      | nil => exact ⟨rfl, (List.cons.inj same).2⟩
      | cons letter rest =>
          obtain ⟨rfl, _⟩ := List.cons.inj same
          exact absurd List.mem_cons_self missing
  | cons letter rest ih =>
      cases front with
      | nil =>
          obtain ⟨rfl, _⟩ := List.cons.inj same
          exact absurd List.mem_cons_self absent
      | cons other more =>
          obtain ⟨rfl, rest⟩ := List.cons.inj same
          obtain ⟨rfl, equal⟩ := ih (fun mem => absent (List.mem_cons_of_mem _ mem))
            (fun mem => missing (List.mem_cons_of_mem _ mem)) rest
          exact ⟨rfl, equal⟩

/-- The number in the name of a foreign key; the first has none. -/
def keyNumber (position : Nat) : List Char :=
  if position = 0 then [] else Nat.toDigits 10 (position + 1)

theorem toList_foreignKeyName (table : String) (position : Nat) :
    (foreignKeyName table position).toList =
      'F' :: 'K' :: keyNumber position ++ '_' :: table.toList := by
  cases position with
  | zero => simp [foreignKeyName, keyNumber, String.toList_append]
  | succ earlier =>
      have later : ((earlier + 1 : Nat) : Int) ≠ 0 := by omega
      have number : toString (((earlier + 1 : Nat) : Int) + 1) = toString (earlier + 2) := rfl
      rw [foreignKeyName, if_neg later, number, keyNumber, if_neg (by omega)]
      simp [String.toList_append]

theorem mark_notMem_keyNumber (position : Nat) : '_' ∉ keyNumber position := by
  unfold keyNumber
  split
  · simp
  · intro mem
    have isDigit := Nat.isDigit_of_mem_toDigits (by decide) (by decide) mem
    exact absurd isDigit (by decide)

theorem keyNumber_injective : Function.Injective keyNumber := by
  intro position other same
  unfold keyNumber at same
  split at same <;> split at same
  · omega
  · exact absurd same.symm Nat.toDigits_ne_nil
  · exact absurd same Nat.toDigits_ne_nil
  · have value := congrArg (Nat.ofDigitChars 10 · 0) same
    simp only [Nat.ofDigitChars_ten_toDigits] at value
    omega

theorem foreignKeyName_inj {position other : Nat}
    (same : foreignKeyName first position = foreignKeyName second other) :
    first = second ∧ position = other := by
  have letters := congrArg String.toList same
  rw [toList_foreignKeyName, toList_foreignKeyName] at letters
  simp only [List.cons_append, List.cons.injEq, true_and] at letters
  obtain ⟨number, table⟩ := append_mark_inj (mark_notMem_keyNumber position)
    (mark_notMem_keyNumber other) letters
  exact ⟨String.toList_injective table, keyNumber_injective number⟩

theorem primaryKeyName_ne (position : Nat) : "PK_" ++ first ≠ foreignKeyName second position := by
  intro same
  have letters := congrArg String.toList same
  rw [toList_foreignKeyName] at letters
  simp [String.toList_append] at letters

theorem mem_keyNames {table name : String} {count : Nat} :
    name ∈ keyNames table count ↔
      name = "PK_" ++ table ∨ ∃ position < count, name = foreignKeyName table position := by
  simp [keyNames, eq_comm, or_comm]

/-- The keys of one table have different names. -/
theorem keyNames_nodup (table : String) (count : Nat) : (keyNames table count).Nodup := by
  refine List.nodup_append'.2 ⟨?_, List.nodup_singleton _, ?_⟩
  · exact List.nodup_range.map fun position other same => (foreignKeyName_inj same).2
  · intro name mem primary
    obtain ⟨position, _, rfl⟩ := List.mem_map.1 mem
    exact primaryKeyName_ne position (List.mem_singleton.1 primary).symm

/-- A name of a key tells its table. -/
theorem eq_of_mem_keyNames {name : String} {count more : Nat}
    (inFirst : name ∈ keyNames first count) (inSecond : name ∈ keyNames second more) :
    first = second := by
  obtain rfl | ⟨position, _, rfl⟩ := mem_keyNames.1 inFirst
  · obtain same | ⟨other, _, same⟩ := mem_keyNames.1 inSecond
    · simpa using same
    · exact absurd same (primaryKeyName_ne other)
  · obtain same | ⟨other, _, same⟩ := mem_keyNames.1 inSecond
    · exact absurd same.symm (primaryKeyName_ne position)
    · exact (foreignKeyName_inj same).1

/-- The names of keys are different if and only if their tables are. -/
theorem nodup_flatMap_keyNames_iff (entries : List (String × Nat)) :
    (entries.flatMap fun entry => keyNames entry.1 entry.2).Nodup ↔
      (entries.map (·.1)).Nodup := by
  induction entries with
  | nil => simp
  | cons entry rest ih =>
      rw [List.flatMap_cons, List.nodup_append', ih, List.map_cons, List.nodup_cons]
      constructor
      · rintro ⟨-, distinct, apart⟩
        refine ⟨fun mem => ?_, distinct⟩
        obtain ⟨other, otherIn, same⟩ := List.mem_map.1 mem
        refine apart (mem_keyNames.2 (.inl rfl)) (List.mem_flatMap.2 ⟨other, otherIn, ?_⟩)
        rw [← same]
        exact mem_keyNames.2 (.inl rfl)
      · rintro ⟨absent, distinct⟩
        refine ⟨keyNames_nodup _ _, distinct, fun name inEntry inRest => absent ?_⟩
        obtain ⟨other, otherIn, inOther⟩ := List.mem_flatMap.1 inRest
        rw [eq_of_mem_keyNames inEntry inOther]
        exact List.mem_map_of_mem otherIn

/-- Names with a table behind `FK_` meet those of keys where the table has foreign keys. -/
theorem nodup_names_iff (entries : List (String × Nat)) (stems : List String) :
    ((entries.flatMap fun entry => keyNames entry.1 entry.2)
        ++ stems.map ("FK_" ++ ·)).Nodup ↔
      (entries.map (·.1)).Nodup ∧ stems.Nodup ∧
        ∀ entry ∈ entries, entry.2 ≠ 0 → entry.1 ∉ stems := by
  have stemNames : (stems.map ("FK_" ++ ·)).Nodup ↔ stems.Nodup :=
    nodup_map_iff_of_injOn fun one _ other _ same => by simpa using same
  rw [List.nodup_append', nodup_flatMap_keyNames_iff, stemNames]
  refine and_congr_right fun _ => and_congr_right fun _ => ⟨?_, ?_⟩
  · intro apart entry entryIn some inStems
    have named : foreignKeyName entry.1 (0 : Nat) ∈ keyNames entry.1 entry.2 :=
      mem_keyNames.2 (.inr ⟨0, Nat.pos_of_ne_zero some, rfl⟩)
    exact apart (List.mem_flatMap.2 ⟨entry, entryIn, named⟩) (List.mem_map_of_mem inStems)
  · intro absent name inKeys inStems
    obtain ⟨entry, entryIn, named⟩ := List.mem_flatMap.1 inKeys
    obtain ⟨stem, stemIn, rfl⟩ := List.mem_map.1 inStems
    have unnumbered : "FK_" ++ stem = foreignKeyName stem (0 : Nat) := rfl
    obtain same | ⟨position, within, same⟩ := mem_keyNames.1 named
    · exact primaryKeyName_ne 0 (same.symm.trans unnumbered)
    · obtain ⟨rfl, rfl⟩ := foreignKeyName_inj (unnumbered.symm.trans same)
      exact absent _ entryIn (by omega) stemIn

end Names

/-! ## Constraints of statements -/

theorem constraintNames_append (first second : List Statement) :
    constraintNames (first ++ second) = constraintNames first ++ constraintNames second :=
  List.flatMap_append

theorem constraintNames_addColumns (table : String) (columns : List Column) :
    constraintNames (columns.map (.addColumn table)) = [] := by
  rw [constraintNames, List.flatMap_map]
  exact flatMap_nothing columns

theorem constraintNames_addKeyColumns (table : String) (keys : List Key) :
    constraintNames (addKeyColumns table keys) = [] := by
  rw [constraintNames, addKeyColumns, List.flatMap_map]
  exact flatMap_nothing keys

theorem constraintNames_triggers (plans : List TriggerPlan) :
    constraintNames (plans.map (·.unnumbered)) = [] := by
  rw [constraintNames, List.flatMap_map]
  exact flatMap_nothing plans

theorem constraintNames_weakKeyStatements (table : String) (partialKey : Key)
    (inherited : List Key) (owner : KeyedEnd) :
    constraintNames (weakKeyStatements table partialKey inherited owner) = keyNames table 1 := by
  rw [weakKeyStatements, constraintNames_append, constraintNames_addKeyColumns]
  rfl

theorem constraintNames_subtypeKeyStatements (superclass subtype : KeyedEnd) :
    constraintNames (subtypeKeyStatements superclass subtype) = keyNames subtype.table 1 := by
  rw [subtypeKeyStatements, constraintNames_append, constraintNames_addKeyColumns]
  rfl

theorem constraintNames_referenceKeys (table : String) (references : List Reference) :
    constraintNames (referenceKeys table references) =
      (List.range references.length).map fun position : Nat => foreignKeyName table position := by
  rw [List.range_eq_range', ← List.zipIdx_map_snd, List.map_map, List.map_eq_flatMap,
    constraintNames, referenceKeys, List.mapIdx_eq_zipIdx_map, List.flatMap_map]
  rfl

theorem constraintNames_junctionKeys (table : String) (references : List Reference) :
    constraintNames (junctionKeys table references) = keyNames table references.length := by
  rw [junctionKeys, constraintNames_append, constraintNames_referenceKeys]
  rfl

theorem constraintNames_associativeStatements (table : String) (references : List Reference) :
    constraintNames (associativeStatements table references) =
      keyNames table references.length := by
  rw [associativeStatements, constraintNames_append, constraintNames_addColumns,
    constraintNames_junctionKeys, List.nil_append]

theorem constraintNames_junctionStatements (d : Classified) (node : Construct)
    (ends : List KeyedEnd) :
    constraintNames (junctionStatements d node ends) =
      keyNames (Classified.junctionTable ends) (planReferences [] ends).length :=
  constraintNames_junctionKeys _ _

theorem constraintNames_embeddingStatements (d : Classified) (node : Construct) (how : Embedding)
    (reference : Reference) :
    constraintNames (embeddingStatements d node how reference) =
      ["FK_" ++ how.holder.table ++ "_" ++ tableName node.label] := by
  rw [embeddingStatements_eq, constraintNames_append, constraintNames_addColumns]
  rfl

theorem constraintNames_childTableStatements (surrogateType : String) (item owner : Construct)
    (keys : List Key) :
    (constraintNames (childTableStatements surrogateType item owner keys)).Perm
      (keyNames (Classified.childTable item owner) 1) := .swap _ _ _

namespace Classified

variable {d : Classified} {keys : KeyTable}

/-! ## Tables with keys -/

def keyedRoots (d : Classified) (keys : KeyTable) : List Construct :=
  (d.ofKind .strongEntity).filter fun entity =>
    d.generalizationOf? entity = none ∧ keys entity ≠ []

/-- The weak entities with an owner. -/
def keyedWeak (d : Classified) (keys : KeyTable) : List Construct :=
  (d.ofKind .weakEntity).filter fun weak =>
    (d.partialKey? weak).isSome ∧ (d.ownerIn keys weak).isSome

/-- The subtypes that inherit a key, once for every generalization that writes it. -/
def keyedHeirs (d : Classified) (keys : KeyTable) : List Construct :=
  (d.ofKinds (·.isGeneralization)).flatMap fun generalization =>
    (d.heirs keys generalization).map (·.node)

def keyedAssociative (d : Classified) (keys : KeyTable) : List Construct :=
  (d.ofKind .associativeEntity).filter fun entity => d.referencesIn keys entity ≠ []

/-- The junction table of a relationship with the number of tables it refers to. -/
def keyedJunction (d : Classified) (keys : KeyTable) (node : Construct) : List (String × Nat) :=
  match d.encodingIn keys node with
  | .junction ends => [(junctionTable ends, (planReferences [] ends).length)]
  | _ => []

/-- The tables with a primary key, each with the number of foreign keys that are named
after the table only. -/
def keyedTables (d : Classified) (keys : KeyTable) : List (String × Nat) :=
  ((d.keyedRoots keys).map fun entity => (tableName entity.label, 0))
    ++ ((d.keyedWeak keys).map fun weak => (tableName weak.label, 1))
    ++ ((d.keyedHeirs keys).map fun entity => (tableName entity.label, 1))
    ++ (d.ofKind .relationship).flatMap (d.keyedJunction keys)
    ++ ((d.keyedAssociative keys).map fun entity =>
          (tableName entity.label, (d.referencesIn keys entity).length))
    ++ (d.childTables keys).map fun table => (table, 1)

/-- What the foreign key of an embedded relationship has behind `FK_`. -/
def embeddingStem (d : Classified) (keys : KeyTable) (node : Construct) : List String :=
  match d.encodingIn keys node with
  | .embedding how => [how.holder.table ++ "_" ++ tableName node.label]
  | _ => []

def embeddingStems (d : Classified) (keys : KeyTable) : List String :=
  (d.ofKind .relationship).flatMap (d.embeddingStem keys)

/-- Tables that are made for relationships and attributes have names of their own, no
entity inherits two keys, and the names for embeddings meet neither each other nor
those of foreign keys that are named after their table. -/
structure NamesApart (d : Classified) (keys : KeyTable) : Prop where
  generated : (d.junctionTables keys ++ d.childTables keys).Nodup
  entities : d.entityTables.Disjoint (d.junctionTables keys ++ d.childTables keys)
  heirs : (d.keyedHeirs keys).Nodup
  stems : (d.embeddingStems keys).Nodup
  unshared : ∀ entry ∈ d.keyedTables keys, entry.2 ≠ 0 → entry.1 ∉ d.embeddingStems keys

/-! ## The constraints of a construct -/

theorem constraintNames_strongKeySketch (entity : Construct) :
    constraintNames (d.strongKeySketch keys entity).statements =
      if d.generalizationOf? entity = none ∧ keys entity ≠ [] then
        keyNames (tableName entity.label) 0
      else [] := by
  rw [statements_strongKeySketch]
  split <;> rfl

theorem constraintNames_strongKeySketches (d : Classified) (keys : KeyTable) :
    ((d.ofKind .strongEntity).flatMap fun entity =>
        constraintNames (d.strongKeySketch keys entity).statements) =
      (d.keyedRoots keys).flatMap fun entity => keyNames (tableName entity.label) 0 := by
  rw [keyedRoots, flatMap_filter]
  exact List.flatMap_congr fun entity _ => constraintNames_strongKeySketch entity

theorem constraintNames_weakKeySketch (weak : Construct) :
    constraintNames (d.weakKeySketch keys weak).statements =
      if (d.partialKey? weak).isSome ∧ (d.ownerIn keys weak).isSome then
        keyNames (tableName weak.label) 1
      else [] := by
  rw [statements_weakKeySketch]
  cases d.partialKey? weak with
  | none => rfl
  | some partialKey =>
      cases d.ownerIn keys weak with
      | none => rfl
      | some owner => exact constraintNames_weakKeyStatements _ _ _ _

theorem constraintNames_weakKeySketches (d : Classified) (keys : KeyTable) :
    ((d.ofKind .weakEntity).flatMap fun weak =>
        constraintNames (d.weakKeySketch keys weak).statements) =
      (d.keyedWeak keys).flatMap fun weak => keyNames (tableName weak.label) 1 := by
  rw [keyedWeak, flatMap_filter]
  exact List.flatMap_congr fun weak _ => constraintNames_weakKeySketch weak

/-- Each strong subtype adds one foreign key and one primary key, both named after its table alone.
An entity that inherits from two generalizations is listed for each. -/
theorem constraintNames_generalizationSketch (generalization : Construct) :
    constraintNames (d.generalizationSketch keys generalization).statements =
      (d.heirs keys generalization).flatMap fun subtype => keyNames subtype.table 1 := by
  rw [statements_generalizationSketch]
  cases found : d.superclassEnd? generalization with
  | none => simp [heirs, writesKeys, found, constraintNames]
  | some above =>
      dsimp only
      split
      · rename_i none
        rw [none]
        rfl
      · rw [constraintNames_append, constraintNames_triggers, List.append_nil, constraintNames,
          List.flatMap_assoc]
        exact List.flatMap_congr fun subtype _ => constraintNames_subtypeKeyStatements _ _

theorem constraintNames_generalizationSketches (d : Classified) (keys : KeyTable) :
    ((d.ofKinds (·.isGeneralization)).flatMap fun generalization =>
        constraintNames (d.generalizationSketch keys generalization).statements) =
      (d.keyedHeirs keys).flatMap fun entity => keyNames (tableName entity.label) 1 := by
  rw [keyedHeirs, List.flatMap_assoc]
  refine List.flatMap_congr fun generalization _ => ?_
  rw [constraintNames_generalizationSketch, List.flatMap_map]
  rfl

/-- A relationship has a junction table, whose constraints are named after the table, or one foreign
key, which is named after the table that holds it and the relationship. -/
theorem constraintNames_relationshipSketch (d : Classified) (keys : KeyTable)
    (reserved : Reservations) (node : Construct) :
    constraintNames (d.relationshipSketch keys reserved node).1.statements =
      (d.keyedJunction keys node).flatMap (fun entry => keyNames entry.1 entry.2)
        ++ (d.embeddingStem keys node).map ("FK_" ++ ·) := by
  rw [statements_relationshipSketch, keyedJunction, embeddingStem]
  cases d.encodingIn keys node with
  | leftOut => rfl
  | junction ends =>
      dsimp only
      rw [constraintNames_junctionStatements]
      simp
  | embedding how =>
      dsimp only
      rw [constraintNames_append, constraintNames_triggers, constraintNames_embeddingStatements]
      simp [String.append_assoc]

theorem constraintNames_associativeSketch (entity : Construct) :
    constraintNames (d.associativeSketch keys entity).statements =
      if d.referencesIn keys entity ≠ [] then
        keyNames (tableName entity.label) (d.referencesIn keys entity).length
      else [] := by
  rw [statements_associativeSketch]
  by_cases none : d.referencesIn keys entity = []
  · simp [none, constraintNames]
  · rw [if_neg none, if_pos none, constraintNames_associativeStatements]

theorem constraintNames_associativeSketches (d : Classified) (keys : KeyTable) :
    ((d.ofKind .associativeEntity).flatMap fun entity =>
        constraintNames (d.associativeSketch keys entity).statements) =
      (d.keyedAssociative keys).flatMap fun entity =>
        keyNames (tableName entity.label) (d.referencesIn keys entity).length := by
  rw [keyedAssociative, flatMap_filter]
  exact List.flatMap_congr fun entity _ => constraintNames_associativeSketch entity

theorem constraintNames_multivaluedSketch (d : Classified) (keys : KeyTable)
    (surrogateType : String) (item : Construct) :
    (constraintNames (d.multivaluedSketch keys surrogateType item).statements).Perm
      ((d.childOf keys item).flatMap fun table => keyNames table 1) := by
  rw [statements_multivaluedSketch, childOf]
  cases d.childOwner? keys item with
  | none => exact .nil
  | some owner =>
      simpa using constraintNames_childTableStatements surrogateType item owner (keys owner)

theorem constraintNames_multivaluedSketches (d : Classified) (keys : KeyTable)
    (surrogateType : String) :
    ((d.ofKind .multivaluedAttribute).flatMap fun item =>
        constraintNames (d.multivaluedSketch keys surrogateType item).statements).Perm
      ((d.childTables keys).flatMap fun table => keyNames table 1) := by
  rw [childTables, List.flatMap_assoc]
  exact List.Perm.flatMap_left _ fun item _ =>
    constraintNames_multivaluedSketch d keys surrogateType item

/-! ## The constraints of a script -/

variable {settings : Settings} {diagram : Diagram} {result : CompileResult}

/-- The constraints of a script, phase by phase. -/
theorem constraintNames_statements (read : diagram.classify = .ok d)
    (compiled : compile settings diagram = .ok result) :
    constraintNames result.statements =
      ((d.keyedRoots (keysAfter settings diagram d)).flatMap fun entity =>
          keyNames (tableName entity.label) 0)
        ++ ((d.keyedWeak (keysAfter settings diagram d)).flatMap fun weak =>
              keyNames (tableName weak.label) 1)
        ++ ((d.keyedHeirs (keysAfter settings diagram d)).flatMap fun entity =>
              keyNames (tableName entity.label) 1)
        ++ ((d.ofKind .relationship).flatMap fun node =>
              (d.keyedJunction (keysAfter settings diagram d) node).flatMap
                  (fun entry => keyNames entry.1 entry.2)
                ++ (d.embeddingStem (keysAfter settings diagram d) node).map ("FK_" ++ ·))
        ++ ((d.keyedAssociative (keysAfter settings diagram d)).flatMap fun entity =>
              keyNames (tableName entity.label)
                (d.referencesIn (keysAfter settings diagram d) entity).length)
        ++ ((d.ofKind .multivaluedAttribute).flatMap fun item =>
              constraintNames (d.multivaluedSketch (keysAfter settings diagram d)
                settings.surrogateKeyType item).statements) := by
  have tables : ∀ entity, (d.tableStatement entity).constraintName = [] := fun _ => rfl
  have strong := constraintNames_strongKeySketches d (keysAfter settings diagram d)
  have weak := constraintNames_weakKeySketches d (keysAfter settings diagram d)
  have hierarchies := constraintNames_generalizationSketches d (keysAfter settings diagram d)
  have relationships := flatMap_relationshipSketches
    (constraintNames_relationshipSketch d (keysAfter settings diagram d)) []
      (d.ofKind .relationship)
  have associative := constraintNames_associativeSketches d (keysAfter settings diagram d)
  unfold constraintNames at strong weak hierarchies relationships associative ⊢
  rw [skims_constraintName.flatMap_statements read compiled, strong, weak, hierarchies,
    relationships, associative]
  simp only [tables, flatMap_nothing, List.nil_append, List.append_nil]

/-- The constraints of a script: the keys of its tables, and the foreign keys of
embedded relationships. -/
theorem constraintNames_perm (read : diagram.classify = .ok d)
    (compiled : compile settings diagram = .ok result) :
    (constraintNames result.statements).Perm
      ((d.keyedTables (keysAfter settings diagram d)).flatMap
          (fun entry => keyNames entry.1 entry.2)
        ++ (d.embeddingStems (keysAfter settings diagram d)).map ("FK_" ++ ·)) := by
  have relationships := List.flatMap_append_perm (d.ofKind .relationship)
    (fun node => (d.keyedJunction (keysAfter settings diagram d) node).flatMap
      fun entry => keyNames entry.1 entry.2)
    (fun node => (d.embeddingStem (keysAfter settings diagram d) node).map ("FK_" ++ ·))
  have children := constraintNames_multivaluedSketches d (keysAfter settings diagram d)
    settings.surrogateKeyType
  refine List.perm_iff_count.2 fun name => ?_
  have embedded := relationships.count_eq name
  have made := children.count_eq name
  rw [constraintNames_statements read compiled]
  simp only [keyedTables, embeddingStems, List.flatMap_append, List.map_flatMap,
    List.flatMap_assoc, List.flatMap_map, List.count_append] at embedded made ⊢
  omega

/-! ## Names of their own -/

theorem map_keyedJunction (node : Construct) :
    (d.keyedJunction keys node).map (·.1) = d.junctionOf keys node := by
  unfold keyedJunction junctionOf
  cases d.encodingIn keys node <;> rfl

/-- The entities that are keyed, once for every primary key. -/
def keyedEntities (d : Classified) (keys : KeyTable) : List Construct :=
  d.keyedRoots keys ++ d.keyedWeak keys ++ d.keyedHeirs keys ++ d.keyedAssociative keys

theorem map_keyedTables_perm (d : Classified) (keys : KeyTable) :
    ((d.keyedTables keys).map (·.1)).Perm
      ((d.keyedEntities keys).map (tableName ·.label)
        ++ (d.junctionTables keys ++ d.childTables keys)) := by
  have junctions : ((d.ofKind .relationship).flatMap (d.keyedJunction keys)).map (·.1) =
      d.junctionTables keys := by
    rw [List.map_flatMap]
    exact List.flatMap_congr fun node _ => map_keyedJunction node
  refine List.perm_iff_count.2 fun name => ?_
  simp only [keyedTables, keyedEntities, List.map_append, junctions, List.map_map,
    Function.comp_def, List.map_id', List.count_append]
  omega

/-- Heirs are strong entities and subtypes. -/
theorem mem_keyedHeirs {entity : Construct} (heir : entity ∈ d.keyedHeirs keys) :
    entity ∈ d.ofKind .strongEntity ∧ (d.generalizationOf? entity).isSome := by
  obtain ⟨generalization, inKinds, made⟩ := List.mem_flatMap.1 heir
  obtain ⟨subtype, inHeirs, rfl⟩ := List.mem_map.1 made
  obtain ⟨inNodes, kind⟩ := mem_ofKinds_iff.1 inKinds
  obtain ⟨link, drawn⟩ := mem_subtypeEnds_of_mem_heirs inHeirs
  exact ⟨mem_ofKind_of_mem_heirs inHeirs,
    generalizationOf_isSome_of_mem_subtypeEnds inNodes kind drawn⟩

theorem keyedEntities_subset : d.keyedEntities keys ⊆ d.ofKinds (·.isEntity) := by
  intro entity keyed
  simp only [keyedEntities, List.mem_append] at keyed
  obtain ((root | weak) | heir) | associative := keyed
  · exact ofKind_subset_entities rfl (List.mem_of_mem_filter root)
  · exact ofKind_subset_entities rfl (List.mem_of_mem_filter weak)
  · exact ofKind_subset_entities rfl (mem_keyedHeirs heir).1
  · exact ofKind_subset_entities rfl (List.mem_of_mem_filter associative)

/-- Only inheritance gives an entity several primary keys. -/
theorem keyedEntities_nodup_iff : (d.keyedEntities keys).Nodup ↔ (d.keyedHeirs keys).Nodup := by
  have kinds : ∀ {first second : NodeKind}, first ≠ second → ∀ {node : Construct},
      node ∈ d.ofKind first → node ∉ d.ofKind second := by
    intro first second differ node inFirst inSecond
    exact differ ((mem_ofKind_iff.1 inFirst).2.symm.trans (mem_ofKind_iff.1 inSecond).2)
  have once : ∀ kind, (d.ofKind kind).Nodup := fun _ => d.nodes_nodup.filter _
  have rootsWeak : (d.keyedRoots keys).Disjoint (d.keyedWeak keys) := fun entity root weak =>
    kinds (by decide) (List.mem_of_mem_filter root) (List.mem_of_mem_filter weak)
  -- a root is no subtype
  have heirs : (d.keyedRoots keys ++ d.keyedWeak keys).Disjoint (d.keyedHeirs keys) := by
    intro entity other heir
    obtain ⟨strong, subtype⟩ := mem_keyedHeirs heir
    obtain root | weak := List.mem_append.1 other
    · have orphan := (of_decide_eq_true (List.mem_filter.1 root).2).1
      rw [orphan] at subtype
      cases subtype
    · exact kinds (by decide) strong (List.mem_of_mem_filter weak)
  have associative : (d.keyedRoots keys ++ d.keyedWeak keys ++ d.keyedHeirs keys).Disjoint
      (d.keyedAssociative keys) := by
    intro entity other associated
    have inKind := List.mem_of_mem_filter associated
    simp only [List.mem_append] at other
    obtain (root | weak) | heir := other
    · exact kinds (by decide) (List.mem_of_mem_filter root) inKind
    · exact kinds (by decide) (List.mem_of_mem_filter weak) inKind
    · exact kinds (by decide) (mem_keyedHeirs heir).1 inKind
  have roots : (d.keyedRoots keys).Nodup := (once _).filter _
  have weak : (d.keyedWeak keys).Nodup := (once _).filter _
  have associated : (d.keyedAssociative keys).Nodup := (once _).filter _
  constructor
  · intro distinct
    exact (distinct.of_append_left).of_append_right
  · intro inherited
    exact ((roots.append weak rootsWeak).append inherited heirs).append associated associative

/-- Tables have one primary key each exactly when entities have. -/
theorem keyedTables_nodup_iff (distinct : d.entityTables.Nodup)
    (generated : (d.junctionTables keys ++ d.childTables keys).Nodup)
    (apart : d.entityTables.Disjoint (d.junctionTables keys ++ d.childTables keys)) :
    ((d.keyedTables keys).map (·.1)).Nodup ↔ (d.keyedHeirs keys).Nodup := by
  have oneTable : ((d.keyedEntities keys).map (tableName ·.label)).Nodup ↔
      (d.keyedEntities keys).Nodup :=
    nodup_map_iff_of_injOn fun first firstIn second secondIn same =>
      List.inj_on_of_nodup_map distinct (keyedEntities_subset firstIn)
        (keyedEntities_subset secondIn) same
  have foreign : ((d.keyedEntities keys).map (tableName ·.label)).Disjoint
      (d.junctionTables keys ++ d.childTables keys) :=
    List.disjoint_of_subset_left (List.map_subset _ keyedEntities_subset) apart
  rw [(map_keyedTables_perm d keys).nodup_iff, List.nodup_append', oneTable,
    keyedEntities_nodup_iff]
  exact ⟨fun all => all.1, fun heirs => ⟨heirs, generated, foreign⟩⟩

end Classified

/-! ## Scripts -/

open Classified

/-- The tables and the constraints of a script have names of their own exactly when the
names that are made for relationships and attributes do not meet and no entity
inherits two keys. -/
theorem names_distinct_exactly {settings : Settings} {diagram : Diagram} {d : Classified}
    {result : CompileResult} (read : diagram.classify = .ok d)
    (compiled : compile settings diagram = .ok result)
    (entities : ((d.ofKinds (·.isEntity)).map (tableName ·.label)).Nodup) :
    (createdTables result.statements).Nodup ∧ (constraintNames result.statements).Nodup ↔
      d.NamesApart (keysAfter settings diagram d) := by
  rw [(createdTables_perm read compiled).nodup_iff, (constraintNames_perm read compiled).nodup_iff,
    nodup_names_iff, List.append_assoc, List.nodup_append']
  constructor
  · rintro ⟨⟨-, generated, apart⟩, keyed, stems, unshared⟩
    exact ⟨generated, apart, (keyedTables_nodup_iff entities generated apart).1 keyed, stems,
      unshared⟩
  · rintro ⟨generated, apart, heirs, stems, unshared⟩
    exact ⟨⟨entities, generated, apart⟩,
      (keyedTables_nodup_iff entities generated apart).2 heirs, stems, unshared⟩

/-- Two relationships between the same entities. -/
def relatedTwice : Diagram :=
  { nodes :=
      [.drawn "a" "A" "StrongEntity", .drawn "k" "k" "KeyAttribute",
       .drawn "b" "B" "StrongEntity", .drawn "l" "l" "KeyAttribute",
       .drawn "r" "R" "Relationship", .drawn "q" "Q" "Relationship"]
    connections :=
      [.drawn "1" "a" "k", .drawn "2" "b" "l",
       .drawn "3" "r" "a" "SingleLineToMany", .drawn "4" "r" "b" "SingleLineToMany",
       .drawn "5" "q" "a" "SingleLineToMany", .drawn "6" "q" "b" "SingleLineToMany"]
    node_ids_nodup := by decide
    connection_ids_nodup := by decide }

/-- Relationships with names of their own do not keep their junction tables apart: a junction table
is named after the participants, so two relationships between the same entities create it twice. -/
theorem relatedTwice_names_repeated :
    ¬∀ (settings : Settings) (diagram : Diagram) (d : Classified) (result : CompileResult),
      diagram.classify = .ok d → compile settings diagram = .ok result →
        ((d.ofKinds (·.isEntity)).map (tableName ·.label)).Nodup →
        ((d.ofKind .relationship).map (tableName ·.label)).Nodup →
          (createdTables result.statements).Nodup ∧ (constraintNames result.statements).Nodup := by
  intro distinct
  have tables : classifiesTo relatedTwice (fun d => decide
      (((d.ofKinds (·.isEntity)).map (tableName ·.label)).Nodup ∧
        ((d.ofKind .relationship).map (tableName ·.label)).Nodup)) = true := by decide +kernel
  have made : compilesTo {} relatedTwice (fun statements => decide
      (createdTables statements = ["A", "B", "A_B", "A_B"])) = true := by decide +kernel
  obtain ⟨d, read, holds⟩ := exists_of_classifiesTo tables
  obtain ⟨entities, relationships⟩ := of_decide_eq_true holds
  obtain ⟨result, compiled, script⟩ := exists_of_compilesTo made
  have once := (distinct {} relatedTwice d result read compiled entities relationships).1
  rw [of_decide_eq_true script] at once
  exact absurd once (by decide)

/-- A junction table, an embedding and a child table beside each other. -/
def namedApart : Diagram :=
  { nodes :=
      [.drawn "a" "A" "StrongEntity", .drawn "k" "k" "KeyAttribute",
       .drawn "b" "B" "StrongEntity", .drawn "l" "l" "KeyAttribute",
       .drawn "r" "R" "Relationship", .drawn "q" "Q" "Relationship",
       .drawn "m" "phone" "MultivaluedAttribute"]
    connections :=
      [.drawn "1" "a" "k", .drawn "2" "b" "l",
       .drawn "3" "r" "a" "SingleLineToMany", .drawn "4" "r" "b" "SingleLineToMany",
       .drawn "5" "q" "a" "SingleLineToMany", .drawn "6" "q" "b" "SingleLineToOne",
       .drawn "7" "a" "m"]
    node_ids_nodup := by decide
    connection_ids_nodup := by decide }

/-- Tables that are named after entities, after participants and after an attribute, with their
constraints, in one script and all apart. -/
theorem namedApart_names_distinct :
    ∃ d result, namedApart.classify = .ok d ∧ compile {} namedApart = .ok result ∧
      ((d.ofKinds (·.isEntity)).map (tableName ·.label)).Nodup ∧
      createdTables result.statements = ["A", "B", "A_B", "A_PHONE"] ∧
      constraintNames result.statements =
        ["PK_A", "PK_B", "FK_A_B", "FK2_A_B", "PK_A_B", "FK_A_Q", "PK_A_PHONE", "FK_A_PHONE"] ∧
      d.NamesApart (keysAfter {} namedApart d) := by
  have tables : classifiesTo namedApart (fun d => decide
      ((d.ofKinds (·.isEntity)).map (tableName ·.label)).Nodup) = true := by decide +kernel
  have made : compilesTo {} namedApart (fun statements => decide
      (createdTables statements = ["A", "B", "A_B", "A_PHONE"] ∧
        constraintNames statements =
          ["PK_A", "PK_B", "FK_A_B", "FK2_A_B", "PK_A_B", "FK_A_Q", "PK_A_PHONE",
            "FK_A_PHONE"])) = true := by decide +kernel
  obtain ⟨d, read, holds⟩ := exists_of_classifiesTo tables
  obtain ⟨result, compiled, script⟩ := exists_of_compilesTo made
  have entities := of_decide_eq_true holds
  obtain ⟨created, constraints⟩ := of_decide_eq_true script
  have exactly := names_distinct_exactly read compiled entities
  rw [created, constraints] at exactly
  exact ⟨d, result, read, compiled, entities, created, constraints,
    exactly.1 ⟨by decide, by decide⟩⟩

end EntitySchema
