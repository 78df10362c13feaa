/-
# EntitySchema.Proofs.WellNamedKeys -- keys whose columns are names

A key is well named if its column is a name and its owner and type are harmless
(`Key.WellNamed`).  Names of key columns are made from names of other key columns, along
chains of any length.  Each step joins a name with the name of a table or with a number, so
where labels and types are harmless and no label is blank (`Classified.WellNamed`), a key that is
computed from well-named ones is well named (`Classified.WellNamed.of_computed`).  So are the
keys of a run, even those that depend on each other in a circle.
-/
import EntitySchema.Proofs.Classification
import EntitySchema.Proofs.Copy
import EntitySchema.Proofs.FirmStatements

namespace EntitySchema

open EntitySchema.Text EntitySchema.Ddl

set_option autoImplicit false

/-! ## Keys and references -/

/-- The column of the key is a name, and its other texts are harmless. -/
structure Key.WellNamed (key : Key) : Prop where
  owner : Harmless key.owner
  column : IsName key.column
  sqlType : ∀ sqlType ∈ key.sqlType, Harmless sqlType

structure KeyedEnd.WellNamed (place : KeyedEnd) : Prop where
  table : IsName place.table
  keys : ∀ key ∈ place.keys, key.WellNamed

structure Reference.WellNamed (reference : Reference) : Prop where
  target : reference.target.WellNamed
  columns : ∀ name ∈ reference.columns, IsName name

section Keys

theorem Key.WellNamed.isName_foreignColumn {key : Key} (named : key.WellNamed) :
    IsName key.foreignColumn := named.column.foreignColumn named.owner

theorem Key.WellNamed.carriedTo {key : Key} (named : key.WellNamed) {owner : String}
    (harmless : Harmless owner) : (key.carriedTo owner).WellNamed :=
  ⟨harmless, named.isName_foreignColumn, named.sqlType⟩

variable {keys : List Key}

theorem wellNamed_of_mem_map_carriedTo {key : Key} {owner : String}
    (named : ∀ key ∈ keys, key.WellNamed) (harmless : Harmless owner)
    (mem : key ∈ keys.map (·.carriedTo owner)) : key.WellNamed := by
  obtain ⟨other, inKeys, rfl⟩ := List.mem_map.1 mem
  exact (named other inKeys).carriedTo harmless

theorem isName_columns (named : ∀ key ∈ keys, key.WellNamed) :
    ∀ name ∈ keys.map (·.column), IsName name := by
  intro name mem
  obtain ⟨key, inKeys, rfl⟩ := List.mem_map.1 mem
  exact (named key inKeys).column

theorem isName_foreignColumns (named : ∀ key ∈ keys, key.WellNamed) (taken : List String) :
    ∀ name ∈ foreignColumns taken keys, IsName name := by
  intro name mem
  induction keys generalizing taken with
  | nil => simp [foreignColumns] at mem
  | cons key rest ih =>
      rcases List.mem_cons.1 mem with rfl | inRest
      · exact (named key List.mem_cons_self).isName_foreignColumn.freshName taken
      · exact ih (fun other mem => named other (List.mem_cons_of_mem key mem)) _ inRest

theorem KeyedEnd.WellNamed.columns {place : KeyedEnd} (named : place.WellNamed) :
    ∀ name ∈ place.columns, IsName name := isName_columns named.keys

theorem wellNamed_of_mem_planReferences {taken : List String} {ends : List KeyedEnd}
    {reference : Reference} (named : ∀ place ∈ ends, place.WellNamed)
    (mem : reference ∈ planReferences taken ends) : reference.WellNamed := by
  obtain ⟨inEnds, _, before, columns⟩ := Classified.mem_planReferences mem
  have target := named reference.target inEnds
  exact ⟨target, columns ▸ isName_foreignColumns target.keys before⟩

theorem Reference.WellNamed.typed {reference : Reference} (named : reference.WellNamed)
    {name : String} {sqlType : Option String} (mem : (name, sqlType) ∈ reference.typedColumns) :
    IsName name ∧ ∀ text ∈ sqlType, Harmless text := by
  obtain ⟨inColumns, inTypes⟩ := List.of_mem_zip mem
  obtain ⟨key, inKeys, rfl⟩ := List.mem_map.1 inTypes
  exact ⟨named.columns name inColumns, (named.target.keys key inKeys).sqlType⟩

end Keys

namespace Classified

/-! ## Keys of a run -/

/-- No label of the diagram is blank, and labels and types are harmless. -/
structure WellNamed (d : Classified) : Prop where
  named : ∀ node ∈ d.nodes, isBlankText node.label = false
  labels : ∀ node ∈ d.nodes, Harmless node.label
  types : ∀ node ∈ d.nodes, ∀ sqlType ∈ node.sqlType, Harmless sqlType

variable {d : Classified}

namespace WellNamed

variable (named : d.WellNamed) {entity : Construct}

include named

theorem isName_column (inNodes : entity ∈ d.nodes) : IsName (columnName entity.label) :=
  isName_columnName (named.named entity inNodes) (named.labels entity inNodes)

theorem isName_table (inNodes : entity ∈ d.nodes) : IsName (tableName entity.label) :=
  isName_tableName (named.named entity inNodes) (named.labels entity inNodes)

theorem of_mem_keysOfKind (inNodes : entity ∈ d.nodes) {kind : NodeKind} {key : Key}
    (mem : key ∈ d.keysOfKind entity kind) : key.WellNamed := by
  obtain ⟨neighbour, near, rfl⟩ := List.mem_map.1 mem
  have itemIn := mem_nodes_of_mem_neighboursOf near
  exact ⟨(named.isName_table inNodes).toHarmless, named.isName_column itemIn,
    named.types _ itemIn⟩

theorem of_mem_strongKeyOf (inNodes : entity ∈ d.nodes) {key : Key}
    (mem : key ∈ d.strongKeyOf entity) : key.WellNamed := by
  unfold strongKeyOf at mem
  split at mem
  · rename_i below
    rw [inheritedKey, if_pos below] at mem
    refine wellNamed_of_mem_map_carriedTo (fun other declared => ?_)
      (named.isName_table inNodes).toHarmless mem
    exact named.of_mem_keysOfKind (rootOf_mem_nodes inNodes) declared
  · exact named.of_mem_keysOfKind inNodes mem

/-- A weak entity has a key of names if its owner has: a key column that is carried over keeps its
name and has that of the owner's table behind it. -/
theorem of_mem_weakKeyOf (inNodes : entity ∈ d.nodes) {owner? : Option KeyedEnd}
    (owned : ∀ owner ∈ owner?, ∀ key ∈ owner.keys, key.WellNamed) {key : Key}
    (mem : key ∈ d.weakKeyOf entity owner?) : key.WellNamed := by
  cases owner? with
  | none => exact absurd mem List.not_mem_nil
  | some owner =>
      rw [weakKeyOf] at mem
      split at mem
      · exact absurd mem List.not_mem_nil
      · rename_i partialKey found
        rcases List.mem_cons.1 mem with rfl | inherited
        · exact named.of_mem_keysOfKind inNodes (List.mem_of_head? found)
        · exact wellNamed_of_mem_map_carriedTo (owned owner rfl)
            (named.isName_table inNodes).toHarmless inherited

theorem of_mem_associativeKeyOf (inNodes : entity ∈ d.nodes) {references : List Reference}
    (referring : ∀ reference ∈ references, reference.WellNamed) {key : Key}
    (mem : key ∈ associativeKeyOf entity references) : key.WellNamed := by
  obtain ⟨reference, among, made⟩ := List.mem_flatMap.1 mem
  obtain ⟨_, typed, rfl⟩ := List.mem_map.1 made
  obtain ⟨isName, harmless⟩ := (referring reference among).typed typed
  exact ⟨(named.isName_table inNodes).toHarmless, isName, harmless⟩

/-- A key that is computed from well-named ones is well named. -/
theorem of_computed (inNodes : entity ∈ d.nodes) {keys : List Key}
    (computed : d.KeyComputed
      (fun other found => other ∈ d.nodes → ∀ key ∈ found, key.WellNamed) entity keys) :
    ∀ key ∈ keys, key.WellNamed := by
  intro key mem
  by_cases weak : entity.kind = .weakEntity
  · obtain ⟨owner?, first, rfl⟩ := (keyComputed_weak weak).1 computed
    refine named.of_mem_weakKeyOf inNodes (fun owner found => ?_) mem
    obtain rfl := Option.mem_def.1 found
    obtain ⟨candidate, among, told, _⟩ := first.mem_of_found
    exact told (owner_spec among).1
  by_cases associative : entity.kind = .associativeEntity
  · obtain ⟨ends, told, rfl⟩ := (keyComputed_associative associative).1 computed
    refine named.of_mem_associativeKeyOf inNodes (fun reference planned => ?_) mem
    unfold referencesOf at planned
    split at planned
    · exact absurd planned List.not_mem_nil
    · refine wellNamed_of_mem_planReferences (fun place inEnds => ?_) planned
      obtain ⟨neighbour, near, node, _, key⟩ := exists_of_mem_right told inEnds
      obtain ⟨otherIn, _⟩ := participant_spec near
      exact ⟨by rw [KeyedEnd.table, node]; exact named.isName_table otherIn, key otherIn⟩
  · obtain rfl := (keyComputed_strong weak associative).1 computed
    exact named.of_mem_strongKeyOf inNodes mem

theorem of_mem_keysAfter {settings : Settings} {diagram : Diagram}
    (read : diagram.classify = .ok d) (inNodes : entity ∈ d.nodes) :
    ∀ key ∈ keysAfter settings diagram d entity, key.WellNamed := by
  let Holds := fun (_ : Construct) (keys : List Key) => ∀ key ∈ keys, key.WellNamed
  have keyless : ∀ entity, Holds entity [] := fun _ _ mem => absurd mem List.not_mem_nil
  exact keysAfter_induction settings read keyless
    (fun entity inNodes keys computed => named.of_computed inNodes computed) inNodes

end WellNamed

end Classified

end EntitySchema
