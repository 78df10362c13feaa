/-
# EntitySchema.Proofs.StoredAttributes -- where the columns of a script come from

Columns come into a table when it is created or later (`Statement.introduces`).  A column keeps
a stored attribute of a diagram, or is made for a key or for the value of a multivalued
attribute.  `Classified.columnLedger` lists the columns of a script in order, each with the
attribute that it keeps, and `introduces_eq_columnLedger` says that it is complete.

An attribute that hangs off a single node stands in the ledger exactly once if the node has a
table of its own or a relationship is encoded, and not at all otherwise
(`filter_columnLedger`).  A relationship that is not encoded is reported.  A weak relationship
is neither: its attributes are lost (`ownedSince_lost`), and those of no other node
(`attribute_kept_or_reported_iff`).
-/
import EntitySchema.Proofs.Wholeness

namespace EntitySchema

set_option autoImplicit false

/-! ## Columns of a script -/

/-- A column that comes into a table, when the table is created or later. -/
structure Introduced where
  table : String
  column : Column
  created : Bool
  deriving DecidableEq, Repr

/-- The columns that a statement brings into a table. -/
def Statement.introduces : Statement → List Introduced
  | .createTable table columns => columns.map fun column => { table, column, created := true }
  | .addColumn table column => [{ table, column, created := false }]
  | _ => []

theorem skims_introduces : Skims Statement.introduces where
  trigger _ := rfl
  view _ _ := rfl

theorem introduces_map_addColumn (table : String) (columns : List Column) :
    (columns.map (.addColumn table)).flatMap Statement.introduces =
      columns.map fun column => { table, column, created := false } := by
  rw [List.flatMap_map, List.map_eq_flatMap]
  rfl

theorem introduces_tableKeys (table : String) (foreign : List ForeignKey) (primary : List String) :
    (tableKeys table foreign primary).flatMap Statement.introduces = [] := by
  simp [tableKeys, Statement.introduces, List.flatMap_map]

theorem introduces_triggers (plans : List TriggerPlan) :
    (plans.map (·.unnumbered)).flatMap Statement.introduces = [] := by
  rw [List.flatMap_eq_nil_iff]
  intro statement mem
  obtain ⟨_, _, rfl⟩ := List.mem_map.1 mem
  rfl

/-! ## The ledger -/

/-- A column that comes into a table, with the stored attribute that it keeps. -/
structure LedgerEntry where
  place : Introduced
  keeps : Option Construct := none
  deriving DecidableEq, Repr

/-- Columns that keep stored attributes. -/
def keptColumns (table : String) (created : Bool) (items : List Construct) : List LedgerEntry :=
  items.map fun item =>
    { place := { table, column := attributeColumn item, created }, keeps := some item }

/-- Columns that keep none. -/
def carriedColumnsAt (table : String) (created : Bool) (columns : List Column) :
    List LedgerEntry :=
  columns.map fun column => { place := { table, column, created } }

namespace Classified

def storedItems (d : Classified) (node : Construct) : List Construct :=
  (d.neighboursOf node.id (·.isStored)).map (·.2)

variable (d : Classified) (keys : KeyTable)

/-- The columns of the table of an entity. -/
def entityEntries (entity : Construct) : List LedgerEntry :=
  keptColumns (tableName entity.label) true (d.storedItems entity)

/-- The columns that a weak entity takes over. -/
def weakEntries (weak : Construct) : List LedgerEntry :=
  match d.partialKey? weak, d.ownerIn keys weak with
  | some _, some _ =>
      carriedColumnsAt (tableName weak.label) false (((keys weak).drop 1).map Key.asColumn)
  | _, _ => []

/-- The columns that the heirs of a generalization take over. -/
def heirEntries (generalization : Construct) : List LedgerEntry :=
  (d.heirs keys generalization).flatMap fun heir =>
    carriedColumnsAt heir.table false (heir.keys.map Key.asColumn)

/-- The columns that encode a relationship. -/
def relationshipEntries (reserved : Reservations) (node : Construct) : List LedgerEntry :=
  match d.encodingIn keys node with
  | .leftOut => []
  | .junction ends =>
      carriedColumnsAt (junctionTable ends) true (referenceColumns (planReferences [] ends))
        ++ keptColumns (junctionTable ends) true (d.storedItems node)
  | .embedding how =>
      carriedColumnsAt how.holder.table false
          ((d.referenceAfter keys reserved how).typedColumns.map fun typed =>
            { name := typed.1, sqlType := typed.2, notNull := how.notNull })
        ++ keptColumns how.holder.table false (d.storedItems node)

/-- The columns that encode relationships, one after the other. -/
def relationshipEntriesFrom (reserved : Reservations) : List Construct → List LedgerEntry
  | [] => []
  | node :: rest =>
      d.relationshipEntries keys reserved node
        ++ relationshipEntriesFrom (d.relationshipSketch keys reserved node).2 rest

/-- The columns by which an associative entity refers to its participants. -/
def associativeEntries (entity : Construct) : List LedgerEntry :=
  carriedColumnsAt (tableName entity.label) false (referenceColumns (d.referencesIn keys entity))

/-- The columns of the child table of a multivalued attribute. -/
def childEntries (surrogateType : String) (item : Construct) : List LedgerEntry :=
  match d.childOwner? keys item with
  | none => []
  | some owner =>
      let value := Text.lowerString (columnName item.label)
      carriedColumnsAt (childTable item owner) true
        ((keys owner).map Key.asColumn
          ++ [keyColumn ("pk-" ++ value) (some surrogateType),
              { name := value, sqlType := item.sqlType, notNull := !item.nullable }])

/-- The columns of a script in order. -/
def columnLedger (settings : Settings) : List LedgerEntry :=
  (d.ofKinds ownedKinds.contains).flatMap d.entityEntries
    ++ (d.ofKind .weakEntity).flatMap (d.weakEntries keys)
    ++ (d.ofKind .associativeEntity).flatMap d.entityEntries
    ++ (d.ofKinds (·.isGeneralization)).flatMap (d.heirEntries keys)
    ++ d.relationshipEntriesFrom keys [] (d.ofKind .relationship)
    ++ (d.ofKind .associativeEntity).flatMap (d.associativeEntries keys)
    ++ (d.ofKind .multivaluedAttribute).flatMap (d.childEntries keys settings.surrogateKeyType)

/-! ### The ledger is complete -/

section Complete

variable {d : Classified} {keys : KeyTable}

theorem map_attributeColumn_storedItems (d : Classified) (node : Construct) :
    (d.storedItems node).map attributeColumn = d.storedColumns node := by
  rw [storedItems, List.map_map]
  rfl

theorem map_place_keptColumns (d : Classified) (table : String) (created : Bool)
    (node : Construct) :
    (keptColumns table created (d.storedItems node)).map (·.place) =
      (d.storedColumns node).map fun column => { table, column, created } := by
  rw [← map_attributeColumn_storedItems, keptColumns, List.map_map, List.map_map]
  rfl

theorem map_place_carriedColumnsAt (table : String) (created : Bool) (columns : List Column) :
    (carriedColumnsAt table created columns).map (·.place) =
      columns.map fun column => { table, column, created } := by
  rw [carriedColumnsAt, List.map_map]
  rfl

theorem introduces_tableStatement (entity : Construct) :
    (d.tableStatement entity).introduces = (d.entityEntries entity).map (·.place) := by
  rw [entityEntries, map_place_keptColumns]
  rfl

theorem introduces_strongKeySketch (entity : Construct) :
    (d.strongKeySketch keys entity).statements.flatMap Statement.introduces = [] := by
  rw [statements_strongKeySketch]
  split <;> rfl

/-- A weak entity brings in the columns that it takes over, and its keys bring in none. -/
theorem introduces_weakKeySketch (weak : Construct) :
    (d.weakKeySketch keys weak).statements.flatMap Statement.introduces =
      (d.weakEntries keys weak).map (·.place) := by
  rw [statements_weakKeySketch, weakEntries]
  cases d.partialKey? weak with
  | none => rfl
  | some partialKey =>
      cases d.ownerIn keys weak with
      | none => rfl
      | some owner =>
          dsimp only
          rw [weakKeyStatements, addKeyColumns_eq, List.flatMap_append, introduces_map_addColumn,
            map_place_carriedColumnsAt]
          exact List.append_nil _

theorem introduces_subtypeKeyStatements (superclass heir : KeyedEnd) :
    (subtypeKeyStatements superclass heir).flatMap Statement.introduces =
      (carriedColumnsAt heir.table false (heir.keys.map Key.asColumn)).map (·.place) := by
  rw [subtypeKeyStatements, addKeyColumns_eq, List.flatMap_append, introduces_map_addColumn,
    map_place_carriedColumnsAt]
  exact List.append_nil _

/-- A generalization brings in what its heirs take over, in the order of its links. -/
theorem introduces_generalizationSketch (generalization : Construct) :
    (d.generalizationSketch keys generalization).statements.flatMap Statement.introduces =
      (d.heirEntries keys generalization).map (·.place) := by
  rw [statements_generalizationSketch, heirEntries, List.map_flatMap]
  cases found : d.superclassEnd? generalization with
  | none => simp [heirs, writesKeys, found]
  | some above =>
      dsimp only
      split
      · rename_i none
        rw [none]
        rfl
      · rw [List.flatMap_append, introduces_triggers, List.append_nil, List.flatMap_assoc]
        exact List.flatMap_congr fun heir _ => introduces_subtypeKeyStatements _ heir

/-- The columns of a relationship go into a table of their own, or into that of the holder, foreign
key before attributes. -/
theorem introduces_relationshipSketch (reserved : Reservations) (node : Construct) :
    (d.relationshipSketch keys reserved node).1.statements.flatMap Statement.introduces =
      (d.relationshipEntries keys reserved node).map (·.place) := by
  rw [statements_relationshipSketch, relationshipEntries]
  cases d.encodingIn keys node with
  | leftOut => rfl
  | junction ends =>
      dsimp only
      rw [junctionStatements, junctionKeys_eq, List.flatMap_cons, introduces_tableKeys,
        List.map_append, map_place_carriedColumnsAt, map_place_keptColumns, List.append_nil,
        ← List.map_append]
      rfl
  | embedding how =>
      dsimp only
      rw [embeddingStatements_eq, List.flatMap_append, List.flatMap_append, introduces_triggers,
        introduces_map_addColumn, List.map_append, List.map_append, map_place_carriedColumnsAt,
        map_place_keptColumns]
      simp [Statement.introduces]

theorem introduces_relationshipSketches (reserved : Reservations) (nodes : List Construct) :
    (d.relationshipSketches keys reserved nodes).flatMap
        (·.statements.flatMap Statement.introduces) =
      (d.relationshipEntriesFrom keys reserved nodes).map (·.place) := by
  induction nodes generalizing reserved with
  | nil => rfl
  | cons node rest ih =>
      rw [relationshipSketches, List.flatMap_cons, introduces_relationshipSketch, ih,
        relationshipEntriesFrom, List.map_append]

theorem introduces_associativeSketch (entity : Construct) :
    (d.associativeSketch keys entity).statements.flatMap Statement.introduces =
      (d.associativeEntries keys entity).map (·.place) := by
  rw [statements_associativeSketch, associativeEntries]
  by_cases none : d.referencesIn keys entity = []
  · rw [if_pos none, none]
    rfl
  · rw [if_neg none, associativeStatements, junctionKeys_eq, List.flatMap_append,
      introduces_tableKeys, introduces_map_addColumn, map_place_carriedColumnsAt]
    exact List.append_nil _

theorem introduces_multivaluedSketch (surrogateType : String) (item : Construct) :
    (d.multivaluedSketch keys surrogateType item).statements.flatMap Statement.introduces =
      (d.childEntries keys surrogateType item).map (·.place) := by
  rw [statements_multivaluedSketch, childEntries]
  cases d.childOwner? keys item with
  | none => rfl
  | some owner =>
      dsimp only
      rw [map_place_carriedColumnsAt]
      exact List.append_nil _

/-- The ledger lists all columns of a script. -/
theorem introduces_eq_columnLedger {settings : Settings} {diagram : Diagram}
    {result : CompileResult} (read : diagram.classify = .ok d)
    (compiled : compile settings diagram = .ok result) :
    result.statements.flatMap Statement.introduces =
      (d.columnLedger (keysAfter settings diagram d) settings).map (·.place) := by
  rw [skims_introduces.flatMap_statements read compiled]
  simp only [introduces_tableStatement, introduces_strongKeySketch, introduces_weakKeySketch,
    introduces_generalizationSketch, introduces_relationshipSketches, introduces_associativeSketch,
    introduces_multivaluedSketch, columnLedger, List.map_append, List.map_flatMap,
    flatMap_nothing, List.append_nil]

end Complete

/-! ### The entries of one attribute -/

/-- The table in which the attributes of a node are kept, and whether they are when it is
created. -/
def homeOf? (owner : Construct) : Option (String × Bool) :=
  match owner.kind with
  | .strongEntity | .weakEntity | .associativeEntity => some (tableName owner.label, true)
  | .relationship =>
      match d.encodingIn keys owner with
      | .leftOut => none
      | .junction ends => some (junctionTable ends, true)
      | .embedding how => some (how.holder.table, false)
  | _ => none

/-- The entry of an attribute in the table of a home. -/
def entryAt (item : Construct) (home : String × Bool) : LedgerEntry :=
  { place := { table := home.1, column := attributeColumn item, created := home.2 }
    keeps := some item }

section Entries

variable {d : Classified} {keys : KeyTable} {item owner : Construct} {link : Link}

theorem filter_carriedColumnsAt (table : String) (created : Bool) (columns : List Column) :
    (carriedColumnsAt table created columns).filter (·.keeps = some item) = [] := by
  rw [List.filter_eq_nil_iff]
  intro entry mem
  obtain ⟨_, _, rfl⟩ := List.mem_map.1 mem
  simp

/-! Keys and values keep no stored attribute. -/

theorem filter_weakEntries (weak : Construct) :
    (d.weakEntries keys weak).filter (·.keeps = some item) = [] := by
  unfold weakEntries
  split
  · exact filter_carriedColumnsAt _ _ _
  · rfl

theorem filter_heirEntries (generalization : Construct) :
    (d.heirEntries keys generalization).filter (·.keeps = some item) = [] := by
  rw [heirEntries, List.filter_flatMap, List.flatMap_eq_nil_iff]
  exact fun heir _ => filter_carriedColumnsAt _ _ _

theorem filter_associativeEntries (entity : Construct) :
    (d.associativeEntries keys entity).filter (·.keeps = some item) = [] :=
  filter_carriedColumnsAt _ _ _

theorem filter_childEntries (surrogateType : String) (multivalued : Construct) :
    (d.childEntries keys surrogateType multivalued).filter (·.keeps = some item) = [] := by
  unfold childEntries
  split
  · rfl
  · exact filter_carriedColumnsAt _ _ _

/-! The columns of attributes keep each of them. -/

theorem filter_keptColumns (table : String) (created : Bool) (items : List Construct) :
    (keptColumns table created items).filter (·.keeps = some item) =
      (items.filter (· = item)).map fun _ => entryAt item (table, created) := by
  rw [keptColumns, List.filter_map]
  have same : ((fun entry : LedgerEntry => decide (entry.keeps = some item)) ∘ fun other =>
      ({ place := { table, column := attributeColumn other, created }, keeps := some other }
        : LedgerEntry)) = fun other => decide (other = item) := by
    funext other
    simp
  rw [same]
  refine List.map_congr_left fun other mem => ?_
  obtain rfl : other = item := of_decide_eq_true (List.mem_filter.1 mem).2
  rfl

theorem mem_neighbours_of_sole (sole : d.neighbours item.id = [(link, owner)]) :
    (link, owner) ∈ d.neighbours item.id := by
  rw [sole]
  exact List.mem_singleton_self _

theorem mem_nodes_of_sole (sole : d.neighbours item.id = [(link, owner)]) : owner ∈ d.nodes :=
  mem_nodes_of_mem_neighbours (mem_neighbours_of_sole sole)

/-- An attribute that hangs off one node is stored there once, and nowhere else. -/
theorem filter_storedItems (inNodes : item ∈ d.nodes) (stored : item.kind.isStored = true)
    (sole : d.neighbours item.id = [(link, owner)]) {node : Construct} (nodeIn : node ∈ d.nodes) :
    (d.storedItems node).filter (· = item) = if node = owner then [item] else [] := by
  have near := mem_neighbours_of_sole sole
  -- neighbours are mutual, and the item has one only
  have only : ∀ other, (other, item) ∈ d.neighbours node.id → other = link ∧ node = owner := by
    intro other mem
    have back := mem_neighbours_comm nodeIn mem
    rw [sole] at back
    exact Prod.mk.inj (List.mem_singleton.1 back)
  rw [storedItems, List.filter_map]
  split
  · rename_i same
    subst same
    have alone : (d.neighboursOf node.id (·.isStored)).filter
        (fun neighbour => neighbour.2 = item) = [(link, item)] := by
      refine eq_singleton_of_nodup (((d.neighbours_nodup node.id).filter _).filter _) ?_ ?_
      · refine List.mem_filter.2 ⟨mem_neighboursOf_iff.2 ⟨?_, stored⟩, decide_eq_true rfl⟩
        exact mem_neighbours_comm inNodes near
      · rintro ⟨other, found⟩ mem
        obtain ⟨next, same⟩ := List.mem_filter.1 mem
        obtain rfl : found = item := of_decide_eq_true same
        rw [(only other (mem_neighboursOf_iff.1 next).1).1]
    exact congrArg (List.map Prod.snd) alone
  · rename_i apart
    rw [List.map_eq_nil_iff, List.filter_eq_nil_iff]
    rintro ⟨other, found⟩ mem same
    obtain rfl : found = item := of_decide_eq_true same
    exact apart (only other (mem_neighboursOf_iff.1 mem).1).2

/-- Of items without repetitions, only one contributes. -/
theorem flatMap_if_eq {α β : Type} [DecidableEq α] {items : List α} (distinct : items.Nodup)
    (chosen : α) (contribution : List β) :
    (items.flatMap fun item => if item = chosen then contribution else []) =
      if chosen ∈ items then contribution else [] := by
  split
  · rename_i mem
    rw [flatMap_eq_of_only distinct mem fun other _ apart => if_neg apart, if_pos rfl]
  · rename_i absent
    exact List.flatMap_eq_nil_iff.2 fun other mem => if_neg (ne_of_mem_of_not_mem mem absent)

section Sole

variable (inNodes : item ∈ d.nodes) (stored : item.kind.isStored = true)
  (sole : d.neighbours item.id = [(link, owner)])

include inNodes stored sole

theorem filter_keptColumns_of_sole {node : Construct} (nodeIn : node ∈ d.nodes) (table : String)
    (created : Bool) :
    (keptColumns table created (d.storedItems node)).filter (·.keeps = some item) =
      if node = owner then [entryAt item (table, created)] else [] := by
  rw [filter_keptColumns, filter_storedItems inNodes stored sole nodeIn]
  split <;> rfl

theorem filter_entityEntries (accepts : NodeKind → Bool) :
    ((d.ofKinds accepts).flatMap d.entityEntries).filter (·.keeps = some item) =
      if owner ∈ d.ofKinds accepts then [entryAt item (tableName owner.label, true)] else [] := by
  rw [List.filter_flatMap, ← flatMap_if_eq (nodup_ofKinds accepts)]
  refine List.flatMap_congr fun entity mem => ?_
  rw [entityEntries, filter_keptColumns_of_sole inNodes stored sole (mem_ofKinds_iff.1 mem).1]
  split
  · rename_i same
    rw [same]
  · rfl

/-- The entries of an attribute among the columns that encode a relationship. -/
theorem filter_relationshipEntries {node : Construct} (mem : node ∈ d.ofKind .relationship)
    (reserved : Reservations) :
    (d.relationshipEntries keys reserved node).filter (·.keeps = some item) =
      if node = owner then (d.homeOf? keys owner).toList.map (entryAt item) else [] := by
  obtain ⟨nodeIn, kind⟩ := mem_ofKind_iff.1 mem
  have kept := fun table created =>
    filter_keptColumns_of_sole inNodes stored sole nodeIn table created
  have home : node = owner → d.homeOf? keys owner =
      match d.encodingIn keys node with
      | .leftOut => none
      | .junction ends => some (junctionTable ends, true)
      | .embedding how => some (how.holder.table, false) := by
    rintro rfl
    rw [homeOf?, kind]
  rw [relationshipEntries]
  split <;> rename_i encoded <;> rw [encoded] at home
  · split
    · rename_i same
      rw [home same]
      rfl
    · rfl
  all_goals
    rw [List.filter_append, filter_carriedColumnsAt, kept, List.nil_append]
    split
    · rename_i same
      rw [home same]
      rfl
    · rfl

/-- An attribute of a relationship is kept where the relationship has its home, and by no other
relationship. -/
theorem filter_relationshipEntriesFrom (keys : KeyTable) {nodes : List Construct}
    (distinct : nodes.Nodup) (related : ∀ node ∈ nodes, node ∈ d.ofKind .relationship)
    (reserved : Reservations) :
    (d.relationshipEntriesFrom keys reserved nodes).filter (·.keeps = some item) =
      if owner ∈ nodes then (d.homeOf? keys owner).toList.map (entryAt item) else [] := by
  rw [← flatMap_if_eq distinct]
  clear distinct
  -- the names reserved so far matter to key columns, and those keep no attribute
  induction nodes generalizing reserved with
  | nil => rfl
  | cons node rest ih =>
      rw [relationshipEntriesFrom, List.filter_append, List.flatMap_cons,
        filter_relationshipEntries inNodes stored sole (related node List.mem_cons_self),
        ih fun other mem => related other (List.mem_cons_of_mem node mem)]

/-- An attribute that hangs off one node has the entry of its home in the ledger, and no other. -/
theorem filter_columnLedger (keys : KeyTable) (settings : Settings) :
    (d.columnLedger keys settings).filter (·.keeps = some item) =
      (d.homeOf? keys owner).toList.map (entryAt item) := by
  have ownerIn := mem_nodes_of_sole sole
  have distinct : (d.ofKind .relationship).Nodup := nodup_ofKinds (· == _)
  have owned := filter_entityEntries inNodes stored sole ownedKinds.contains
  have associative := filter_entityEntries inNodes stored sole (· == .associativeEntity)
  have related := filter_relationshipEntriesFrom inNodes stored sole keys distinct
    (fun _ mem => mem) []
  have carried : ∀ {entries : Construct → List LedgerEntry} (nodes : List Construct),
      (∀ node, (entries node).filter (·.keeps = some item) = []) →
        (nodes.flatMap entries).filter (·.keeps = some item) = [] := by
    intro entries nodes none
    rw [List.filter_flatMap, List.flatMap_eq_nil_iff]
    exact fun node _ => none node
  rw [columnLedger]
  simp only [List.filter_append]
  rw [owned, carried _ filter_weakEntries, ofKind, associative, carried _ filter_heirEntries,
    related, carried _ filter_associativeEntries,
    carried _ (filter_childEntries settings.surrogateKeyType)]
  simp only [mem_ofKinds_iff, mem_ofKind_iff, ownerIn, true_and, List.append_nil]
  -- of the three kinds of nodes that keep attributes, the owner is of one at most
  cases kind : owner.kind <;> simp [homeOf?, kind, ownedKinds]

end Sole

end Entries

/-! ## Issues -/

section Issues

variable {d : Classified} {keys : KeyTable} {issue : Issue}

/-- An issue about a generalization names it or one of its subtypes. -/
theorem nodeId_of_mem_generalizationSketch {generalization : Construct}
    (mem : issue ∈ (d.generalizationSketch keys generalization).issues) :
    issue.nodeId = some generalization.id ∨
      ∃ neighbour ∈ d.subtypeEnds generalization, issue.nodeId = some neighbour.2.id := by
  have alone : ∀ omission : Omission, omission.issue.nodeId = some generalization.id →
      issue ∈ omission.sketch.issues → issue.nodeId = some generalization.id := by
    rintro omission named inSketch
    rw [List.mem_singleton.1 inSketch, named]
  have others : issue ∈ d.otherSubtypeIssues generalization →
      ∃ neighbour ∈ d.subtypeEnds generalization, issue.nodeId = some neighbour.2.id := by
    intro inOthers
    obtain ⟨neighbour, inEnds, rfl⟩ := List.mem_map.1 inOthers
    exact ⟨neighbour, List.mem_of_mem_filter inEnds, rfl⟩
  unfold generalizationSketch at mem
  split at mem
  · exact .inl (alone _ rfl mem)
  dsimp only at mem
  split at mem
  · exact .inl (alone _ rfl mem)
  split at mem
  · exact .inl (alone _ rfl mem)
  split at mem
  · exact .inr (others mem)
  · rcases List.mem_append.1 mem with inOthers | last
    · exact .inr (others inOthers)
    · exact .inl (alone _ rfl last)

/-- The issues of a construct name it or, if it is a generalization, one of its subtypes. -/
theorem node_of_mem_issues {settings : Settings} {phase : Phase} {node : Construct}
    {sketch : Sketch} (handled : node ∈ d.handledIn phase)
    (drafts : Drafts settings d keys phase node sketch) (mem : issue ∈ sketch.issues) :
    ∃ named ∈ d.nodes, named.kind ≠ .weakRelationship ∧ issue.nodeId = some named.id := by
  obtain ⟨inNodes, kind⟩ := kind_of_mem_handledIn handled
  by_cases settling : phase ∈ settlingPhases
  · by_cases root : phase = .primaryKeys → d.generalizationOf? node = none
    · exact ⟨node, inNodes, kind, (drafts.wholeOrReported settling root 0).nodeId_of_mem mem⟩
    · obtain ⟨rfl, isSubtype⟩ := Classical.not_imp.1 root
      cases drafts
      simp [strongKeySketch, Option.isSome_iff_ne_none, isSubtype] at mem
  · cases drafts with
    | ownedTable | associativeTable => exact absurd mem List.not_mem_nil
    | generalization =>
        obtain itself | ⟨⟨link, subtype⟩, inEnds, named⟩ := nodeId_of_mem_generalizationSketch mem
        · exact ⟨node, inNodes, kind, itself⟩
        · obtain ⟨near, isEntity, _⟩ := mem_subtypeEnds_iff.1 inEnds
          refine ⟨subtype, mem_nodes_of_mem_neighbours near, fun weak => ?_, named⟩
          simp [weak, NodeKind.isEntity] at isEntity
    | _ => exact absurd (by decide) settling

end Issues

end Classified

/-! ## Runs -/

open Classified

/-- A table that keeps the attributes of a node, and whether it does from its creation on: the
table of an entity, the junction table of a relationship, or the table that holds its foreign
key. -/
inductive KeepsAttributesOf (d : Classified) (keys : KeyTable) (statements : List Statement)
    (owner : Construct) : String → Bool → Prop
  | entity : owner.kind.isEntity = true →
      KeepsAttributesOf d keys statements owner (tableName owner.label) true
  | junction {ends : List KeyedEnd} : owner.kind = .relationship →
      d.encodingIn keys owner = .junction ends →
        KeepsAttributesOf d keys statements owner (junctionTable ends) true
  | embedding {how : Embedding} {key : ForeignKey} : owner.kind = .relationship →
      d.encodingIn keys owner = .embedding how → .addForeignKey key ∈ statements →
      key.table = how.holder.table → key.refTable = how.target.table →
      key.constraint = "FK_" ++ key.table ++ "_" ++ tableName owner.label →
        KeepsAttributesOf d keys statements owner key.table false

/-- Exactly one column of the script keeps the attribute, and it is in the table that keeps those
of its owner. -/
def AttributeKept (settings : Settings) (d : Classified) (keys : KeyTable)
    (statements : List Statement) (item owner : Construct) : Prop :=
  ∃ table created, KeepsAttributesOf d keys statements owner table created ∧
    (d.columnLedger keys settings).filter (·.keeps = some item) =
      [{ place :=
          { table, created
            column := { name := columnName item.label, sqlType := item.sqlType,
                        notNull := !item.nullable } }
         keeps := some item }]

def CompileResult.Reports (result : CompileResult) (node : Construct) : Prop :=
  ∃ issue ∈ result.issues, issue.nodeId = some node.id

/-- An embedding has a foreign key that is named after the relationship. -/
theorem exists_key_of_embedding (d : Classified) (node : Construct) (how : Embedding)
    (reference : Reference) :
    ∃ key : ForeignKey, .addForeignKey key ∈ embeddingStatements d node how reference ∧
      key.table = how.holder.table ∧ key.refTable = how.target.table ∧
        key.constraint = "FK_" ++ key.table ++ "_" ++ tableName node.label :=
  ⟨_, mem_embeddingStatements_iff.2 rfl, rfl, rfl, rfl⟩

section Compiled

variable {settings : Settings} {diagram : Diagram} {d : Classified} {result : CompileResult}
  (read : diagram.classify = .ok d) (compiled : compile settings diagram = .ok result)

include read compiled

/-- No issue names a weak relationship. -/
theorem not_reports_weakRelationship {node : Construct} (inNodes : node ∈ d.nodes)
    (weak : node.kind = .weakRelationship) : ¬result.Reports node := by
  rintro ⟨issue, mem, named⟩
  obtain ⟨share, divides, drafted⟩ := exists_shares read compiled
  rw [← (flatMap_statementsOf read compiled).2] at mem
  obtain ⟨phase, _, inPhase⟩ := List.mem_flatMap.1 mem
  rw [divides.issues phase] at inPhase
  obtain ⟨handled, inHandled, inShare⟩ := List.mem_flatMap.1 inPhase
  obtain ⟨sketch, code, drafts, same⟩ := drafted phase handled inHandled
  rw [same] at inShare
  obtain ⟨other, otherIn, kind, names⟩ := node_of_mem_issues inHandled drafts inShare
  have sameId : other.id = node.id := Option.some.inj (names.symm.trans named)
  rw [eq_of_id_eq otherIn inNodes sameId] at kind
  exact kind weak

/-- A relationship is reported, or there is a table that keeps its attributes. -/
theorem relationship_reported_or_keeps {node : Construct} (inKind : node ∈ d.ofKind .relationship) :
    match d.homeOf? (keysAfter settings diagram d) node with
    | none => result.Reports node
    | some (table, created) => KeepsAttributesOf d (keysAfter settings diagram d) result.statements
        node table created := by
  obtain ⟨inNodes, kind⟩ := mem_ofKind_iff.1 inKind
  have handled : node ∈ d.handledIn .relationships := List.mem_append_left _ inKind
  obtain ⟨share, divides, drafted⟩ := exists_shares read compiled
  obtain ⟨sketch, code, drafts, same⟩ := drafted .relationships node handled
  cases drafts with
  | associativeEntity other => cases other.symm.trans kind
  | @relationship _ reserved _ =>
      have spec := relationshipSketch_spec d (keysAfter settings diagram d) reserved node
      rw [homeOf?, kind]
      dsimp only
      cases encoded : d.encodingIn (keysAfter settings diagram d) node with
      | leftOut =>
          rw [encoded] at spec
          obtain ⟨omission, named, left⟩ := spec
          refine ⟨omission.issue, divides.issues_subset handled ?_, named⟩
          rw [same, left]
          exact List.mem_singleton_self _
      | junction ends => exact .junction kind encoded
      | embedding how =>
          rw [encoded] at spec
          have inShare := divides.statements_subset handled
          rw [same, spec, numbered_embeddingSketch] at inShare
          obtain ⟨key, isKey, table, target, constraint⟩ := exists_key_of_embedding d node how
            (d.referenceAfter (keysAfter settings diagram d) reserved how)
          have inScript := inShare (List.mem_append_left _ isKey)
          dsimp only
          rw [← table]
          exact .embedding kind encoded inScript table target constraint

/-- An attribute that hangs off one node, which is an entity or a relationship, is kept in one
column or its owner is reported, unless the owner is a weak relationship. -/
theorem attribute_kept_or_reported_iff {item owner : Construct} {link : Link}
    (inNodes : item ∈ d.nodes) (stored : item.kind.isStored = true)
    (sole : d.neighbours item.id = [(link, owner)])
    (hangs : owner.kind.isEntity = true ∨ owner.kind = .relationship ∨
      owner.kind = .weakRelationship) :
    let keys := keysAfter settings diagram d
    result.statements.flatMap Statement.introduces =
        (d.columnLedger keys settings).map (·.place) ∧
      (AttributeKept settings d keys result.statements item owner ∨ result.Reports owner ↔
        owner.kind ≠ .weakRelationship) := by
  intro keys
  have ownerIn := mem_nodes_of_sole sole
  have entries := filter_columnLedger inNodes stored sole keys settings
  refine ⟨introduces_eq_columnLedger read compiled, ?_, fun strong => ?_⟩
  · rintro (⟨table, created, _, only⟩ | reported) weak
    · rw [entries, homeOf?, weak] at only
      simp at only
    · exact not_reports_weakRelationship read compiled ownerIn weak reported
  · obtain isEntity | related | weak := hangs
    · have home : d.homeOf? keys owner = some (tableName owner.label, true) := by
        unfold homeOf?
        cases kind : owner.kind <;> simp [kind, NodeKind.isEntity] at isEntity ⊢
      rw [home] at entries
      exact .inl ⟨_, _, .entity isEntity, entries⟩
    · have settled := relationship_reported_or_keeps read compiled
        (mem_ofKind_iff.2 ⟨ownerIn, related⟩)
      cases home : d.homeOf? keys owner with
      | none =>
          rw [home] at settled
          exact .inr settled
      | some place =>
          rw [home] at settled entries
          exact .inl ⟨_, _, settled, entries⟩
    · exact absurd weak strong

end Compiled

/-- A relationship with an attribute, embedded in the table of one of its ends. -/
def memberSince : Diagram :=
  { nodes :=
      [.drawn "m" "Member" "StrongEntity", .drawn "k" "k" "KeyAttribute",
       .drawn "c" "Club" "StrongEntity", .drawn "j" "j" "KeyAttribute",
       .drawn "r" "Belongs" "Relationship", .drawn "a" "since" "Attribute"]
    connections :=
      [.drawn "1" "m" "k", .drawn "2" "c" "j", .drawn "3" "r" "m" "SingleLineToMany",
       .drawn "4" "r" "c" "SingleLineToOne", .drawn "5" "a" "r"]
    node_ids_nodup := by decide
    connection_ids_nodup := by decide }

/-- The attribute of the relationship is kept. -/
theorem memberSince_kept :
    ∃ d result, memberSince.classify = .ok d ∧ compile {} memberSince = .ok result ∧
      ∃ item ∈ d.nodes, ∃ link owner, d.neighbours item.id = [(link, owner)] ∧
        owner.kind = .relationship ∧
        AttributeKept {} d (keysAfter {} memberSince d) result.statements item owner := by
  have checked : classifiesTo memberSince (fun d => d.nodes.any fun item =>
      item.kind.isStored && (d.neighbours item.id).length == 1
        && (d.neighbours item.id).all (·.2.kind == .relationship)) = true := by decide +kernel
  have unreported : (compile {} memberSince).toOption.map (·.issues) = some [] := by decide +kernel
  obtain ⟨d, read, found⟩ := exists_of_classifiesTo checked
  obtain ⟨result, made, noIssue⟩ := Option.map_eq_some_iff.1 unreported
  have compiled := eq_ok_of_toOption made
  obtain ⟨item, inNodes, holds⟩ := List.any_eq_true.1 found
  simp only [Bool.and_eq_true, beq_iff_eq, List.all_eq_true] at holds
  obtain ⟨⟨stored, single⟩, related⟩ := holds
  obtain ⟨⟨link, owner⟩, sole⟩ := List.length_eq_one_iff.1 single
  have kind : owner.kind = .relationship := related _ (mem_neighbours_of_sole sole)
  have settled := (attribute_kept_or_reported_iff read compiled inNodes stored sole
    (.inr (.inl kind))).2.2 (by rw [kind]; decide)
  refine ⟨d, result, read, compiled, item, inNodes, link, owner, sole, kind, ?_⟩
  refine settled.resolve_right ?_
  rintro ⟨issue, mem, _⟩
  rw [noIssue] at mem
  exact absurd mem List.not_mem_nil

/-- A weak entity whose weak relationship to its owner has an attribute. -/
def ownedSince : Diagram :=
  { nodes :=
      [.drawn "w" "W" "WeakEntity", .drawn "p" "p" "PartialKeyAttribute",
       .drawn "r" "R" "WeakRelationship", .drawn "s" "S" "StrongEntity",
       .drawn "k" "k" "KeyAttribute", .drawn "a" "since" "Attribute"]
    connections :=
      [.drawn "1" "w" "p", .drawn "2" "w" "r", .drawn "3" "r" "s", .drawn "4" "s" "k",
       .drawn "5" "a" "r"]
    node_ids_nodup := by decide
    connection_ids_nodup := by decide }

/-- The attribute of the weak relationship has no column, and nothing is reported. -/
theorem ownedSince_lost :
    ∃ d result, ownedSince.classify = .ok d ∧ compile {} ownedSince = .ok result ∧
      (∀ item ∈ d.nodes, item.kind.isStored = true → (d.neighbours item.id).length = 1 ∧
        ∀ neighbour ∈ d.neighbours item.id, neighbour.2.kind.isEntity = true ∨
          neighbour.2.kind = .relationship ∨ neighbour.2.kind = .weakRelationship) ∧
      result.issues = [] ∧
      ∃ item ∈ d.nodes, item.kind.isStored = true ∧
        columnName item.label ∉
          (result.statements.flatMap Statement.introduces).map (·.column.name) := by
  have checked : classifiesTo ownedSince (fun d => decide
      ((∀ item ∈ d.nodes, item.kind.isStored = true → (d.neighbours item.id).length = 1 ∧
        ∀ neighbour ∈ d.neighbours item.id, neighbour.2.kind.isEntity = true ∨
          neighbour.2.kind = .relationship ∨ neighbour.2.kind = .weakRelationship) ∧
        ∃ item ∈ d.nodes, item.kind.isStored = true ∧ columnName item.label = "since")) =
      true := by decide +kernel
  have script : (compile {} ownedSince).toOption.map (fun result =>
      (result.issues, (result.statements.flatMap Statement.introduces).map (·.column.name))) =
        some ([], ["p", "k", "k-s"]) := by decide +kernel
  obtain ⟨d, read, holds⟩ := exists_of_classifiesTo checked
  obtain ⟨single, item, inNodes, stored, name⟩ := of_decide_eq_true holds
  obtain ⟨result, made, same⟩ := Option.map_eq_some_iff.1 script
  obtain ⟨noIssue, columns⟩ := Prod.mk.inj same
  refine ⟨d, result, read, eq_ok_of_toOption made, single, noIssue, item, inNodes, stored, ?_⟩
  rw [columns, name]
  decide

end EntitySchema
