/-
# EntitySchema.Proofs.ViewNames -- when no view replaces another

Views are written so that a second one of the same name takes the place of the first.
The first view over an entity is named after its table, and one that finds this name in
use after the attribute as well.  Whether the longer name is in use is not asked, and
since table names hold underscores too, it may be: the view of `A` over `E` is
`VW_E_A`, and so is the first one over an entity `E A` (`splitName`).

`InUse` says of the tables and attributes alone which names are in use, and
`Classified.ViewsApart` what may not happen between views over different entities.
`view_names_distinct_exactly` shows that this is enough and that nothing less is; views
over one entity never meet as long as its attributes have different names.
-/
import EntitySchema.Proofs.Independence
import EntitySchema.Proofs.PrimaryKeys

namespace EntitySchema

open Inquiry

set_option autoImplicit false

/-! ## Views -/

/-- A derived attribute that becomes a view, with the entity that it hangs off. -/
structure View where
  item : Construct
  owner : Construct
  deriving DecidableEq, Repr

namespace View

def table (view : View) : String := tableName view.owner.label

def longTable (view : View) : String := view.table ++ "_" ++ tableName view.item.label

theorem longTable_ne_table (view : View) : view.longTable ≠ view.table := by
  intro same
  have letters := congrArg String.toList same
  simp [longTable, String.toList_append] at letters

/-- Two views over one entity have different long names if their attributes do. -/
theorem item_name_eq {first second : View} (sameOwner : first.owner = second.owner)
    (same : first.longTable = second.longTable) :
    tableName first.item.label = tableName second.item.label := by
  simpa [longTable, table, sameOwner] using same

end View

/-- Whether some views, the latest first, have brought the name of a table into use: one is
over the table, or one that was given its long name spells the table with it. -/
def InUse : List View → String → Prop
  | [], _ => False
  | view :: earlier, table =>
      view.table = table ∨ (InUse earlier view.table ∧ view.longTable = table) ∨ InUse earlier table

/-- The names of some views, the latest first. -/
def namesOf : List View → List String
  | [] => []
  | view :: earlier => viewName (namesOf earlier) view.item view.owner :: namesOf earlier

/-- Which names are in use can be told from the tables alone, without going through the choice of
each view. -/
theorem mem_namesOf_iff {views : List View} {table : String} :
    "VW_" ++ table ∈ namesOf views ↔ InUse views table := by
  induction views generalizing table with
  | nil => simp [namesOf, InUse]
  | cons view earlier ih =>
      have own : "VW_" ++ tableName view.owner.label ∈ namesOf earlier ↔
          InUse earlier view.table := ih
      rw [namesOf, List.mem_cons, ih, viewName, InUse]
      by_cases used : InUse earlier view.table
      · rw [if_pos (own.2 used)]
        constructor
        · rintro (spelled | known)
          · exact .inr (.inl ⟨used, by simpa [View.longTable, View.table, String.append_assoc]
              using spelled.symm⟩)
          · exact .inr (.inr known)
        · rintro (rfl | ⟨_, rfl⟩ | known)
          · exact .inr used
          · exact .inl (by simp [View.longTable, View.table, String.append_assoc])
          · exact .inr known
      · rw [if_neg fun mem => used (own.1 mem)]
        constructor
        · rintro (spelled | known)
          · exact .inl (by simpa [View.table] using spelled.symm)
          · exact .inr (.inr known)
        · rintro (rfl | ⟨taken, _⟩ | known)
          · exact .inl rfl
          · exact absurd taken used
          · exact .inr known

/-- The table by which a view is named, and when it is the long one. -/
theorem viewName_mem_namesOf_iff (view : View) (earlier : List View) :
    viewName (namesOf earlier) view.item view.owner ∈ namesOf earlier ↔
      InUse earlier view.table ∧ InUse earlier view.longTable := by
  have own : "VW_" ++ tableName view.owner.label ∈ namesOf earlier ↔ InUse earlier view.table :=
    mem_namesOf_iff
  have long : "VW_" ++ tableName view.owner.label ++ "_" ++ tableName view.item.label =
      "VW_" ++ view.longTable := by
    simp [View.longTable, View.table, String.append_assoc]
  rw [viewName]
  by_cases used : InUse earlier view.table
  · rw [if_pos (own.2 used), long, mem_namesOf_iff, and_iff_right used]
  · rw [if_neg fun mem => used (own.1 mem), own]
    simp [used]

/-- What is in use is the short name of a view that found it free, or the long name of one
that did not. -/
theorem inUse_iff {views : List View} {table : String} :
    InUse views table ↔ ∃ first before, first :: before <:+ views ∧
      ((¬InUse before first.table ∧ first.table = table) ∨
        (InUse before first.table ∧ first.longTable = table)) := by
  induction views with
  | nil => simp [InUse]
  | cons view earlier ih =>
      constructor
      · intro used
        have later : InUse earlier table → _ := fun known =>
          (ih.1 known).imp fun first found => found.imp fun before ⟨among, spelled⟩ =>
            (⟨among.trans (List.suffix_cons view earlier), spelled⟩ :
              first :: before <:+ view :: earlier ∧ _)
        obtain own | long | known := used
        · by_cases taken : InUse earlier view.table
          · exact later (own ▸ taken)
          · exact ⟨view, earlier, List.suffix_refl _, .inl ⟨taken, own⟩⟩
        · exact ⟨view, earlier, List.suffix_refl _, .inr long⟩
        · exact later known
      · rintro ⟨first, before, among, spelled⟩
        rcases List.suffix_cons_iff.1 among with here | among
        · obtain ⟨rfl, rfl⟩ := List.cons.inj here
          exact spelled.imp (·.2) .inl
        · exact .inr (.inr (ih.2 ⟨first, before, among, spelled⟩))

/-- The names differ exactly if no view is given a long name that is in use. -/
theorem namesOf_nodup_iff {views : List View} :
    (namesOf views).Nodup ↔ ∀ second earlier, second :: earlier <:+ views →
      InUse earlier second.table → ¬InUse earlier second.longTable := by
  induction views with
  | nil => simp [namesOf]
  | cons view earlier ih =>
      rw [namesOf, List.nodup_cons, viewName_mem_namesOf_iff, ih]
      constructor
      · rintro ⟨fresh, apart⟩ second before among used taken
        rcases List.suffix_cons_iff.1 among with here | among
        · obtain ⟨rfl, rfl⟩ := List.cons.inj here
          exact fresh ⟨used, taken⟩
        · exact apart second before among used taken
      · intro apart
        refine ⟨fun both => apart view earlier (List.suffix_refl _) both.1 both.2, ?_⟩
        exact fun second before among => apart second before (among.trans (List.suffix_cons _ _))

namespace Classified

variable {d : Classified}

/-! ## The views of a diagram -/

/-- The view of a derived attribute that hangs off an entity and carries a query. -/
def view? (d : Classified) (item : Construct) : Option View :=
  (d.ownerOf? item).bind fun owner => (queryOf? item).map fun _ => { item, owner }

def views (d : Classified) : List View := (d.ofKind .derivedAttribute).filterMap d.view?

theorem view?_spec {item : Construct} {view : View} (made : d.view? item = some view) :
    view.item = item ∧ d.ownerOf? item = some view.owner := by
  obtain ⟨owner, owned, made⟩ := Option.bind_eq_some_iff.1 made
  obtain ⟨_, _, rfl⟩ := Option.map_eq_some_iff.1 made
  exact ⟨rfl, owned⟩

/-- The names that the synthesis carries along are those of the views so far, the latest first;
attributes without a view bring in none. -/
theorem viewsAfter_namesOf (earlier : List View) (items : List Construct) :
    d.viewsAfter (namesOf earlier) items =
      namesOf ((items.filterMap d.view?).reverse ++ earlier) := by
  induction items generalizing earlier with
  | nil => rfl
  | cons item rest ih =>
      rw [viewsAfter]
      split
      · rename_i orphan
        rw [ih, List.filterMap_cons_none (by simp [view?, orphan])]
      · rename_i owner owned
        split
        · rename_i none
          rw [ih, List.filterMap_cons_none (by simp [view?, none])]
        · rename_i query asked
          have made : d.view? item = some ⟨item, owner⟩ := by simp [view?, owned, asked]
          have next := ih (⟨item, owner⟩ :: earlier)
          rw [namesOf] at next
          rw [next, List.filterMap_cons_some made, List.reverse_cons, List.append_assoc]
          rfl

def viewNamesIn (statements : List Statement) : List String := statements.filterMap (·.viewName?)

/-- The names of the views among some parts. -/
def partViewNames (parts : List Part) : List String :=
  parts.filterMap fun part => part.statement?.bind (·.viewName?)

theorem partViewNames_of_yields {sketch : Sketch} {output : Output}
    (yields : sketch.Yields output) : partViewNames sketch.parts = viewNamesIn output.statements := by
  have read := congrArg (List.filterMap fun statement? => statement?.bind Statement.viewName?)
    yields.1
  rwa [List.filterMap_map, List.filterMap_map] at read

/-- The names that have come into use are those of the views. -/
theorem viewsAfter_eq (used : List String) (items : List Construct) :
    d.viewsAfter used items =
      (partViewNames ((d.viewSketches used items).flatMap (·.parts))).reverse ++ used := by
  fun_induction d.viewsAfter used items with
  | case1 => rfl
  | case2 used item rest orphan ih => simpa [viewSketches, orphan, Omission.sketch] using ih
  | case3 used item rest owner owned none ih =>
      simpa [viewSketches, owned, none, Omission.sketch] using ih
  | case4 used item rest owner owned query asked ih =>
      rw [ih]
      simp [viewSketches, owned, asked, partViewNames, Part.statement?, Statement.viewName?]

/-- The names of the views that are made, whatever is remembered by then. -/
theorem viewNames_derivedAttributes (d : Classified) (session : Session) :
    viewNamesIn ((derivedAttributes d).answer session).statements =
      (namesOf d.views.reverse).reverse := by
  obtain ⟨_, _, drawn⟩ := draws_derivedAttributes (d := d) (P := fun _ => True) session trivial
  have yields := drawn _ (.refl _) _ (KeyTable.ofMemo_holds _)
  have used := viewsAfter_namesOf (d := d) [] (d.ofKind .derivedAttribute)
  rw [List.append_nil, namesOf, viewsAfter_eq, List.append_nil] at used
  rw [views, ← used, List.reverse_reverse, ← partViewNames_of_yields yields]
  rfl

/-! ## Distinct names -/

/-- The derived attributes of each entity have different names. -/
def DerivedApart (d : Classified) : Prop :=
  ∀ owner ∈ d.ofKinds (·.isEntity),
    (((d.ofKind .derivedAttribute).filter (d.ownerOf? · = some owner)).map
      (tableName ·.label)).Nodup

instance : Decidable d.DerivedApart := inferInstanceAs (Decidable (∀ owner ∈ _, _))

/-- Of two views over different entities the second, if it is given the long name, is named
neither like the first under its short name nor like the first under its long one. -/
structure ViewsApart (d : Classified) : Prop where
  fromShort : ∀ first second : View, ∀ before earlier, second :: earlier <:+ d.views.reverse →
    first :: before <:+ earlier → first.owner ≠ second.owner → InUse earlier second.table →
      ¬InUse before first.table → first.table ≠ second.longTable
  fromLong : ∀ first second : View, ∀ before earlier, second :: earlier <:+ d.views.reverse →
    first :: before <:+ earlier → first.owner ≠ second.owner → InUse earlier second.table →
      InUse before first.table → first.longTable ≠ second.longTable

theorem views_nodup (d : Classified) : d.views.Nodup := by
  refine (d.nodes_nodup.filter _).filterMap fun first second view madeFirst madeSecond => ?_
  rw [← (view?_spec madeFirst).1, (view?_spec madeSecond).1]

/-- Views over one entity have different long names. -/
theorem DerivedApart.longTable_ne (apart : d.DerivedApart) {first second : View}
    (firstIn : first ∈ d.views) (secondIn : second ∈ d.views) (sameOwner : first.owner = second.owner)
    (differ : first ≠ second) : first.longTable ≠ second.longTable := by
  intro same
  obtain ⟨item, itemIn, madeFirst⟩ := List.mem_filterMap.1 firstIn
  obtain ⟨other, otherIn, madeSecond⟩ := List.mem_filterMap.1 secondIn
  obtain ⟨rfl, ownedFirst⟩ := view?_spec madeFirst
  obtain ⟨rfl, ownedSecond⟩ := view?_spec madeSecond
  have listed : ∀ view : View, view.item ∈ d.ofKind .derivedAttribute →
      d.ownerOf? view.item = some first.owner →
      view.item ∈ (d.ofKind .derivedAttribute).filter (d.ownerOf? · = some first.owner) :=
    fun view inKind owned => List.mem_filter.2 ⟨inKind, decide_eq_true owned⟩
  have ownerIn := mem_ofKinds_iff.2 (ownerOf_mem_nodes ownedFirst)
  have sameItem := List.inj_on_of_nodup_map (apart first.owner ownerIn) (listed first itemIn ownedFirst)
    (listed second otherIn (sameOwner ▸ ownedSecond)) (View.item_name_eq sameOwner same)
  cases first
  cases second
  simp_all

end Classified

open Classified

/-- The views have names of their own exactly when no two over different entities are
named alike; those over one entity are told apart by the names of their attributes. -/
theorem view_names_distinct_exactly {d : Classified} (apart : d.DerivedApart)
    (session : Session) :
    (viewNamesIn ((derivedAttributes d).answer session).statements).Nodup ↔ d.ViewsApart := by
  rw [viewNames_derivedAttributes, List.nodup_reverse, namesOf_nodup_iff]
  constructor
  · intro free
    constructor
    · intro first second before earlier inViews inEarlier _ used fresh same
      exact free second earlier inViews used
        (inUse_iff.2 ⟨first, before, inEarlier, .inl ⟨fresh, same⟩⟩)
    · intro first second before earlier inViews inEarlier _ used long same
      exact free second earlier inViews used
        (inUse_iff.2 ⟨first, before, inEarlier, .inr ⟨long, same⟩⟩)
  · intro views second earlier inViews used taken
    obtain ⟨first, before, inEarlier, ⟨fresh, same⟩ | ⟨long, same⟩⟩ := inUse_iff.1 taken
    · by_cases sameOwner : first.owner = second.owner
      · exact second.longTable_ne_table (by rw [← same, View.table, View.table, sameOwner])
      · exact views.fromShort first second before earlier inViews inEarlier sameOwner used fresh same
    · by_cases sameOwner : first.owner = second.owner
      · have distinct := (List.nodup_reverse.2 d.views_nodup).sublist inViews.sublist
        have firstIn : first ∈ earlier := inEarlier.subset List.mem_cons_self
        have differ : first ≠ second := fun same => (List.nodup_cons.1 distinct).1 (same ▸ firstIn)
        have listed : ∀ view ∈ second :: earlier, view ∈ d.views := fun view mem =>
          List.mem_reverse.1 (inViews.subset mem)
        exact apart.longTable_ne (listed first (List.mem_cons_of_mem _ firstIn))
          (listed second List.mem_cons_self) sameOwner differ same
      · exact views.fromLong first second before earlier inViews inEarlier sameOwner used long same

/-- A derived attribute with a query. -/
def Node.derived (id label : String) : Node String :=
  { id, label, kind := "DerivedAttribute", sqlExpression := some "SELECT 1 FROM DUAL" }

/-- An entity `E` with two derived attributes, of which `A` is the second, and an entity `E A`
with one that comes between them. -/
def splitName : Diagram :=
  { nodes :=
      [.drawn "e" "E" "StrongEntity", .drawn "k" "k" "KeyAttribute",
       .drawn "f" "E A" "StrongEntity", .drawn "l" "l" "KeyAttribute",
       .derived "x" "X", .derived "y" "Y", .derived "a" "A"]
    connections :=
      [.drawn "1" "e" "k", .drawn "2" "f" "l", .drawn "3" "e" "x", .drawn "4" "f" "y",
       .drawn "5" "e" "a"]
    node_ids_nodup := by decide
    connection_ids_nodup := by decide }

/-- The long name of a view is not looked up in turn.  The table of one entity is spelled like the
table of another with an attribute behind it, and two views get one name. -/
theorem splitName_view_replaced :
    ¬∀ (d : Classified) (session : Session),
      ((d.ofKinds (·.isEntity)).map (tableName ·.label)).Nodup → d.DerivedApart →
        (viewNamesIn ((derivedAttributes d).answer session).statements).Nodup := by
  intro distinct
  have checked : classifiesTo splitName (fun d => decide
      (((d.ofKinds (·.isEntity)).map (tableName ·.label)).Nodup ∧ d.DerivedApart ∧
        viewNamesIn ((derivedAttributes d).answer {}).statements =
          ["VW_E", "VW_E_A", "VW_E_A"])) = true := by decide +kernel
  obtain ⟨d, _, holds⟩ := exists_of_classifiesTo checked
  obtain ⟨tables, apart, names⟩ := of_decide_eq_true holds
  have once := distinct d {} tables apart
  rw [names] at once
  exact absurd once (by decide)

/-- The same entities with the attribute between the others in the last place, one that
carries no query and one that hangs off nothing. -/
def nestedNames : Diagram :=
  { nodes :=
      [.drawn "e" "E" "StrongEntity", .drawn "k" "k" "KeyAttribute",
       .drawn "f" "E A" "StrongEntity", .drawn "l" "l" "KeyAttribute",
       .derived "x" "X", .drawn "b" "B" "DerivedAttribute", .derived "a" "A", .derived "o" "O",
       .derived "y" "Y"]
    connections :=
      [.drawn "1" "e" "k", .drawn "2" "f" "l", .drawn "3" "e" "x", .drawn "4" "e" "b",
       .drawn "5" "e" "a", .drawn "6" "f" "y"]
    node_ids_nodup := by decide
    connection_ids_nodup := by decide }

theorem nestedNames_view_names_distinct :
    ∃ d, nestedNames.classify = .ok d ∧ d.DerivedApart ∧
      viewNamesIn ((derivedAttributes d).answer {}).statements =
        ["VW_E", "VW_E_A", "VW_E_A_Y"] ∧ d.ViewsApart := by
  have checked : classifiesTo nestedNames (fun d => decide
      (d.DerivedApart ∧ viewNamesIn ((derivedAttributes d).answer {}).statements =
        ["VW_E", "VW_E_A", "VW_E_A_Y"])) = true := by decide +kernel
  obtain ⟨d, read, holds⟩ := exists_of_classifiesTo checked
  obtain ⟨apart, names⟩ := of_decide_eq_true holds
  have exactly := view_names_distinct_exactly apart {}
  rw [names] at exactly
  exact ⟨d, read, apart, names, exactly.1 (by decide)⟩

end EntitySchema
