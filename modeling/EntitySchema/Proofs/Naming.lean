/-
# EntitySchema.Proofs.Naming -- references whose columns are named in turn

The column that refers to a key has the key's own name for it, and if that is taken the
name with the least number from 2 on behind it that is free (`NamedAfter`).  A name with a
number may itself be the name of another key, or be taken from the start, so what is free
for a key depends on all columns before it (`NamedInTurn`).

Which name it is depends on the taken names, not on their order (`freshName_congr`), and a
search that counts up finds it (`countUp_eq`).  So the planning of references ends for any
ends and any names in use, and `PlannedInTurn` says what it gives.
-/
import EntitySchema.Key.Naming
import EntitySchema.Proofs.FreshNames
import Mathlib.Order.Bounds.Basic

namespace EntitySchema

set_option autoImplicit false

/-! ## Names -/

/-- The column that is named when some names are taken: the name itself if it is free, and
otherwise the name with the least number from 2 on behind it that makes it free. -/
inductive NamedAfter (taken : List String) (name : String) : String → Prop
  | itself : name ∉ taken → NamedAfter taken name name
  | numbered {number : Nat} : name ∈ taken →
      IsLeast {n : Nat | 2 ≤ n ∧ name ++ toString n ∉ taken} number →
      NamedAfter taken name (name ++ toString number)

section Names

variable {taken others : List String} {name column : String}

/-- The least number whose candidate is free gives the name: either none is needed, or all smaller
ones are taken. -/
theorem namedAfter_of_isLeast {tries : Nat}
    (least : IsLeast {tries | nameCandidate name tries ∉ taken} tries) :
    NamedAfter taken name (nameCandidate name tries) := by
  obtain ⟨free, first⟩ := least
  cases tries with
  | zero => exact .itself free
  | succ tries =>
      have itselfTaken : name ∈ taken := by
        by_contra itselfFree
        exact absurd (first (show nameCandidate name 0 ∉ taken from itselfFree)) (by omega)
      refine .numbered itselfTaken ⟨⟨by omega, free⟩, fun number ⟨high, numberFree⟩ => ?_⟩
      obtain ⟨others, rfl⟩ := Nat.exists_eq_add_of_le' high
      have := first (show nameCandidate name (others + 1) ∉ taken from numberFree)
      omega

theorem namedAfter_freshName (taken : List String) (name : String) :
    NamedAfter taken name (freshName taken name) := by
  obtain ⟨tries, same, least⟩ := freshName_spec taken name
  rw [same]
  exact namedAfter_of_isLeast least

theorem NamedAfter.congr (named : NamedAfter taken name column)
    (same : ∀ other, other ∈ taken ↔ other ∈ others) : NamedAfter others name column := by
  cases named with
  | itself free => exact .itself fun mem => free ((same name).2 mem)
  | numbered itselfTaken least =>
      simp only [same] at least
      exact .numbered ((same name).1 itselfTaken) least

theorem NamedAfter.unique {other : String} (first : NamedAfter taken name column)
    (second : NamedAfter taken name other) : column = other := by
  cases first with
  | itself free =>
      cases second with
      | itself => rfl
      | numbered itselfTaken => exact absurd itselfTaken free
  | numbered itselfTaken least =>
      cases second with
      | itself free => exact absurd itselfTaken free
      | numbered _ leastThere => rw [least.unique leastThere]

/-- Whether a name is free depends on the taken names only, not on their order. -/
theorem freshName_congr (same : ∀ other, other ∈ taken ↔ other ∈ others) :
    freshName taken name = freshName others name := by
  obtain ⟨first, here, least⟩ := freshName_spec taken name
  obtain ⟨second, there, leastThere⟩ := freshName_spec others name
  simp only [same] at least
  rw [here, there, least.unique leastThere]

theorem fix_of_notMem (number : Nat) (free : column ∉ taken) :
    PFun.fix (tryCandidate taken name) (column, number) = Part.some column := by
  refine Part.eq_some_iff.2 (PFun.fix_stop ?_)
  simp [tryCandidate, free]

theorem fix_of_mem (number : Nat) (unfree : column ∈ taken) :
    PFun.fix (tryCandidate taken name) (column, number) =
      PFun.fix (tryCandidate taken name) (name ++ toString number, number + 1) := by
  refine PFun.fix_fwd_eq ?_
  simp [tryCandidate, unfree]

/-- From any candidate before the first free one, the search ends at the first free one. -/
theorem fix_of_isLeast {tries start : Nat}
    (least : IsLeast {tries | nameCandidate name tries ∉ taken} tries) (before : start ≤ tries) :
    PFun.fix (tryCandidate taken name) (nameCandidate name start, start + 2) =
      Part.some (nameCandidate name tries) := by
  induction before using Nat.decreasingInduction with
  | self => exact fix_of_notMem (tries + 2) least.1
  | of_succ start earlier ih =>
      have startTaken : nameCandidate name start ∈ taken := by
        by_contra free
        exact absurd (least.2 free) (by omega)
      rw [fix_of_mem (start + 2) startTaken]
      exact ih

theorem countUp_eq (taken : List String) (name : String) :
    countUp taken name = Part.some (freshName taken name) := by
  obtain ⟨tries, same, least⟩ := freshName_spec taken name
  rw [same]
  exact fix_of_isLeast least (Nat.zero_le tries)

end Names

/-! ## Columns -/

section Columns

variable {taken others : List String} {keys : List Key}

theorem foreignColumns_congr (same : ∀ other, other ∈ taken ↔ other ∈ others) :
    foreignColumns taken keys = foreignColumns others keys := by
  induction keys generalizing taken others with
  | nil => rfl
  | cons key rest ih =>
      have stillSame : ∀ other, other ∈ freshName others key.foreignColumn :: taken ↔
          other ∈ freshName others key.foreignColumn :: others :=
        fun other => by rw [List.mem_cons, List.mem_cons, same]
      rw [foreignColumns, foreignColumns, freshName_congr same, ih stillSame]

theorem planReferences_congr {ends : List KeyedEnd}
    (same : ∀ other, other ∈ taken ↔ other ∈ others) :
    planReferences taken ends = planReferences others ends := by
  induction ends generalizing taken others with
  | nil => rfl
  | cons target rest ih =>
      have stillSame : ∀ other, other ∈ foreignColumns others target.keys ++ taken ↔
          other ∈ foreignColumns others target.keys ++ others :=
        fun other => by rw [List.mem_append, List.mem_append, same]
      simp only [planReferences, foreignColumns_congr same, ih same, ih stillSame]

namespace Naming

theorem run_column (key : Key) (taken : List String) :
    (column key).run taken = Part.some
      (freshName taken key.foreignColumn, freshName taken key.foreignColumn :: taken) := by
  simp [column, countUp_eq]

theorem run_columns (keys : List Key) (taken : List String) :
    (keys.mapM column).run taken =
      Part.some (foreignColumns taken keys, (foreignColumns taken keys).reverse ++ taken) := by
  induction keys generalizing taken with
  | nil => rfl
  | cons key rest ih => simp [List.mapM_cons, run_column, ih, foreignColumns]

/-- Naming ends: it gives the planned references, and their columns are taken then. -/
theorem run_references (ends : List KeyedEnd) (taken : List String) :
    (references ends).run taken =
      Part.some (planReferences taken ends,
        ((planReferences taken ends).flatMap (·.columns)).reverse ++ taken) := by
  induction ends generalizing taken with
  | nil => rfl
  | cons target rest ih =>
      rw [references, planReferences]
      split
      · exact ih taken
      · have turned : planReferences ((foreignColumns taken target.keys).reverse ++ taken) rest =
            planReferences (foreignColumns taken target.keys ++ taken) rest :=
          planReferences_congr fun other => by simp
        simp [run_columns, ih, turned]

end Naming

/-! ## Names in turn -/

/-- The columns are named after the keys one after the other: each when those before it are
taken as well. -/
inductive NamedInTurn : List String → List Key → List String → Prop
  | nil {taken : List String} : NamedInTurn taken [] []
  | cons {taken : List String} {key : Key} {column : String} {keys : List Key}
      {columns : List String} : NamedAfter taken key.foreignColumn column →
      NamedInTurn (column :: taken) keys columns →
      NamedInTurn taken (key :: keys) (column :: columns)

namespace NamedInTurn

variable {columns : List String}

theorem foreignColumns (taken : List String) (keys : List Key) :
    NamedInTurn taken keys (EntitySchema.foreignColumns taken keys) := by
  induction keys generalizing taken with
  | nil => exact .nil
  | cons key rest ih => exact .cons (namedAfter_freshName taken key.foreignColumn) (ih _)

theorem congr (named : NamedInTurn taken keys columns)
    (same : ∀ other, other ∈ taken ↔ other ∈ others) : NamedInTurn others keys columns := by
  induction named generalizing others with
  | nil => exact .nil
  | cons here _ ih =>
      exact .cons (here.congr same) (ih fun other => by rw [List.mem_cons, List.mem_cons, same])

theorem append {moreKeys : List Key} {moreColumns : List String}
    (named : NamedInTurn taken keys columns)
    (more : NamedInTurn (columns ++ taken) moreKeys moreColumns) :
    NamedInTurn taken (keys ++ moreKeys) (columns ++ moreColumns) := by
  induction named with
  | nil => exact more
  | cons here _ ih => exact .cons here (ih (more.congr fun other => by simp [or_left_comm]))

/-- What is named at a position, when the columns before it are taken. -/
theorem namedAfter (named : NamedInTurn taken keys columns) {position : Nat} {key : Key}
    {column : String} (keyThere : keys[position]? = some key)
    (columnThere : columns[position]? = some column) :
    NamedAfter (taken ++ columns.take position) key.foreignColumn column := by
  induction named generalizing position with
  | nil => simp at keyThere
  | cons here _ ih =>
      cases position with
      | zero =>
          simp only [List.getElem?_cons_zero, Option.some.injEq] at keyThere columnThere
          subst keyThere columnThere
          simpa using here
      | succ position =>
          have later := ih keyThere columnThere
          exact later.congr fun other => by simp [or_left_comm]

/-- Columns are named in turn if each is named when those before it are taken. -/
theorem of_namedAfter (long : columns.length = keys.length)
    (named : ∀ position key column, keys[position]? = some key →
      columns[position]? = some column →
      NamedAfter (taken ++ columns.take position) key.foreignColumn column) :
    NamedInTurn taken keys columns := by
  induction keys generalizing taken columns with
  | nil =>
      obtain rfl := List.length_eq_zero_iff.1 long
      exact .nil
  | cons key rest ih =>
      obtain ⟨column, others, rfl⟩ := List.exists_cons_of_length_eq_add_one long
      refine .cons (by simpa using named 0 key column rfl rfl) (ih (by simpa using long) ?_)
      intro position other there otherThere columnThere
      have later := named (position + 1) other there otherThere columnThere
      exact later.congr fun name => by simp [or_left_comm]

theorem unique {others : List String} (first : NamedInTurn taken keys columns)
    (second : NamedInTurn taken keys others) : columns = others := by
  induction first generalizing others with
  | nil =>
      cases second
      rfl
  | cons here _ ih =>
      cases second with
      | cons there more =>
          obtain rfl := here.unique there
          rw [ih more]

end NamedInTurn

end Columns

/-! ## References -/

/-- The references that are planned for some ends when some names are in use. -/
structure PlannedInTurn (existing : List String) (ends : List KeyedEnd)
    (references : List Reference) : Prop where
  /-- One for each end that has a key, in order. -/
  targets : references.map (·.target) = ends.filter (!·.keys.isEmpty)
  complete : ∀ reference ∈ references,
    reference.columns.length = reference.target.keys.length ∧
      reference.refColumns.length = reference.target.keys.length ∧
      reference.sqlTypes.length = reference.target.keys.length
  distinct : (references.flatMap (·.columns)).Nodup
  apart : ∀ column ∈ references.flatMap (·.columns), column ∉ existing
  named : ∀ position key column, (references.flatMap (·.target.keys))[position]? = some key →
    (references.flatMap (·.columns))[position]? = some column →
    NamedAfter (existing ++ (references.flatMap (·.columns)).take position)
      key.foreignColumn column

theorem map_target_eq_filter (taken : List String) (ends : List KeyedEnd) :
    (planReferences taken ends).map (·.target) = ends.filter (!·.keys.isEmpty) := by
  induction ends generalizing taken with
  | nil => rfl
  | cons target rest ih =>
      rw [planReferences]
      split
      · rename_i keyless
        simp [keyless, ih]
      · rename_i keyed
        simp [keyed, ih]

theorem namedInTurn_planReferences (taken : List String) (ends : List KeyedEnd) :
    NamedInTurn taken ((planReferences taken ends).flatMap (·.target.keys))
      ((planReferences taken ends).flatMap (·.columns)) := by
  induction ends generalizing taken with
  | nil => exact .nil
  | cons target rest ih =>
      rw [planReferences]
      split
      · exact ih taken
      · simp only [List.flatMap_cons]
        exact (NamedInTurn.foreignColumns taken target.keys).append (ih _)

theorem plannedInTurn_planReferences (existing : List String) (ends : List KeyedEnd) :
    PlannedInTurn existing ends (planReferences existing ends) where
  targets := map_target_eq_filter existing ends
  complete := fun reference mem =>
    ⟨length_columns_of_planned mem, by simp [Reference.refColumns, KeyedEnd.columns],
      by simp [Reference.sqlTypes]⟩
  distinct := (planReferences_spec existing ends).1
  apart := fun _ mem => (planReferences_spec existing ends).2 mem
  named := fun _ _ _ keyThere columnThere =>
    (namedInTurn_planReferences existing ends).namedAfter keyThere columnThere

/-- References to the same ends with the same columns in a row are the same references, since the
length of each share is that of its key. -/
theorem references_ext {first second : List Reference}
    (targets : first.map (·.target) = second.map (·.target))
    (columns : first.flatMap (·.columns) = second.flatMap (·.columns))
    (long : ∀ reference ∈ first, reference.columns.length = reference.target.keys.length)
    (longToo : ∀ reference ∈ second, reference.columns.length = reference.target.keys.length) :
    first = second := by
  induction first generalizing second with
  | nil => exact (List.map_eq_nil_iff.1 targets.symm).symm
  | cons here rest ih =>
      obtain ⟨there, others, rfl, sameTarget, sameTargets⟩ := List.map_eq_cons_iff.1 targets.symm
      have equallyLong : here.columns.length = there.columns.length := by
        rw [long here List.mem_cons_self, longToo there List.mem_cons_self, sameTarget]
      rw [List.flatMap_cons, List.flatMap_cons] at columns
      obtain ⟨sameColumns, sameOthers⟩ := List.append_inj columns equallyLong
      have later := ih sameTargets.symm sameOthers
        (fun other mem => long other (List.mem_cons_of_mem here mem))
        (fun other mem => longToo other (List.mem_cons_of_mem there mem))
      cases here
      cases there
      simp_all

/-- The length of a list that is put together is the sum of the lengths of its parts. -/
theorem length_flatMap_columns {references : List Reference}
    (long : ∀ reference ∈ references, reference.columns.length = reference.target.keys.length) :
    (references.flatMap (·.columns)).length = (references.flatMap (·.target.keys)).length := by
  rw [List.length_flatMap, List.length_flatMap, List.map_congr_left long]

theorem PlannedInTurn.eq_planReferences {existing : List String} {ends : List KeyedEnd}
    {references : List Reference} (planned : PlannedInTurn existing ends references) :
    references = planReferences existing ends := by
  have targets : references.map (·.target) = (planReferences existing ends).map (·.target) :=
    planned.targets.trans (map_target_eq_filter existing ends).symm
  have keys : references.flatMap (·.target.keys) =
      (planReferences existing ends).flatMap (·.target.keys) := by
    simpa [List.flatMap_map] using congrArg (List.flatMap (·.keys)) targets
  have long reference (mem : reference ∈ references) := (planned.complete reference mem).1
  have inTurn := NamedInTurn.of_namedAfter (length_flatMap_columns long) planned.named
  rw [keys] at inTurn
  exact references_ext targets (inTurn.unique (namedInTurn_planReferences existing ends)) long
    fun _ mem => length_columns_of_planned mem

/-- Naming ends for any ends and any names in use; what it gives, and that only, is planned
in turn. -/
theorem references_named_in_turn (existing : List String) (ends : List KeyedEnd) :
    (Naming.references ends).run' existing = Part.some (planReferences existing ends) ∧
      ∀ references, PlannedInTurn existing ends references ↔
        references = planReferences existing ends := by
  constructor
  · rw [StateT.run'_eq, Naming.run_references, Part.map_eq_map, Part.map_some]
  · intro references
    refine ⟨PlannedInTurn.eq_planReferences, ?_⟩
    rintro rfl
    exact plannedInTurn_planReferences existing ends

/-- An entity whose table has the one key `k`. -/
def keyedEntity (label : String) : KeyedEnd :=
  let node : Construct := ⟨label, label, .strongEntity, none, false, none⟩
  { node, link := ⟨label, node, node, .singleLineToMany⟩
    keys := [{ owner := tableName label, column := "k" }] }

-- the numbers 2 and 3 are passed over: one is the name of another key, one is in use
example :
    (planReferences ["k-a", "k-a3"] [keyedEntity "A2", keyedEntity "A"]).map (·.columns) =
      [["k-a2"], ["k-a4"]] := by
  decide +kernel

end EntitySchema
