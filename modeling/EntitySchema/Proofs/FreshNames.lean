/-
# EntitySchema.Proofs.FreshNames -- names that are not taken

A column that is put beside others gets the first free name among the candidates
for it (`freshName_spec`).  There are more candidates than taken names, all of them
different (`nameCandidate_injective`), so one is free (`exists_candidate_notMem`), and
what is planned for a table is free of repetitions and of all that was taken before
(`foreignColumns_spec`, `planReferences_spec`).
-/
import EntitySchema.Proofs.Alignment
import Mathlib.Data.List.Perm.Subperm
import Mathlib.Order.Bounds.Defs

namespace EntitySchema

set_option autoImplicit false

/-! ## Candidates -/

theorem toString_injective {first second : Nat} (same : toString first = toString second) :
    first = second := by
  have digits : Nat.toDigits 10 first = Nat.toDigits 10 second := by
    have letters := congrArg String.toList same
    simpa [Nat.toString_eq_ofList_toDigits] using letters
  calc
    first = Nat.ofDigitChars 10 (Nat.toDigits 10 first) 0 := Nat.ofDigitChars_ten_toDigits.symm
    _ = Nat.ofDigitChars 10 (Nat.toDigits 10 second) 0 := by rw [digits]
    _ = second := Nat.ofDigitChars_ten_toDigits

/-- A number behind a name changes the name. -/
theorem append_toString_ne (name : String) (n : Nat) : name ++ toString n ≠ name := by
  intro same
  have letters := congrArg String.toList same
  rw [String.toList_append, List.append_right_eq_self, Nat.toString_eq_ofList_toDigits,
    String.toList_ofList] at letters
  exact Nat.toDigits_ne_nil letters

/-- No two candidates for a name are alike, and hence among one more candidates than there are taken
names some are free. -/
theorem nameCandidate_injective (name : String) : Function.Injective (nameCandidate name) := by
  intro first second same
  cases first with
  | zero =>
      cases second with
      | zero => rfl
      | succ tries => exact absurd same.symm (append_toString_ne name (tries + 2))
  | succ tries =>
      cases second with
      | zero => exact absurd same (append_toString_ne name (tries + 2))
      | succ others =>
          have digits : toString (tries + 2) = toString (others + 2) := by
            simpa [nameCandidate] using same
          have equal := toString_injective digits
          omega

/-- Among more candidates than there are taken names, one is not taken. -/
theorem exists_candidate_notMem (taken : List String) (name : String) :
    ∃ tries ∈ List.range (taken.length + 1), nameCandidate name tries ∉ taken := by
  by_contra allTaken
  have within : (List.range (taken.length + 1)).map (nameCandidate name) ⊆ taken := by
    intro candidate mem
    obtain ⟨tries, inRange, rfl⟩ := List.mem_map.1 mem
    by_contra free
    exact allTaken ⟨tries, inRange, free⟩
  have distinct : ((List.range (taken.length + 1)).map (nameCandidate name)).Nodup :=
    List.nodup_range.map (nameCandidate_injective name)
  have many := (distinct.subperm within).length_le
  rw [List.length_map, List.length_range] at many
  omega

/-- A fresh name is the first candidate that is not taken. -/
theorem freshName_spec (taken : List String) (name : String) :
    ∃ tries, freshName taken name = nameCandidate name tries ∧
      IsLeast {tries | nameCandidate name tries ∉ taken} tries := by
  rw [freshName, List.find?_map]
  cases found : (List.range (taken.length + 1)).find? ((· ∉ taken) ∘ nameCandidate name) with
  | some tries =>
      obtain ⟨free, _, before⟩ := List.find?_range_eq_some.1 found
      have notTaken : nameCandidate name tries ∉ taken := by simpa using free
      refine ⟨tries, rfl, notTaken, fun other otherFree => ?_⟩
      by_contra earlier
      have takenThere := before other (Nat.lt_of_not_le earlier)
      simp only [Function.comp_apply, Bool.not_eq_true', decide_eq_false_iff_not] at takenThere
      exact takenThere otherFree
  | none =>
      obtain ⟨tries, inRange, free⟩ := exists_candidate_notMem taken name
      exact absurd free (by simpa using List.find?_eq_none.1 found tries inRange)

/-- A fresh name is not taken. -/
theorem freshName_notMem (taken : List String) (name : String) : freshName taken name ∉ taken := by
  obtain ⟨tries, same, free, _⟩ := freshName_spec taken name
  rw [same]
  exact free

/-! ## Columns -/

/-- New columns are different and not taken. -/
theorem foreignColumns_spec (taken : List String) (keys : List Key) :
    (foreignColumns taken keys).Nodup ∧ (foreignColumns taken keys).Disjoint taken := by
  induction keys generalizing taken with
  | nil => simp [foreignColumns]
  | cons key rest ih =>
      obtain ⟨distinct, apart⟩ := ih (freshName taken key.foreignColumn :: taken)
      have fresh := freshName_notMem taken key.foreignColumn
      rw [List.disjoint_cons_right] at apart
      rw [foreignColumns]
      exact ⟨List.nodup_cons.2 ⟨apart.1, distinct⟩, List.disjoint_cons_left.2 ⟨fresh, apart.2⟩⟩

/-- The columns of all references are different and not taken. -/
theorem planReferences_spec (taken : List String) (ends : List KeyedEnd) :
    ((planReferences taken ends).flatMap (·.columns)).Nodup ∧
      ((planReferences taken ends).flatMap (·.columns)).Disjoint taken := by
  induction ends generalizing taken with
  | nil => simp [planReferences]
  | cons place rest ih =>
      unfold planReferences
      split
      · exact ih taken
      · obtain ⟨here, free⟩ := foreignColumns_spec taken place.keys
        obtain ⟨later, apart⟩ := ih (foreignColumns taken place.keys ++ taken)
        rw [List.disjoint_append_right] at apart
        rw [List.flatMap_cons]
        refine ⟨here.append later (List.disjoint_symm apart.1), ?_⟩
        exact List.disjoint_append_left.2 ⟨free, apart.2⟩

end EntitySchema
