/-
# EntitySchema.Proofs.TidyingParts -- tidying a text that is put together from parts

A separator is judged by the text behind it, so what a part becomes may depend on the
parts that follow.  It does not depend on what stands behind a character that neither
goes itself nor is read where separators are judged (`isInert`): a text is tidied
before and behind such a character on its own (`tidyChars_append_cons`).
-/
import EntitySchema.Proofs.Tidying

namespace EntitySchema.Ddl

open EntitySchema.Text

set_option autoImplicit false

/-! ## Characters that keep parts apart -/

/-- Whether tidying neither removes the character nor reads it. -/
def isInert (c : Char) : Bool :=
  !isBlank c && !([',', '+', ')', ';', '<', '>', '=', '!'].contains c)

section Inert

variable {c : Char} (inert : isInert c = true)

include inert

theorem not_isBlank_of_isInert : isBlank c = false := by
  simpa using (Bool.and_eq_true_iff.1 inert).1

theorem ne_of_isInert {d : Char} (read : isInert d = false) : c ≠ d := by
  rintro rfl
  simp [inert] at read

/-- Whether a text begins with a closing bracket and semicolon is decided in front of the first
inert character. -/
theorem closes_append_cons (a b : List Char) : closes (a ++ c :: b) = closes a := by
  have solid := not_isBlank_of_isInert inert
  induction a with
  | nil =>
      rw [List.nil_append, closes_cons_solid solid,
        beq_eq_false_iff_ne.2 (ne_of_isInert inert (by decide))]
      rfl
  | cons d rest ih =>
      rw [List.cons_append]
      by_cases blank : isBlank d = true
      · rw [closes_cons_blank blank, closes_cons_blank blank, ih]
      · have dSolid : isBlank d = false := by simpa using blank
        rw [closes_cons_solid dSolid, closes_cons_solid dSolid]
        cases rest with
        | nil => simp [ne_of_isInert inert (d := ';') (by decide)]
        | cons e more => rfl

/-- Whether a text begins with a comparison is decided in front of the first inert character. -/
theorem compares_append_cons (a b : List Char) :
    compares (dropBlanks (a ++ c :: b)) = compares (dropBlanks a) := by
  have solid := not_isBlank_of_isInert inert
  induction a with
  | nil =>
      rw [List.nil_append, dropBlanks_cons_solid solid, compares_cons,
        beq_eq_false_iff_ne.2 (ne_of_isInert inert (d := '<') (by decide)),
        beq_eq_false_iff_ne.2 (ne_of_isInert inert (d := '>') (by decide)),
        beq_eq_false_iff_ne.2 (ne_of_isInert inert (d := '=') (by decide)),
        beq_eq_false_iff_ne.2 (ne_of_isInert inert (d := '!') (by decide))]
      rfl
  | cons d rest ih =>
      rw [List.cons_append]
      by_cases blank : isBlank d = true
      · rw [dropBlanks_cons_blank blank, dropBlanks_cons_blank blank, ih]
      · have dSolid : isBlank d = false := by simpa using blank
        rw [dropBlanks_cons_solid dSolid, dropBlanks_cons_solid dSolid, compares_cons,
          compares_cons]
        cases rest with
        | nil => simp [ne_of_isInert inert (d := '=') (by decide)]
        | cons e more => rfl

theorem dangles_append_cons (a b : List Char) : dangles (a ++ c :: b) = dangles a := by
  cases a with
  | nil => simp [not_isBlank_of_isInert inert, dangles]
  | cons d rest => rw [List.cons_append, dangles_cons, dangles_cons, compares_append_cons inert]

theorem dropCommas_append_cons (a b : List Char) :
    dropCommas (a ++ c :: b) = dropCommas a ++ c :: dropCommas b := by
  induction a with
  | nil => exact dropCommas_cons_of_ne (ne_of_isInert inert (by decide))
  | cons d rest ih =>
      rw [List.cons_append, dropCommas, dropCommas, closes_append_cons inert, ih]
      split <;> rfl

theorem dropPluses_append_cons (skipping : Bool) (a b : List Char) :
    dropPluses skipping (a ++ c :: b) = dropPluses skipping a ++ c :: dropPluses false b := by
  induction a generalizing skipping with
  | nil =>
      exact dropPluses_cons_kept (.inr (not_isBlank_of_isInert inert)) fun removed =>
        ne_of_isInert inert (by decide) removed.1
  | cons d rest ih =>
      rw [List.cons_append, dropPluses, dropPluses, dangles_append_cons inert, ih, ih]
      split
      · rfl
      · split <;> rfl

/-- Before and behind an inert character a text is tidied on its own. -/
theorem tidyChars_append_cons (a b : List Char) :
    tidyChars (a ++ c :: b) = tidyChars a ++ c :: tidyChars b := by
  rw [tidyChars, dropCommas_append_cons inert, dropPluses_append_cons inert]
  rfl

theorem tidyChars_cons (b : List Char) : tidyChars (c :: b) = c :: tidyChars b :=
  tidyChars_append_cons inert [] b

end Inert

/-! ## Parts without separators -/

/-- What stands in front of all separators stays. -/
theorem tidyChars_append_of_notMem {front : List Char} (noComma : ',' ∉ front)
    (noPlus : '+' ∉ front) (rest : List Char) :
    tidyChars (front ++ rest) = front ++ tidyChars rest := by
  induction front with
  | nil => rfl
  | cons c more ih =>
      have comma : c ≠ ',' := (List.ne_of_not_mem_cons noComma).symm
      have plus : c ≠ '+' := (List.ne_of_not_mem_cons noPlus).symm
      rw [List.cons_append, List.cons_append, ← ih (List.not_mem_of_not_mem_cons noComma)
        (List.not_mem_of_not_mem_cons noPlus), tidyChars, dropCommas_cons_of_ne comma,
        dropPluses_cons_kept (.inl rfl) fun removed => plus removed.1]
      rfl

end EntitySchema.Ddl
