/-
# EntitySchema.Proofs.Tidying -- what tidying removes and what a second pass would find

Tidying removes a comma in front of a closing `);` and a plus in front of a
comparison, each judged by the text behind it.  `occurs` says that a separator with
a certain text behind it stands somewhere; a text is tidy (`IsTidy`) if no
separator of it is to be removed, and exactly the tidy texts are left as they are
(`tidyChars_eq_self_iff`).

A pass judges every separator by the text as it was.  So it keeps a separator that
only the removal of another one brings in front of a closing or a comparison
(`Stacked`), and what is left is tidy exactly if there was none of those
(`isTidy_tidyChars_iff`).  That settles when a second pass changes nothing.
-/
import EntitySchema.Ddl.Tidy

namespace EntitySchema.Ddl

open EntitySchema.Text

set_option autoImplicit false

/-! ## Separators in a text -/

/-- Whether a separator stands somewhere in front of a text that meets a condition. -/
def occurs (separator : Char) (holds : List Char → Bool) : List Char → Bool
  | [] => false
  | c :: rest => (c == separator && holds rest) || occurs separator holds rest

/-- No separator is to be removed. -/
def IsTidy (cs : List Char) : Prop := occurs ',' closes cs = false ∧ occurs '+' dangles cs = false

instance (cs : List Char) : Decidable (IsTidy cs) := inferInstanceAs (Decidable (_ ∧ _))

/-- Whether the text, blanks in front of it left aside, is a comma that is removed. -/
def stackedComma (cs : List Char) : Bool :=
  match dropBlanks cs with
  | ',' :: after => closes after
  | _ => false

/-- Whether the text becomes a comparison when the plus in it is removed. -/
def becomesComparison : List Char → Bool
  | '+' :: after => dangles after
  | '!' :: '+' :: after => dangles after && (dropBlanks after).head? == some '='
  | _ => false

/-- Whether a plus in front of the text is dangling once another one is removed. -/
def stackedPlus : List Char → Bool
  | [] => false
  | c :: rest => isBlank c && becomesComparison (dropBlanks rest)

/-- A separator comes to stand where it is to be removed when another one is gone. -/
def Stacked (cs : List Char) : Prop :=
  occurs ',' stackedComma cs = true ∨ occurs '+' stackedPlus cs = true

instance (cs : List Char) : Decidable (Stacked cs) := inferInstanceAs (Decidable (_ ∨ _))

section Occurs

variable {separator : Char} {holds : List Char → Bool}

theorem occurs_cons_of_ne {c : Char} (other : c ≠ separator) (rest : List Char) :
    occurs separator holds (c :: rest) = occurs separator holds rest := by
  simp [occurs, other]

/-- Where a separator occurs the text can be cut in front of it, and the condition speaks of what is
behind. -/
theorem occurs_iff {cs : List Char} :
    occurs separator holds cs = true ↔
      ∃ before rest, cs = before ++ separator :: rest ∧ holds rest = true := by
  induction cs with
  | nil => simp [occurs]
  | cons c rest ih =>
      rw [occurs, Bool.or_eq_true, ih]
      constructor
      · rintro (here | ⟨before, after, rfl, meets⟩)
        · obtain ⟨same, meets⟩ := Bool.and_eq_true_iff.1 here
          exact ⟨[], rest, by simpa using same, meets⟩
        · exact ⟨c :: before, after, rfl, meets⟩
      · rintro ⟨before, after, split, meets⟩
        cases before with
        | nil =>
            obtain ⟨rfl, rfl⟩ := List.cons.inj split
            exact .inl (by simp [meets])
        | cons first more =>
            obtain ⟨rfl, rfl⟩ := List.cons.inj split
            exact .inr ⟨more, after, rfl, meets⟩

end Occurs

/-! ## Blanks in front -/

section Blanks

variable {c : Char} {rest : List Char}

theorem ne_of_isBlank (blank : isBlank c = true) {d : Char} (solid : isBlank d = false) : c ≠ d :=
  fun same => by simp [same, solid] at blank

theorem dropBlanks_cons_blank (blank : isBlank c = true) :
    dropBlanks (c :: rest) = dropBlanks rest := List.dropWhile_cons_of_pos blank

theorem dropBlanks_cons_solid (solid : isBlank c = false) : dropBlanks (c :: rest) = c :: rest :=
  List.dropWhile_cons_of_neg (by simp [solid])

theorem closes_cons_blank (blank : isBlank c = true) : closes (c :: rest) = closes rest := by
  rw [closes, dropBlanks_cons_blank blank, closes]

theorem closes_cons_solid (solid : isBlank c = false) :
    closes (c :: rest) = (c == ')' && rest.head? == some ';') := by
  rw [closes, dropBlanks_cons_solid solid]
  cases rest with
  | nil => simp
  | cons d more =>
      by_cases bracket : c = ')'
      · by_cases semicolon : d = ';'
        · simp [bracket, semicolon]
        · simp [bracket, semicolon]
      · simp [bracket]

theorem closes_dropBlanks (cs : List Char) : closes (dropBlanks cs) = closes cs := by
  induction cs with
  | nil => rfl
  | cons c rest ih =>
      by_cases blank : isBlank c = true
      · rw [dropBlanks_cons_blank blank, closes_cons_blank blank, ih]
      · rw [dropBlanks_cons_solid (by simpa using blank)]

theorem stackedComma_cons_blank (blank : isBlank c = true) :
    stackedComma (c :: rest) = stackedComma rest := by
  rw [stackedComma, dropBlanks_cons_blank blank, stackedComma]

theorem stackedComma_cons_solid (solid : isBlank c = false) :
    stackedComma (c :: rest) = (c == ',' && closes rest) := by
  rw [stackedComma, dropBlanks_cons_solid solid]
  by_cases comma : c = ',' <;> simp [comma]

end Blanks

/-! ## Removing commas -/

section Commas

variable {c : Char} {rest : List Char}

theorem dropCommas_cons_of_closes (closing : closes rest = true) :
    dropCommas (',' :: rest) = dropCommas rest := by
  simp [dropCommas, closing]

theorem dropCommas_cons_kept (kept : ¬(c = ',' ∧ closes rest = true)) :
    dropCommas (c :: rest) = c :: dropCommas rest := if_neg kept

theorem dropCommas_cons_of_ne (other : c ≠ ',') : dropCommas (c :: rest) = c :: dropCommas rest :=
  dropCommas_cons_kept fun removed => other removed.1

theorem dropCommas_cons_blank (blank : isBlank c = true) :
    dropCommas (c :: rest) = c :: dropCommas rest :=
  dropCommas_cons_of_ne (ne_of_isBlank blank (by decide))

/-- A closing begins with a blank or with its bracket. -/
theorem exists_cons_of_closes (closing : closes rest = true) :
    ∃ c more, rest = c :: more ∧ (isBlank c = true ∨ c = ')') := by
  cases rest with
  | nil => simp [closes, dropBlanks] at closing
  | cons c more =>
      by_cases blank : isBlank c = true
      · exact ⟨c, more, rfl, .inl blank⟩
      · rw [closes_cons_solid (by simpa using blank)] at closing
        exact ⟨c, more, rfl, .inr (by simpa using (Bool.and_eq_true_iff.1 closing).1)⟩

/-- What follows a character in a mark of two is not affected: only a blank or the
bracket of a closing can come forward. -/
theorem head?_dropCommas {d : Char} (solid : isBlank d = false) (open' : d ≠ ')') (other : d ≠ ',') :
    ((dropCommas rest).head? == some d) = (rest.head? == some d) := by
  cases rest with
  | nil => rfl
  | cons c more =>
      by_cases removed : c = ',' ∧ closes more = true
      · obtain ⟨rfl, closing⟩ := removed
        obtain ⟨first, others, rfl, begins⟩ := exists_cons_of_closes closing
        have kept : first ≠ ',' := by
          rcases begins with blank | rfl
          · exact ne_of_isBlank blank (by decide)
          · decide
        have apart : first ≠ d := by
          rcases begins with blank | rfl
          · exact ne_of_isBlank blank solid
          · exact open'.symm
        rw [dropCommas_cons_of_closes closing, dropCommas_cons_of_ne kept]
        simp [beq_eq_false_iff_ne.2 apart, beq_eq_false_iff_ne.2 other.symm]
      · rw [dropCommas_cons_kept removed]
        rfl

/-- When commas are gone, the text closes if it did or if its first comma is gone. -/
theorem closes_dropCommas (rest : List Char) :
    closes (dropCommas rest) = (closes rest || stackedComma rest) := by
  induction rest with
  | nil => rfl
  | cons c rest ih =>
      by_cases blank : isBlank c = true
      · rw [dropCommas_cons_blank blank, closes_cons_blank blank, closes_cons_blank blank,
          stackedComma_cons_blank blank, ih]
      have solid : isBlank c = false := by simpa using blank
      rw [closes_cons_solid solid, stackedComma_cons_solid solid]
      by_cases removed : c = ',' ∧ closes rest = true
      · obtain ⟨rfl, closing⟩ := removed
        rw [dropCommas_cons_of_closes closing, ih, closing]
        rfl
      · rw [dropCommas_cons_kept removed, closes_cons_solid solid,
          head?_dropCommas (by decide) (by decide) (by decide)]
        by_cases comma : c = ','
        · have open' : closes rest = false := by simpa [comma] using removed
          simp [comma, open']
        · simp [comma]

/-- A closing is no comma. -/
theorem stackedComma_of_closes (closing : closes rest = true) : stackedComma rest = false := by
  unfold closes at closing
  unfold stackedComma
  split at closing
  · rename_i begins
    rw [begins]
    rfl
  · simp at closing

/-- A comma is left in front of a closing exactly where commas were stacked. -/
theorem occurs_closes_dropCommas (cs : List Char) :
    occurs ',' closes (dropCommas cs) = occurs ',' stackedComma cs := by
  induction cs with
  | nil => rfl
  | cons c rest ih =>
      by_cases comma : c = ','
      · subst comma
        cases closing : closes rest with
        | true =>
            rw [dropCommas_cons_of_closes closing, ih, occurs, stackedComma_of_closes closing]
            rfl
        | false =>
            rw [dropCommas_cons_kept (by simp [closing]), occurs, occurs, ih, closes_dropCommas,
              closing, Bool.false_or]
      · rw [dropCommas_cons_of_ne comma, occurs_cons_of_ne comma, occurs_cons_of_ne comma, ih]

theorem dropCommas_sublist (cs : List Char) : (dropCommas cs).Sublist cs := by
  fun_induction dropCommas cs with
  | case1 => exact .slnil
  | case2 _ _ _ ih => exact ih.cons _
  | case3 _ _ _ ih => exact ih.cons_cons _

/-- Exactly the texts without a comma in front of a closing are left alone. -/
theorem dropCommas_eq_self_iff {cs : List Char} :
    dropCommas cs = cs ↔ occurs ',' closes cs = false := by
  induction cs with
  | nil => simp [dropCommas, occurs]
  | cons c rest ih =>
      by_cases comma : c = ','
      · subst comma
        cases closing : closes rest with
        | true =>
            have shorter : dropCommas rest ≠ ',' :: rest := by
              intro same
              have long := (dropCommas_sublist rest).length_le
              rw [same, List.length_cons] at long
              omega
            simp [dropCommas_cons_of_closes closing, occurs, closing, shorter]
        | false =>
            rw [dropCommas_cons_kept (by simp [closing]), occurs, closing, List.cons_eq_cons, ih]
            simp
      · rw [dropCommas_cons_of_ne comma, occurs_cons_of_ne comma, List.cons_eq_cons, ih]
        simp

end Commas

/-! ## Removing pluses -/

section Comparisons

variable {c : Char} {rest : List Char}

theorem compares_cons :
    compares (c :: rest) =
      (c == '<' || c == '>' || c == '=' || (c == '!' && rest.head? == some '=')) := by
  unfold compares
  split
  · simp_all
  · simp_all
  · simp_all
  · simp_all
  · cases rest with
    | nil => simp_all
    | cons d more => simp_all

/-- A comparison begins with a mark of its own. -/
theorem exists_cons_of_compares {cs : List Char} (comparing : compares cs = true) :
    ∃ c more, cs = c :: more ∧ c ∈ ['<', '>', '=', '!'] := by
  cases cs with
  | nil => simp [compares] at comparing
  | cons c more =>
      rw [compares_cons] at comparing
      simp only [Bool.or_eq_true, Bool.and_eq_true, beq_iff_eq] at comparing
      refine ⟨c, more, rfl, ?_⟩
      rcases comparing with ((rfl | rfl) | rfl) | ⟨rfl, _⟩ <;> simp

theorem dangles_cons : dangles (c :: rest) = (isBlank c && compares (dropBlanks rest)) := rfl

/-- The comparison behind a dangling plus. -/
theorem compares_of_dangles (dangling : dangles rest = true) :
    compares (dropBlanks rest) = true := by
  cases rest with
  | nil => simp [dangles] at dangling
  | cons c more =>
      obtain ⟨blank, comparing⟩ := Bool.and_eq_true_iff.1 dangling
      rwa [dropBlanks_cons_blank blank]

end Comparisons

section Pluses

variable {skipping : Bool} {c : Char} {rest : List Char}

theorem dropPluses_cons_of_dangles (dangling : dangles rest = true) :
    dropPluses skipping ('+' :: rest) = dropPluses true rest := by
  have solid : isBlank '+' = false := by decide
  simp [dropPluses, dangling, solid]

theorem dropPluses_cons_kept (shown : skipping = false ∨ isBlank c = false)
    (kept : ¬(c = '+' ∧ dangles rest = true)) :
    dropPluses skipping (c :: rest) = c :: dropPluses false rest := by
  rw [dropPluses, if_neg, if_neg kept]
  rintro ⟨skips, blank⟩
  rcases shown with shows | solid
  · simp [shows] at skips
  · simp [solid] at blank

theorem dropPluses_cons_blank (blank : isBlank c = true) :
    dropPluses false (c :: rest) = c :: dropPluses false rest :=
  dropPluses_cons_kept (.inl rfl) fun removed => ne_of_isBlank blank (by decide) removed.1

/-- The blanks behind a removed plus go with it. -/
theorem dropPluses_true (cs : List Char) : dropPluses true cs = dropPluses false (dropBlanks cs) := by
  induction cs with
  | nil => rfl
  | cons c rest ih =>
      by_cases blank : isBlank c = true
      · rw [dropBlanks_cons_blank blank, ← ih, dropPluses, if_pos ⟨rfl, blank⟩]
      · have solid : isBlank c = false := by simpa using blank
        rw [dropBlanks_cons_solid solid]
        by_cases removed : c = '+' ∧ dangles rest = true
        · obtain ⟨rfl, dangling⟩ := removed
          rw [dropPluses_cons_of_dangles dangling, dropPluses_cons_of_dangles dangling]
        · rw [dropPluses_cons_kept (.inr solid) removed, dropPluses_cons_kept (.inl rfl) removed]

/-- The signs a comparison begins with are neither blanks nor separators. -/
theorem sign_apart : ∀ c ∈ ['<', '>', '=', '!'],
    isBlank c = false ∧ c ≠ '+' ∧ c ≠ ',' ∧ c ≠ ')' := by
  intro c sign
  simp only [List.mem_cons, List.not_mem_nil, or_false] at sign
  rcases sign with rfl | rfl | rfl | rfl <;> decide

/-- A removed plus leaves the comparison behind it in its place. -/
theorem dropPluses_plus_of_dangles (dangling : dangles rest = true) :
    ∃ c more, c ∈ ['<', '>', '=', '!'] ∧ dropBlanks rest = c :: more ∧
      dropPluses false ('+' :: rest) = c :: dropPluses false more := by
  obtain ⟨c, more, begins, sign⟩ := exists_cons_of_compares (compares_of_dangles dangling)
  refine ⟨c, more, sign, begins, ?_⟩
  rw [dropPluses_cons_of_dangles dangling, dropPluses_true, begins,
    dropPluses_cons_kept (.inl rfl) fun plus => (sign_apart c sign).2.1 plus.1]

/-- What is left from the first character on that is not blank: nothing, or the comparison
behind a removed plus, or the text as it was. -/
theorem front_dropPluses (cs : List Char) :
    (dropBlanks cs = [] ∧ dropBlanks (dropPluses false cs) = []) ∨
      (∃ after c more, c ∈ ['<', '>', '=', '!'] ∧ dropBlanks cs = '+' :: after ∧
        dangles after = true ∧ dropBlanks after = c :: more ∧
        dropBlanks (dropPluses false cs) = c :: dropPluses false more) ∨
      ∃ c more, isBlank c = false ∧ ¬(c = '+' ∧ dangles more = true) ∧
        dropBlanks cs = c :: more ∧ dropBlanks (dropPluses false cs) = c :: dropPluses false more := by
  induction cs with
  | nil => exact .inl ⟨rfl, rfl⟩
  | cons c rest ih =>
      by_cases blank : isBlank c = true
      · rwa [dropPluses_cons_blank blank, dropBlanks_cons_blank blank, dropBlanks_cons_blank blank]
      have solid : isBlank c = false := by simpa using blank
      by_cases removed : c = '+' ∧ dangles rest = true
      · obtain ⟨rfl, dangling⟩ := removed
        obtain ⟨mark, more, sign, begins, leaves⟩ := dropPluses_plus_of_dangles dangling
        refine .inr (.inl ⟨rest, mark, more, sign, dropBlanks_cons_solid solid, dangling, begins, ?_⟩)
        rw [leaves, dropBlanks_cons_solid (sign_apart mark sign).1]
      · refine .inr (.inr ⟨c, rest, solid, removed, dropBlanks_cons_solid solid, ?_⟩)
        rw [dropPluses_cons_kept (.inl rfl) removed, dropBlanks_cons_solid solid]

end Pluses

/-! ## How the two removals meet -/

section Front

variable {rest : List Char}

theorem exists_of_closes (closing : closes rest = true) :
    ∃ more, dropBlanks rest = ')' :: ';' :: more := by
  unfold closes at closing
  split at closing
  · exact ⟨_, ‹_›⟩
  · simp at closing

/-- What is left from the first character on that is not blank: nothing, or the closing
behind a removed comma, or the text as it was. -/
theorem front_dropCommas (cs : List Char) :
    (dropBlanks cs = [] ∧ dropBlanks (dropCommas cs) = []) ∨
      (∃ after more, dropBlanks cs = ',' :: after ∧ dropBlanks (dropCommas cs) = ')' :: more) ∨
      ∃ c more, isBlank c = false ∧ dropBlanks cs = c :: more ∧
        dropBlanks (dropCommas cs) = c :: dropCommas more := by
  induction cs with
  | nil => exact .inl ⟨rfl, rfl⟩
  | cons c rest ih =>
      by_cases blank : isBlank c = true
      · rwa [dropCommas_cons_blank blank, dropBlanks_cons_blank blank, dropBlanks_cons_blank blank]
      have solid : isBlank c = false := by simpa using blank
      by_cases removed : c = ',' ∧ closes rest = true
      · obtain ⟨rfl, closing⟩ := removed
        have closesStill : closes (dropCommas rest) = true := by
          rw [closes_dropCommas, closing, Bool.true_or]
        obtain ⟨more, begins⟩ := exists_of_closes closesStill
        refine .inr (.inl ⟨rest, ';' :: more, dropBlanks_cons_solid solid, ?_⟩)
        rw [dropCommas_cons_of_closes closing, begins]
      · refine .inr (.inr ⟨c, rest, solid, dropBlanks_cons_solid solid, ?_⟩)
        rw [dropCommas_cons_kept removed, dropBlanks_cons_solid solid]

theorem compares_dropCommas (cs : List Char) :
    compares (dropBlanks (dropCommas cs)) = compares (dropBlanks cs) := by
  obtain ⟨before, after⟩ | ⟨_, _, before, after⟩ | ⟨c, more, _, before, after⟩ :=
    front_dropCommas cs
  · rw [before, after]
  · rw [before, after]
    rfl
  · rw [before, after, compares_cons, compares_cons,
      head?_dropCommas (by decide) (by decide) (by decide)]

/-- Whether a plus is dangling does not change with the commas, as none is removed in front of a
comparison. -/
theorem dangles_dropCommas (cs : List Char) : dangles (dropCommas cs) = dangles cs := by
  cases cs with
  | nil => rfl
  | cons c rest =>
      by_cases removed : c = ',' ∧ closes rest = true
      · -- a closing takes the comma's place, and that is no comparison
        obtain ⟨rfl, closing⟩ := removed
        have still : ¬dangles (dropCommas rest) = true := fun dangling => by
          have comparing := compares_of_dangles dangling
          rw [compares_dropCommas] at comparing
          obtain ⟨_, begins⟩ := exists_of_closes closing
          simp [begins, compares_cons] at comparing
        rw [dropCommas_cons_of_closes closing, Bool.eq_false_iff.2 still]
        rfl
      · rw [dropCommas_cons_kept removed, dangles_cons, dangles_cons, compares_dropCommas]

end Front

section Stacked

variable {c : Char} {rest : List Char}

theorem becomesComparison_cons_of_ne (noPlus : c ≠ '+')
    (noMark : ¬(c = '!' ∧ rest.head? = some '+')) : becomesComparison (c :: rest) = false := by
  unfold becomesComparison
  split <;> simp_all

/-- The mark behind blanks, as far as it is neither a bracket nor a comma. -/
theorem head?_dropBlanks_dropCommas {d : Char} (open' : d ≠ ')') (other : d ≠ ',')
    (cs : List Char) :
    ((dropBlanks (dropCommas cs)).head? == some d) = ((dropBlanks cs).head? == some d) := by
  obtain ⟨before, after⟩ | ⟨_, _, before, after⟩ | ⟨_, _, _, before, after⟩ := front_dropCommas cs
  · rw [before, after]
  · simp [before, after, beq_eq_false_iff_ne.2 open'.symm, beq_eq_false_iff_ne.2 other.symm]
  · rw [before, after]
    rfl

/-- What a plus will come to stand before is the same with and without the commas that go. -/
theorem becomesComparison_dropCommas (cs : List Char) :
    becomesComparison (dropBlanks (dropCommas cs)) = becomesComparison (dropBlanks cs) := by
  obtain ⟨before, after⟩ | ⟨_, _, before, after⟩ | ⟨c, more, _, before, after⟩ :=
    front_dropCommas cs
  · rw [before, after]
  · rw [before, after]
    rfl
  rw [before, after]
  by_cases plus : c = '+'
  · subst plus
    exact dangles_dropCommas more
  have same : (dropCommas more).head? = some '+' ↔ more.head? = some '+' := by
    have heads : ((dropCommas more).head? == some '+') = (more.head? == some '+') :=
      head?_dropCommas (by decide) (by decide) (by decide)
    simpa using congrArg (· = true) heads
  by_cases mark : c = '!' ∧ more.head? = some '+'
  · obtain ⟨rfl, begins⟩ := mark
    obtain ⟨behind, rfl⟩ : ∃ behind, more = '+' :: behind := by
      cases more with
      | nil => simp at begins
      | cons d behind => exact ⟨behind, by simpa using begins⟩
    rw [dropCommas_cons_of_ne (by decide)]
    show (dangles (dropCommas behind) && _) = (dangles behind && _)
    rw [dangles_dropCommas, head?_dropBlanks_dropCommas (by decide) (by decide)]
  · rw [becomesComparison_cons_of_ne plus mark, becomesComparison_cons_of_ne plus (by rwa [same])]

theorem stackedPlus_cons :
    stackedPlus (c :: rest) = (isBlank c && becomesComparison (dropBlanks rest)) := rfl

/-- A comparison is none that would become one. -/
theorem becomesComparison_of_compares {cs : List Char} (comparing : compares cs = true) :
    becomesComparison cs = false := by
  obtain ⟨c, rest, rfl, isMark⟩ := exists_cons_of_compares comparing
  have noPlus : c ≠ '+' := fun plus => by simp [plus] at isMark
  refine becomesComparison_cons_of_ne noPlus ?_
  rintro ⟨rfl, begins⟩
  simp [compares_cons, begins] at comparing

theorem stackedPlus_of_dangles (dangling : dangles rest = true) : stackedPlus rest = false := by
  cases rest with
  | nil => rfl
  | cons c more =>
      rw [stackedPlus_cons,
        becomesComparison_of_compares (Bool.and_eq_true_iff.1 dangling).2, Bool.and_false]

theorem becomesComparison_of_stackedPlus (stacked : stackedPlus rest = true) :
    becomesComparison (dropBlanks rest) = true := by
  cases rest with
  | nil => simp [stackedPlus] at stacked
  | cons c more =>
      obtain ⟨blank, becoming⟩ := Bool.and_eq_true_iff.1 stacked
      rwa [dropBlanks_cons_blank blank]

/-- The first half of tidying leaves the second its work: pluses are stacked after it if and only if
they were before it. -/
theorem stackedPlus_dropCommas (cs : List Char) :
    stackedPlus (dropCommas cs) = stackedPlus cs := by
  cases cs with
  | nil => rfl
  | cons c rest =>
      by_cases removed : c = ',' ∧ closes rest = true
      · obtain ⟨rfl, closing⟩ := removed
        have still : ¬stackedPlus (dropCommas rest) = true := fun stacked => by
          have becoming := becomesComparison_of_stackedPlus stacked
          rw [becomesComparison_dropCommas] at becoming
          obtain ⟨_, begins⟩ := exists_of_closes closing
          simp [begins, becomesComparison] at becoming
        rw [dropCommas_cons_of_closes closing, Bool.eq_false_iff.2 still]
        rfl
      · rw [dropCommas_cons_kept removed, stackedPlus_cons, stackedPlus_cons,
          becomesComparison_dropCommas]

theorem occurs_stackedPlus_dropCommas (cs : List Char) :
    occurs '+' stackedPlus (dropCommas cs) = occurs '+' stackedPlus cs := by
  induction cs with
  | nil => rfl
  | cons c rest ih =>
      by_cases removed : c = ',' ∧ closes rest = true
      · obtain ⟨rfl, closing⟩ := removed
        rw [dropCommas_cons_of_closes closing, ih, occurs_cons_of_ne (by decide)]
      · rw [dropCommas_cons_kept removed, occurs, occurs, ih, stackedPlus_dropCommas]

end Stacked

section DanglingPluses

variable {c : Char} {rest : List Char}

theorem head?_dropPluses {d : Char} (noPlus : rest.head? ≠ some '+') :
    ((dropPluses false rest).head? == some d) = (rest.head? == some d) := by
  cases rest with
  | nil => rfl
  | cons e others =>
      rw [dropPluses_cons_kept (.inl rfl) fun removed => noPlus (by simp [removed.1])]
      rfl

/-- The second sign of a mark of two stands there, or a removed plus stood in front of it. -/
theorem head?_equals_dropPluses (rest : List Char) :
    ((dropPluses false rest).head? == some '=') =
      (rest.head? == some '=' || becomesComparison ('!' :: rest)) := by
  by_cases plus : rest.head? = some '+'
  · obtain ⟨behind, rfl⟩ := List.head?_eq_some_iff.1 plus
    cases dangling : dangles behind with
    | true =>
        obtain ⟨_, _, _, begins, leaves⟩ := dropPluses_plus_of_dangles dangling
        simp [leaves, becomesComparison, dangling, begins]
    | false =>
        rw [dropPluses_cons_kept (.inl rfl) (by simp [dangling])]
        simp [becomesComparison, dangling]
  · rw [head?_dropPluses plus, becomesComparison_cons_of_ne (by decide) fun mark => plus mark.2,
      Bool.or_false]

theorem compares_cons_dropPluses (noPlus : c ≠ '+') :
    compares (c :: dropPluses false rest) =
      (compares (c :: rest) || becomesComparison (c :: rest)) := by
  rw [compares_cons, compares_cons, head?_equals_dropPluses]
  by_cases mark : c = '!'
  · subst mark
    simp
  · rw [becomesComparison_cons_of_ne noPlus fun bang => mark bang.1]
    simp [beq_eq_false_iff_ne.2 mark]

/-- When pluses are gone, a comparison stands where one did or where one was to become one. -/
theorem compares_dropPluses (cs : List Char) :
    compares (dropBlanks (dropPluses false cs)) =
      (compares (dropBlanks cs) || becomesComparison (dropBlanks cs)) := by
  obtain ⟨before, after⟩ | ⟨behind, mark, more, sign, before, dangling, begins, after⟩ |
    ⟨c, more, solid, kept, before, after⟩ := front_dropPluses cs
  · rw [before, after]
    rfl
  · have comparing := compares_of_dangles dangling
    rw [begins] at comparing
    rw [before, after, compares_cons_dropPluses (sign_apart mark sign).2.1, comparing]
    show true = dangles behind
    rw [dangling]
  · rw [before, after]
    by_cases plus : c = '+'
    · subst plus
      have keeps : dangles more = false := by simpa using kept
      show false = (false || dangles more)
      rw [keeps]
      rfl
    · exact compares_cons_dropPluses plus

/-- When pluses are gone, a plus dangles in front of the rest if it did or was stacked. -/
theorem dangles_dropPluses (rest : List Char) :
    dangles (dropPluses false rest) = (dangles rest || stackedPlus rest) := by
  cases rest with
  | nil => rfl
  | cons c rest =>
      by_cases removed : c = '+' ∧ dangles rest = true
      · -- the comparison that comes forward is no blank
        obtain ⟨rfl, dangling⟩ := removed
        obtain ⟨mark, _, sign, _, leaves⟩ := dropPluses_plus_of_dangles dangling
        rw [leaves, dangles_cons, (sign_apart mark sign).1]
        rfl
      · rw [dropPluses_cons_kept (.inl rfl) removed, dangles_cons, dangles_cons, stackedPlus_cons,
          compares_dropPluses]
        cases isBlank c <;> rfl

/-- A semicolon at the front of a text neither comes nor goes with the pluses. -/
theorem head?_semicolon_dropPluses (rest : List Char) :
    ((dropPluses false rest).head? == some ';') = (rest.head? == some ';') := by
  by_cases removed : ∃ behind, rest = '+' :: behind ∧ dangles behind = true
  · obtain ⟨behind, rfl, dangling⟩ := removed
    obtain ⟨mark, _, sign, _, leaves⟩ := dropPluses_plus_of_dangles dangling
    have apart : mark ≠ ';' := by
      rintro rfl
      simp at sign
    simp [leaves, apart]
  · cases rest with
    | nil => rfl
    | cons c more =>
        rw [dropPluses_cons_kept (.inl rfl) fun plus => removed ⟨more, by simp [plus]⟩]
        rfl

/-- A plus is left in front of a comparison exactly where pluses were stacked. -/
theorem occurs_dangles_dropPluses (skipping : Bool) (cs : List Char) :
    occurs '+' dangles (dropPluses skipping cs) = occurs '+' stackedPlus cs := by
  fun_induction dropPluses skipping cs with
  | case1 => rfl
  | case2 skipping c rest skipped ih =>
      rw [ih, occurs_cons_of_ne (ne_of_isBlank skipped.2 (by decide))]
  | case3 skipping c rest _ removed ih =>
      rw [ih, occurs, stackedPlus_of_dangles removed.2, Bool.and_false, Bool.false_or]
  | case4 skipping c rest _ kept ih =>
      by_cases plus : c = '+'
      · have keeps : dangles rest = false := by simpa [plus] using kept
        rw [occurs, occurs, ih, dangles_dropPluses, keeps, Bool.false_or]
      · rw [occurs_cons_of_ne plus, occurs_cons_of_ne plus, ih]

/-- Pluses are not read where a closing is looked for. -/
theorem closes_dropPluses (cs : List Char) : closes (dropPluses false cs) = closes cs := by
  obtain ⟨before, after⟩ | ⟨behind, mark, more, sign, before, dangling, begins, after⟩ |
    ⟨c, more, solid, kept, before, after⟩ := front_dropPluses cs
  · rw [closes, closes, before, after]
  · obtain ⟨_, _, _, noBracket⟩ := sign_apart mark sign
    simp [closes, before, after, noBracket]
  · rw [← closes_dropBlanks, after, ← closes_dropBlanks cs, before, closes_cons_solid solid,
      closes_cons_solid solid, head?_semicolon_dropPluses]

/-- No comma comes to stand in front of a closing when pluses go. -/
theorem occurs_closes_dropPluses (skipping : Bool) (cs : List Char) :
    occurs ',' closes (dropPluses skipping cs) = occurs ',' closes cs := by
  fun_induction dropPluses skipping cs with
  | case1 => rfl
  | case2 skipping c rest skipped ih =>
      rw [ih, occurs_cons_of_ne (ne_of_isBlank skipped.2 (by decide))]
  | case3 skipping c rest _ removed ih =>
      rw [ih, occurs_cons_of_ne (by simp [removed.1])]
  | case4 skipping c rest _ kept ih => rw [occurs, occurs, closes_dropPluses, ih]

theorem dropPluses_sublist (skipping : Bool) (cs : List Char) :
    (dropPluses skipping cs).Sublist cs := by
  fun_induction dropPluses skipping cs with
  | case1 => exact .slnil
  | case2 _ _ _ _ ih => exact ih.cons _
  | case3 _ _ _ _ _ ih => exact ih.cons _
  | case4 _ _ _ _ _ ih => exact ih.cons_cons _

/-- Exactly the texts without a plus in front of a comparison are left alone. -/
theorem dropPluses_eq_self_iff {cs : List Char} :
    dropPluses false cs = cs ↔ occurs '+' dangles cs = false := by
  induction cs with
  | nil => simp [dropPluses, occurs]
  | cons c rest ih =>
      by_cases removed : c = '+' ∧ dangles rest = true
      · obtain ⟨rfl, dangling⟩ := removed
        have shorter : dropPluses true rest ≠ '+' :: rest := by
          intro same
          have long := (dropPluses_sublist true rest).length_le
          rw [same, List.length_cons] at long
          omega
        simp [dropPluses_cons_of_dangles dangling, occurs, dangling, shorter]
      · rw [dropPluses_cons_kept (.inl rfl) removed, List.cons_eq_cons, ih, occurs]
        have none : (c == '+' && dangles rest) = false := by simpa using removed
        simp [none]

end DanglingPluses

/-! ## A pass and what it leaves -/

/-- The second pass has nothing to remove where nothing was stacked. -/
theorem isTidy_tidyChars_iff {cs : List Char} : IsTidy (tidyChars cs) ↔ ¬Stacked cs := by
  rw [IsTidy, Stacked, tidyChars, occurs_closes_dropPluses, occurs_closes_dropCommas,
    occurs_dangles_dropPluses, occurs_stackedPlus_dropCommas, not_or, Bool.not_eq_true,
    Bool.not_eq_true]

/-- Tidying leaves exactly the tidy texts as they are. -/
theorem tidyChars_eq_self_iff {cs : List Char} : tidyChars cs = cs ↔ IsTidy cs := by
  constructor
  · intro same
    -- both removals only leave characters out, so the first has left out none
    have whole : (dropPluses false (dropCommas cs)).length ≤ (dropCommas cs).length :=
      (dropPluses_sublist false (dropCommas cs)).length_le
    have commas : dropCommas cs = cs :=
      (dropCommas_sublist cs).eq_of_length_le (by rwa [← tidyChars, same] at whole)
    rw [tidyChars, commas] at same
    exact ⟨dropCommas_eq_self_iff.1 commas, dropPluses_eq_self_iff.1 same⟩
  · rintro ⟨noComma, noPlus⟩
    rw [tidyChars, dropCommas_eq_self_iff.2 noComma, dropPluses_eq_self_iff.2 noPlus]

theorem tidy_eq_self_iff {text : String} : tidy text = text ↔ IsTidy text.toList := by
  rw [← tidyChars_eq_self_iff, tidy]
  constructor
  · intro same
    simpa using congrArg String.toList same
  · intro same
    rw [same, String.ofList_toList]

/-- Tidying twice is tidying once exactly where no separator was stacked on another. -/
theorem tidy_tidy_iff (text : String) : tidy (tidy text) = tidy text ↔ ¬Stacked text.toList := by
  rw [tidy_eq_self_iff, ← isTidy_tidyChars_iff, tidy, String.toList_ofList]

/-- The first of two commas is kept, and the second pass finds it in front of the closing. -/
theorem tidy_stacked_commas : tidy (tidy ",,);") ≠ tidy ",,);" := by decide +kernel

end EntitySchema.Ddl
