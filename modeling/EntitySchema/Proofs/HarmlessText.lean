/-
# EntitySchema.Proofs.HarmlessText -- what authors write between generated separators

Labels, types and messages are written by authors and stand among separators that are
generated.  Such a text is harmless if it has no plus, no semicolon and no comma whose next
character, blanks left aside, is missing or a closing bracket (`Harmless`): then it is firm
(`Harmless.firm`), and no separator of its own is completed by what is written behind it.

Names are made from labels by trimming, joining runs of blanks, changing case, and writing
names and numbers one behind the other.  All of that keeps a text harmless, and a name begins with no
blank if no label is blank (`IsName`): `isName_columnName` and what follows it.
-/
import EntitySchema.Key.Reference
import EntitySchema.Proofs.FirmText
import EntitySchema.Proofs.LetterCase
import EntitySchema.Proofs.RaisedMessages

namespace EntitySchema

open EntitySchema.Text EntitySchema.Ddl

set_option autoImplicit false

/-! ## Harmless texts -/

/-- Whether the text ends behind blanks or has a closing bracket there. -/
def endsOrCloses (text : List Char) : Bool :=
  match dropBlanks text with
  | [] => true
  | c :: _ => c == ')'

/-- A text without pluses and semicolons in which every comma is followed, blanks left aside, by
a character other than a closing bracket. -/
structure Harmless (text : String) : Prop where
  noPlus : '+' ∉ text.toList
  noSemicolon : ';' ∉ text.toList
  continued : occurs ',' endsOrCloses text.toList = false

instance (text : String) : Decidable (Harmless text) :=
  decidable_of_iff ('+' ∉ text.toList ∧ ';' ∉ text.toList ∧
      occurs ',' endsOrCloses text.toList = false)
    ⟨fun ⟨noPlus, noSemicolon, continued⟩ => ⟨noPlus, noSemicolon, continued⟩,
      fun ⟨noPlus, noSemicolon, continued⟩ => ⟨noPlus, noSemicolon, continued⟩⟩

section EndsOrCloses

variable {c : Char} {rest : List Char}

theorem endsOrCloses_cons_blank (blank : isBlank c = true) :
    endsOrCloses (c :: rest) = endsOrCloses rest := by
  rw [endsOrCloses, dropBlanks_cons_blank blank, endsOrCloses]

theorem endsOrCloses_cons_solid (solid : isBlank c = false) :
    endsOrCloses (c :: rest) = (c == ')') := by
  rw [endsOrCloses, dropBlanks_cons_solid solid]

/-- What a comma is followed by is not changed by what is written behind it. -/
theorem endsOrCloses_append (goesOn : endsOrCloses rest = false) (behind : List Char) :
    endsOrCloses (rest ++ behind) = false := by
  induction rest with
  | nil => simp [endsOrCloses, dropBlanks] at goesOn
  | cons c rest ih =>
      rw [List.cons_append]
      cases blank : isBlank c with
      | true =>
          rw [endsOrCloses_cons_blank blank] at goesOn ⊢
          exact ih goesOn
      | false => rwa [endsOrCloses_cons_solid blank] at goesOn ⊢

/-- Blanks behind a text do not change whether a comma in front of it is followed by something. -/
theorem endsOrCloses_append_of_blanks {blanks : List Char}
    (blank : ∀ c ∈ blanks, isBlank c = true) (rest : List Char) :
    endsOrCloses (rest ++ blanks) = endsOrCloses rest := by
  induction rest with
  | nil =>
      have none : dropBlanks (blanks ++ []) = dropBlanks [] := List.dropWhile_append_of_pos blank
      rw [List.append_nil] at none
      rw [List.nil_append, endsOrCloses, none]
      rfl
  | cons c rest ih =>
      rw [List.cons_append]
      cases here : isBlank c with
      | true => rw [endsOrCloses_cons_blank here, endsOrCloses_cons_blank here, ih]
      | false => rw [endsOrCloses_cons_solid here, endsOrCloses_cons_solid here]

theorem endsOrCloses_of_closes (closing : closes rest = true) : endsOrCloses rest = true := by
  obtain ⟨more, begins⟩ := exists_of_closes closing
  rw [endsOrCloses, begins]
  rfl

end EndsOrCloses

/-- A separator in front of a text that meets a condition is one in front of a text that meets a
weaker one. -/
theorem occurs_eq_false_of_imp {separator : Char} {stronger weaker : List Char → Bool}
    {text : List Char} (imp : ∀ rest, stronger rest = true → weaker rest = true)
    (none : occurs separator weaker text = false) : occurs separator stronger text = false := by
  refine Bool.eq_false_iff.2 fun found => ?_
  obtain ⟨before, rest, split, holds⟩ := occurs_iff.1 found
  rw [occurs_iff.2 ⟨before, rest, split, imp rest holds⟩] at none
  simp at none

namespace Harmless

variable {first second text : String}

theorem of_notMem (noComma : ',' ∉ text.toList) (noPlus : '+' ∉ text.toList)
    (noSemicolon : ';' ∉ text.toList) : Harmless text :=
  ⟨noPlus, noSemicolon, occurs_of_notMem noComma⟩

theorem append (left : Harmless first) (right : Harmless second) : Harmless (first ++ second) where
  noPlus := by simp [left.noPlus, right.noPlus]
  noSemicolon := by simp [left.noSemicolon, right.noSemicolon]
  continued := by
    have inFirst : occurs ',' (fun rest => endsOrCloses (rest ++ second.toList)) first.toList
        = false := by
      refine occurs_eq_false_of_imp (fun rest ends => ?_) left.continued
      by_contra goesOn
      have still := endsOrCloses_append (by simpa using goesOn) second.toList
      rw [ends] at still
      simp at still
    rw [String.toList_append, occurs_append, inFirst, right.continued]
    rfl

/-- No separator of a harmless text is removed, whatever stands behind it. -/
theorem firm (harmless : Harmless text) : Firm text where
  commas behind := by
    refine occurs_eq_false_of_imp (fun rest closing => ?_) harmless.continued
    by_contra goesOn
    have still := endsOrCloses_append (by simpa using goesOn) behind
    rw [endsOrCloses_of_closes closing] at still
    simp at still
  pluses _ := occurs_of_notMem harmless.noPlus

theorem empty : Harmless "" := by decide

theorem intercalate {separator : String} (between : Harmless separator) {texts : List String}
    (each : ∀ text ∈ texts, Harmless text) : Harmless (String.intercalate separator texts) :=
  intercalate_induction .empty .append between each

theorem toString_nat (n : Nat) : Harmless (toString n) :=
  .of_notMem (notMem_toString rfl n) (notMem_toString rfl n) (notMem_toString rfl n)

theorem toString_int (code : Int) : Harmless (toString code) :=
  .of_notMem (comma_notMem_toString code) (plus_notMem_toString code)
    (notMem_toString_int rfl (by decide) code)

end Harmless

/-! ## Texts made from harmless ones -/

section Respelled

variable {text other : List Char}

/-- Spelling the words of a text differently neither makes nor removes a closing bracket at its
front. -/
theorem endsOrCloses_respelled (respelled : Respelled text other) :
    endsOrCloses other = endsOrCloses text := by
  induction respelled with
  | nil => rfl
  | @mark c _ _ _ _ ih =>
      cases blank : isBlank c with
      | true => rw [endsOrCloses_cons_blank blank, endsOrCloses_cons_blank blank, ih]
      | false => rw [endsOrCloses_cons_solid blank, endsOrCloses_cons_solid blank]
  | @word c _ _ letters noMark some words _ _ =>
      obtain ⟨d, more, rfl⟩ := List.exists_cons_of_ne_nil some
      have first := words d List.mem_cons_self
      have bracket : isMark ')' = true := by decide
      rw [List.cons_append, endsOrCloses_cons_solid (not_isBlank_of_not_isMark first),
        endsOrCloses_cons_solid (not_isBlank_of_not_isMark noMark),
        beq_eq_false_iff_ne.2 (ne_of_not_isMark first bracket),
        beq_eq_false_iff_ne.2 (ne_of_not_isMark noMark bracket)]

theorem occurs_respelled (respelled : Respelled text other) :
    occurs ',' endsOrCloses other = occurs ',' endsOrCloses text := by
  induction respelled with
  | nil => rfl
  | mark _ rest ih => rw [occurs, occurs, ih, endsOrCloses_respelled rest]
  | word noMark _ words _ ih =>
      have comma : isMark ',' = true := by decide
      have noComma : ',' ∉ _ := fun mem => ne_of_not_isMark (words _ mem) comma rfl
      rw [occurs_append, occurs_of_notMem noComma, Bool.false_or, ih,
        occurs_cons_of_ne (ne_of_not_isMark noMark comma)]

end Respelled

/-- A harmless text stays harmless when its words are spelled differently. -/
theorem Harmless.respell {text other : String} (harmless : Harmless text)
    (respelled : Respelled text.toList other.toList) : Harmless other where
  noPlus := by
    rw [respelled.mem_iff (by decide)]
    exact harmless.noPlus
  noSemicolon := by
    rw [respelled.mem_iff (by decide)]
    exact harmless.noSemicolon
  continued := by
    rw [occurs_respelled respelled]
    exact harmless.continued

theorem Harmless.lowerString {text : String} (harmless : Harmless text) :
    Harmless (lowerString text) :=
  harmless.respell (by simpa [Text.lowerString] using respelled_lower text.toList)

/-- Doubling quotes is a way of spelling. -/
theorem respelled_doubled (text : List Char) : Respelled text (doubled text) := by
  induction text with
  | nil => exact .nil
  | cons c rest ih =>
      have quote : isMark '\'' = false := by decide
      by_cases same : c = '\''
      · subst same
        exact .word quote (by simp) (by simp [quote]) ih
      · rw [doubled_cons_of_ne same]
        exact .cons (fun _ => rfl) (fun word => ⟨List.cons_ne_nil _ _, by simpa using word⟩) ih

theorem Harmless.doubleQuotes {text : String} (harmless : Harmless text) :
    Harmless (doubleQuotes text) :=
  harmless.respell (toList_doubleQuotes text ▸ respelled_doubled text.toList)

/-! ### Trimming and joining blanks -/

theorem exists_append_dropBlanks (text : List Char) :
    ∃ blanks, (∀ c ∈ blanks, isBlank c = true) ∧ text = blanks ++ dropBlanks text :=
  ⟨text.takeWhile isBlank, List.all_eq_true.1 List.all_takeWhile,
    List.takeWhile_append_dropWhile.symm⟩

theorem exists_dropBlanksEnd_append (text : List Char) :
    ∃ blanks, (∀ c ∈ blanks, isBlank c = true) ∧ text = dropBlanksEnd text ++ blanks := by
  obtain ⟨blanks, blank, split⟩ := exists_append_dropBlanks text.reverse
  refine ⟨blanks.reverse, fun c mem => blank c (List.mem_reverse.1 mem), ?_⟩
  rw [dropBlanksEnd, ← List.reverse_append, ← split, List.reverse_reverse]

theorem mem_of_mem_dropBlanksEnd {text : List Char} {c : Char} (mem : c ∈ dropBlanksEnd text) :
    c ∈ text := by
  obtain ⟨_, _, split⟩ := exists_dropBlanksEnd_append text
  rw [split]
  exact List.mem_append_left _ mem

theorem mem_of_mem_trim {text : List Char} {c : Char} (mem : c ∈ trim text) : c ∈ text := by
  have front : (dropBlanks text).Sublist text := List.dropWhile_sublist isBlank
  exact front.subset (mem_of_mem_dropBlanksEnd mem)

theorem occurs_trim {text : List Char} (continued : occurs ',' endsOrCloses text = false) :
    occurs ',' endsOrCloses (trim text) = false := by
  obtain ⟨_, _, split⟩ := exists_append_dropBlanks text
  rw [split, occurs_append, Bool.or_eq_false_iff] at continued
  obtain ⟨blanks, blank, kept⟩ := exists_dropBlanksEnd_append (dropBlanks text)
  have behind := continued.2
  rw [kept, occurs_append, Bool.or_eq_false_iff] at behind
  simp only [endsOrCloses_append_of_blanks blank] at behind
  exact behind.1

/-- Joining runs of blanks brings in no character but the mark that stands for them. -/
theorem mem_joinRuns {mark c : Char} {within : Bool} {text : List Char}
    (mem : c ∈ joinRuns mark within text) : c = mark ∨ c ∈ text := by
  induction text generalizing within with
  | nil => simp [joinRuns] at mem
  | cons d rest ih =>
      unfold joinRuns at mem
      split at mem
      · split at mem
        · exact (ih mem).imp_right (List.mem_cons_of_mem d)
        · rcases List.mem_cons.1 mem with same | mem
          · exact .inl same
          · exact (ih mem).imp_right (List.mem_cons_of_mem d)
      · rcases List.mem_cons.1 mem with rfl | mem
        · exact .inr List.mem_cons_self
        · exact (ih mem).imp_right (List.mem_cons_of_mem d)

/-- The mark of a run is no closing bracket. -/
theorem endsOrCloses_joinRuns {text : List Char} (goesOn : endsOrCloses text = false) :
    endsOrCloses (joinRuns '_' false text) = false := by
  cases text with
  | nil => simp [endsOrCloses, dropBlanks] at goesOn
  | cons c rest =>
      cases blank : isBlank c with
      | true =>
          rw [joinRuns, if_pos blank, if_neg (by simp), endsOrCloses_cons_solid (by decide)]
          rfl
      | false =>
          rw [endsOrCloses_cons_solid blank] at goesOn
          rwa [joinRuns, if_neg (by simp [blank]), endsOrCloses_cons_solid blank]

/-- A comma that was followed by something still is when the blanks of the text have become
underscores. -/
theorem occurs_joinRuns {within : Bool} {text : List Char}
    (continued : occurs ',' endsOrCloses text = false) :
    occurs ',' endsOrCloses (joinRuns '_' within text) = false := by
  induction text generalizing within with
  | nil => rfl
  | cons c rest ih =>
      have behind : occurs ',' endsOrCloses rest = false := (Bool.or_eq_false_iff.1 continued).2
      unfold joinRuns
      split
      · split
        · exact ih behind
        · rw [occurs_cons_of_ne (by decide)]
          exact ih behind
      · rw [occurs, ih behind, Bool.or_false]
        by_cases comma : c = ','
        · have goesOn : endsOrCloses rest = false := by
            simpa [comma] using (Bool.or_eq_false_iff.1 continued).1
          rw [endsOrCloses_joinRuns goesOn, Bool.and_false]
        · rw [beq_eq_false_iff_ne.2 comma, Bool.false_and]

theorem Harmless.columnName {label : String} (harmless : Harmless label) :
    Harmless (columnName label) := by
  have inLabel : ∀ c ≠ '_', c ∈ (EntitySchema.columnName label).toList → c ∈ label.toList := by
    intro c other mem
    rw [EntitySchema.columnName, String.toList_ofList] at mem
    exact mem_of_mem_trim ((mem_joinRuns mem).resolve_left other)
  refine ⟨fun mem => harmless.noPlus (inLabel _ (by decide) mem),
    fun mem => harmless.noSemicolon (inLabel _ (by decide) mem), ?_⟩
  rw [EntitySchema.columnName, String.toList_ofList]
  exact occurs_joinRuns (occurs_trim harmless.continued)

/-! ## Names -/

/-- A harmless text that begins with no blank. -/
structure IsName (text : String) : Prop extends Harmless text where
  begins : ∃ c, text.toList.head? = some c ∧ isBlank c = false

namespace IsName

variable {first second text : String}

theorem append (left : IsName first) (right : Harmless second) : IsName (first ++ second) where
  toHarmless := left.toHarmless.append right
  begins := by
    obtain ⟨c, begins, solid⟩ := left.begins
    exact ⟨c, by rw [String.toList_append, List.head?_append, begins]; rfl, solid⟩

theorem isItem (isName : IsName text) : IsItem text := by
  obtain ⟨c, begins, solid⟩ := isName.begins
  exact isItem_of_notMem begins solid isName.noSemicolon

/-- A name stays one when its words are spelled differently. -/
theorem respell {other : String} (isName : IsName text)
    (respelled : Respelled text.toList other.toList) : IsName other where
  toHarmless := isName.toHarmless.respell respelled
  begins := by
    obtain ⟨_, begins, solid⟩ := isName.begins
    exact respelled.begins begins solid

theorem upperString (isName : IsName text) : IsName (upperString text) :=
  isName.respell (by simpa [Text.upperString] using respelled_upper text.toList)

theorem lowerString (isName : IsName text) : IsName (lowerString text) :=
  isName.respell (by simpa [Text.lowerString] using respelled_lower text.toList)

end IsName

def isBlankText (text : String) : Bool := text.toList.all isBlank

/-- Only a label of blanks has no name. -/
theorem columnName_ne_empty {label : String} (named : isBlankText label = false) :
    (columnName label).toList ≠ [] := by
  intro none
  rw [columnName, String.toList_ofList, collapse] at none
  have trimmed : trim label.toList = [] := by
    cases same : trim label.toList with
    | nil => rfl
    | cons c rest =>
        rw [same, joinRuns] at none
        split at none <;> simp at none
  obtain ⟨front, frontBlank, split⟩ := exists_append_dropBlanks label.toList
  obtain ⟨behind, behindBlank, rest⟩ := exists_dropBlanksEnd_append (dropBlanks label.toList)
  rw [← trim, trimmed, List.nil_append] at rest
  refine absurd (List.all_eq_true.2 fun c mem => ?_) (Bool.eq_false_iff.1 named)
  rw [split, rest] at mem
  exact (List.mem_append.1 mem).elim (frontBlank c) (behindBlank c)

theorem isName_columnName {label : String} (named : isBlankText label = false)
    (harmless : Harmless label) : IsName (columnName label) where
  toHarmless := harmless.columnName
  begins := by
    obtain ⟨c, rest, letters⟩ := List.exists_cons_of_ne_nil (columnName_ne_empty named)
    exact ⟨c, by rw [letters]; rfl, not_isBlank_of_mem_columnName (letters ▸ List.mem_cons_self)⟩

theorem isName_tableName {label : String} (named : isBlankText label = false)
    (harmless : Harmless label) : IsName (tableName label) :=
  (isName_columnName named harmless).upperString

theorem IsName.foreignColumn {key owner : String} (isName : IsName key) (harmless : Harmless owner) :
    IsName (foreignColumn key owner) :=
  (isName.append (by decide)).append harmless.lowerString

theorem IsName.freshName {name : String} (isName : IsName name) (taken : List String) :
    IsName (freshName taken name) := by
  have numbered : ∀ tries, IsName (nameCandidate name tries) := by
    intro tries
    cases tries with
    | zero => exact isName
    | succ tries => exact isName.append (.toString_nat (tries + 2))
  unfold EntitySchema.freshName
  cases found : ((List.range (taken.length + 1)).map (nameCandidate name)).find? (· ∉ taken) with
  | none => exact isName
  | some candidate =>
      obtain ⟨tries, _, rfl⟩ := List.mem_map.1 (List.mem_of_find?_eq_some found)
      exact numbered tries

end EntitySchema
