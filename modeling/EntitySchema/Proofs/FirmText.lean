/-
# EntitySchema.Proofs.FirmText -- texts that tidying leaves alone wherever they stand

Whether a separator is removed depends on what stands behind it, so a tidy text need not
stay as it is when more is written behind it: `a,` is tidy and `a,);` is not.  A text is
firm if none of its separators is removed whatever stands behind (`Firm`).  Firm texts
may be written one behind the other (`Firm.append`) and with separators that are firm
(`firm_intercalate`).

A comma between two items is firm only together with the item behind it.  An item that
begins with no blank and holds no semicolon begins no closing `);` by itself, so the comma is kept
if what follows the item is no semicolon either (`IsItem`).  Therefore a list of such items is
firm with its closing bracket or line break (`firm_list`).
-/
import EntitySchema.Proofs.Tidying

namespace EntitySchema.Ddl

open EntitySchema.Text

set_option autoImplicit false

/-! ## Firm texts -/

theorem occurs_append {separator : Char} (holds : List Char → Bool) (first second : List Char) :
    occurs separator holds (first ++ second) =
      (occurs separator (fun rest => holds (rest ++ second)) first
        || occurs separator holds second) := by
  induction first with
  | nil => rfl
  | cons c rest ih => rw [List.cons_append, occurs, occurs, ih, Bool.or_assoc]

theorem occurs_of_notMem {separator : Char} {holds : List Char → Bool} {text : List Char}
    (without : separator ∉ text) : occurs separator holds text = false := by
  refine Bool.eq_false_iff.2 fun found => ?_
  obtain ⟨before, rest, rfl, _⟩ := occurs_iff.1 found
  simp at without

def isPlain (text : String) : Bool := text.toList.all fun c => c != ',' && c != '+'

/-- No separator of the text is removed, whatever stands behind it. -/
structure Firm (text : String) : Prop where
  commas : ∀ behind : List Char, occurs ',' (fun rest => closes (rest ++ behind)) text.toList = false
  pluses : ∀ behind : List Char,
    occurs '+' (fun rest => dangles (rest ++ behind)) text.toList = false

namespace Firm

variable {first second text : String}

theorem isTidy (firm : Firm text) : IsTidy text.toList := by
  have commas := firm.commas []
  have pluses := firm.pluses []
  simp only [List.append_nil] at commas pluses
  exact ⟨commas, pluses⟩

theorem tidy_eq_self (firm : Firm text) : tidy text = text := tidy_eq_self_iff.2 firm.isTidy

theorem append (left : Firm first) (right : Firm second) : Firm (first ++ second) where
  commas behind := by
    rw [String.toList_append, occurs_append, right.commas behind, Bool.or_false]
    simp only [List.append_assoc]
    exact left.commas _
  pluses behind := by
    rw [String.toList_append, occurs_append, right.pluses behind, Bool.or_false]
    simp only [List.append_assoc]
    exact left.pluses _

/-- A text without separators is firm. -/
theorem of_notMem (noComma : ',' ∉ text.toList) (noPlus : '+' ∉ text.toList) : Firm text where
  commas _ := occurs_of_notMem noComma
  pluses _ := occurs_of_notMem noPlus

theorem of_isPlain (plain : isPlain text = true) : Firm text := by
  have apart := List.all_eq_true.1 plain
  refine .of_notMem (fun mem => ?_) (fun mem => ?_)
  · exact absurd (apart _ mem) (by decide)
  · exact absurd (apart _ mem) (by decide)

theorem empty : Firm "" := .of_isPlain rfl

end Firm

/-- What holds of texts one behind the other holds of texts with separators between them. -/
theorem intercalate_induction {Holds : String → Prop} (empty : Holds "")
    (append : ∀ {first second}, Holds first → Holds second → Holds (first ++ second))
    {separator : String} (between : Holds separator) {texts : List String}
    (each : ∀ text ∈ texts, Holds text) : Holds (String.intercalate separator texts) := by
  induction texts with
  | nil => simpa using empty
  | cons text rest ih =>
      have here := each text List.mem_cons_self
      have there := ih fun other mem => each other (List.mem_cons_of_mem text mem)
      cases rest with
      | nil => simpa using here
      | cons next others =>
          rw [String.intercalate_cons_cons]
          exact append (append here between) there

theorem firm_intercalate {separator : String} (between : Firm separator) {texts : List String}
    (each : ∀ text ∈ texts, Firm text) : Firm (String.intercalate separator texts) :=
  intercalate_induction .empty .append between each

/-! ## Commas -/

/-- A comma in front of the text is kept, whatever stands behind the text. -/
def KeepsComma (text : String) : Prop :=
  ∀ behind : List Char, closes (text.toList ++ behind) = false

/-- A comma in front of the text is kept as long as no semicolon stands right behind the text. -/
def IsItem (text : String) : Prop :=
  ∀ (next : Char) (behind : List Char), next ≠ ';' →
    closes (text.toList ++ next :: behind) = false

theorem closes_append_of_blanks {blanks : List Char} (blank : ∀ c ∈ blanks, isBlank c = true)
    (rest : List Char) : closes (blanks ++ rest) = closes rest := by
  induction blanks with
  | nil => rfl
  | cons c more ih =>
      rw [List.cons_append, closes_cons_blank (blank c List.mem_cons_self),
        ih fun d mem => blank d (List.mem_cons_of_mem c mem)]

/-- A comma, blanks, and a text in front of which the comma is kept. -/
theorem Firm.comma {blanks text : String} (blank : ∀ c ∈ blanks.toList, isBlank c = true)
    (firm : Firm text) (keeps : KeepsComma text) : Firm ("," ++ blanks ++ text) where
  commas behind := by
    have front : ("," ++ blanks).toList = ',' :: blanks.toList := by simp
    have noComma : ',' ∉ blanks.toList := fun mem => absurd (blank _ mem) (by decide)
    rw [String.toList_append, front, List.cons_append, occurs, occurs_append,
      occurs_of_notMem noComma, firm.commas behind, List.append_assoc,
      closes_append_of_blanks blank, keeps behind]
    rfl
  pluses behind := by
    have noPlus : '+' ∉ ("," ++ blanks).toList := by
      intro mem
      rcases List.mem_append.1 (String.toList_append ▸ mem) with inComma | inBlanks
      · simp at inComma
      · exact absurd (blank _ inBlanks) (by decide)
    rw [String.toList_append, occurs_append, occurs_of_notMem noPlus, firm.pluses behind]
    rfl

/-- A text that begins with no blank is an item if it has no semicolon: a closing would
need one behind its bracket. -/
theorem isItem_of_notMem {text : String} {c : Char} (begins : text.toList.head? = some c)
    (solid : isBlank c = false) (without : ';' ∉ text.toList) : IsItem text := by
  intro next behind other
  obtain ⟨rest, letters⟩ := List.head?_eq_some_iff.1 begins
  have second : (rest ++ next :: behind).head? ≠ some ';' := by
    cases rest with
    | nil => simpa using other
    | cons d more =>
        intro semicolon
        have same : d = ';' := by simpa using semicolon
        simp [letters, same] at without
  rw [letters, List.cons_append, closes_cons_solid solid, beq_eq_false_iff_ne.2 second,
    Bool.and_false]

/-- Blanks in front of an item make no difference. -/
theorem IsItem.append {blanks text : String} (blank : ∀ c ∈ blanks.toList, isBlank c = true)
    (item : IsItem text) : IsItem (blanks ++ text) := by
  intro next behind other
  rw [String.toList_append, List.append_assoc, closes_append_of_blanks blank]
  exact item next behind other

theorem IsItem.keepsComma {text rest : String} (item : IsItem text) {next : Char}
    (begins : rest.toList.head? = some next) (other : next ≠ ';') : KeepsComma (text ++ rest) := by
  intro behind
  obtain ⟨more, letters⟩ := List.head?_eq_some_iff.1 begins
  rw [String.toList_append, letters, List.append_assoc, List.cons_append]
  exact item next _ other

section Lists

variable {blanks closing : String} {items : List String} {c : Char}

/-- In front of a list that is closed by something else than a semicolon a comma is kept. -/
theorem keepsComma_list {item : String} {rest : List String} (isItem : IsItem item)
    (ends : closing.toList.head? = some c) (other : c ≠ ';') :
    KeepsComma (String.intercalate ("," ++ blanks) (item :: rest) ++ closing) := by
  cases rest with
  | nil =>
      rw [String.intercalate_singleton]
      exact isItem.keepsComma ends other
  | cons next others =>
      rw [String.intercalate_cons_cons, String.append_assoc, String.append_assoc]
      exact isItem.keepsComma (by simp : _ = some ',') (by decide)

/-- Firm items with commas between them are firm together with what closes their list. -/
theorem firm_list (blank : ∀ c ∈ blanks.toList, isBlank c = true)
    (each : ∀ item ∈ items, Firm item ∧ IsItem item) (firm : Firm closing)
    (ends : closing.toList.head? = some c) (other : c ≠ ';') :
    Firm (String.intercalate ("," ++ blanks) items ++ closing) := by
  induction items with
  | nil => simpa using firm
  | cons item rest ih =>
      have here := (each item List.mem_cons_self).1
      have there := ih fun later mem => each later (List.mem_cons_of_mem item mem)
      cases rest with
      | nil =>
          rw [String.intercalate_singleton]
          exact here.append firm
      | cons next others =>
          have isItem := (each next (by simp)).2
          rw [String.intercalate_cons_cons, String.append_assoc, String.append_assoc]
          exact here.append (.comma blank there (keepsComma_list isItem ends other))

end Lists

/-! ## Pluses -/

/-- A plus between blanks is kept in front of a text that begins no comparison. -/
theorem Firm.plus {text : String} {c : Char} (firm : Firm text)
    (begins : text.toList.head? = some c) (solid : isBlank c = false)
    (noSign : c ∉ ['<', '>', '=', '!']) : Firm (" + " ++ text) where
  commas behind := by
    rw [String.toList_append, occurs_append, occurs_of_notMem (by simp), firm.commas behind]
    rfl
  pluses behind := by
    obtain ⟨rest, letters⟩ := List.head?_eq_some_iff.1 begins
    have front : (" + " ++ text).toList = ' ' :: '+' :: ' ' :: text.toList := by simp
    have kept : dangles (' ' :: text.toList ++ behind) = false := by
      refine Bool.eq_false_iff.2 fun dangling => ?_
      have comparing := compares_of_dangles dangling
      rw [List.cons_append, dropBlanks_cons_blank (by decide), letters, List.cons_append,
        dropBlanks_cons_solid solid] at comparing
      obtain ⟨_, _, same, sign⟩ := exists_cons_of_compares comparing
      obtain ⟨rfl, _⟩ := List.cons.inj same
      exact noSign sign
    have there := firm.pluses behind
    rw [front, occurs_cons_of_ne (by decide), occurs, kept, occurs_cons_of_ne (by decide), there]
    rfl

end EntitySchema.Ddl
