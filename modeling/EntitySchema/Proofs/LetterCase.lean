/-
# EntitySchema.Proofs.LetterCase -- what a change of case leaves alone

A mark is a blank or one of the signs `)`, `+`, `,` and `;`.  The case mappings neither
move a mark nor lead to one: that is checked of each run and each expansion of the tables
(`sparesMarks_upper`, `sparesMarks_lower`), by the ends of the run alone.

So a text in another case is the same marks with other words between them
(`Respelled`), whatever form a capital sigma takes.
-/
import EntitySchema.Text.Blank
import EntitySchema.Text.Case

namespace EntitySchema.Text

open EntitySchema.Unicode

set_option autoImplicit false

/-! ## Marks -/

/-- The code points of the marks. -/
def markSpans : List (Nat × Nat) :=
  [(0x09, 0x0D), (0x1C, 0x20), (0x29, 0x29), (0x2B, 0x2C), (0x3B, 0x3B), (0x85, 0x85),
   (0xA0, 0xA0), (0x1680, 0x1680), (0x2000, 0x200A), (0x2028, 0x2029), (0x202F, 0x202F),
   (0x205F, 0x205F), (0x3000, 0x3000)]

def isMarkCode (code : Nat) : Bool :=
  markSpans.any fun span => decide (span.1 ≤ code ∧ code ≤ span.2)

def isMark (c : Char) : Bool := isMarkCode c.toNat

theorem isMark_of_isBlank {c : Char} (blank : isBlank c = true) : isMark c = true := by
  simp only [isBlank, Bool.or_eq_true, Bool.and_eq_true, decide_eq_true_eq, beq_iff_eq] at blank
  simp only [isMark, isMarkCode, markSpans, List.any_cons, List.any_nil, Bool.or_eq_true,
    decide_eq_true_eq, Bool.or_false]
  omega

theorem not_isBlank_of_not_isMark {c : Char} (word : isMark c = false) : isBlank c = false := by
  refine Bool.eq_false_iff.2 fun blank => ?_
  simp [isMark_of_isBlank blank] at word

theorem ne_of_not_isMark {c d : Char} (word : isMark c = false) (mark : isMark d = true) : c ≠ d :=
  fun same => by simp [same, mark] at word

/-- Whether no code point of a span is that of a mark. -/
def markless (first last : Nat) : Bool :=
  markSpans.all fun span => decide (last < span.1 ∨ span.2 < first)

theorem isMarkCode_of_markless {first last code : Nat} (none : markless first last = true)
    (low : first ≤ code) (high : code ≤ last) : isMarkCode code = false := by
  refine List.any_eq_false.2 fun span known => ?_
  have apart := of_decide_eq_true (List.all_eq_true.1 none span known)
  simp only [decide_eq_true_eq]
  omega

/-- What is no code point is replaced by the null character, which is no mark. -/
theorem isMark_ofNat {code : Nat} (word : isMarkCode code = false) :
    isMark (Char.ofNat code) = false := by
  unfold Char.ofNat
  by_cases valid : code.isValidChar
  · rw [dif_pos valid]
    exact word
  · rw [dif_neg valid]
    rfl

/-! ## Mappings -/

/-- Whether a mapping has no entry for a mark and none that leads to one. -/
def sparesMarks (shifts : List Shift) (expansions : List (Nat × List Nat)) : Bool :=
  (shifts.all fun run => markless run.first run.last
      && markless (run.apply run.first) (run.apply run.last))
    && expansions.all fun entry => !isMarkCode entry.1 && !entry.2.isEmpty
      && entry.2.all (!isMarkCode ·)

theorem sparesMarks_upper : sparesMarks upperShifts upperExpansions = true := by decide +kernel

theorem sparesMarks_lower : sparesMarks lowerShifts lowerExpansions = true := by decide +kernel

/-- An entry that a search finds is one of the table and covers the code point as a span; the steps
within the span are left to the caller. -/
theorem find?_spec {code : Nat} {runs : List Shift} {run : Shift}
    (found : Shift.find? code runs = some run) :
    run ∈ runs ∧ run.first ≤ code ∧ code ≤ run.last := by
  induction runs with
  | nil => simp [Shift.find?] at found
  | cons first rest ih =>
      unfold Shift.find? at found
      split at found
      · simp at found
      · split at found
        · rename_i begins covers
          obtain rfl := Option.some.inj found
          exact ⟨List.mem_cons_self, Nat.le_of_not_lt begins, covers.1⟩
        · obtain ⟨known, inside⟩ := ih found
          exact ⟨List.mem_cons_of_mem first known, inside⟩

section Mapping

variable {shifts : List Shift} {expansions : List (Nat × List Nat)} {c : Char}
  (spares : sparesMarks shifts expansions = true)

include spares

theorem markless_of_find? {run : Shift} (found : Shift.find? c.toNat shifts = some run) :
    isMark c = false ∧ isMark (Char.ofNat (run.apply c.toNat)) = false := by
  obtain ⟨known, low, high⟩ := find?_spec found
  have both := List.all_eq_true.1 (Bool.and_eq_true_iff.1 spares).1 run known
  obtain ⟨before, after⟩ := Bool.and_eq_true_iff.1 both
  refine ⟨isMarkCode_of_markless before low high, isMark_ofNat ?_⟩
  refine isMarkCode_of_markless after ?_ ?_ <;> simp only [Shift.apply] <;> omega

theorem markless_of_lookup {codes : List Nat} (found : expansions.lookup c.toNat = some codes) :
    isMark c = false ∧ codes ≠ [] ∧ ∀ code ∈ codes, isMarkCode code = false := by
  obtain ⟨_, _, entries, _⟩ := List.lookup_eq_some_iff.1 found
  have known : (c.toNat, codes) ∈ expansions := by simp [entries]
  have all := List.all_eq_true.1 (Bool.and_eq_true_iff.1 spares).2 _ known
  simpa [isMark, and_assoc] using all

theorem mapChar_of_isMark (mark : isMark c = true) : mapChar shifts expansions c = [c] := by
  unfold mapChar
  split
  · rename_i found
    simp [(markless_of_find? spares found).1] at mark
  · split
    · rfl
    · split
      · rename_i found
        simp [(markless_of_lookup spares found).1] at mark
      · rfl

/-- A character that is no mark becomes some that are none. -/
theorem mapChar_of_not_isMark (word : isMark c = false) :
    mapChar shifts expansions c ≠ [] ∧ ∀ d ∈ mapChar shifts expansions c, isMark d = false := by
  have itself : [c] ≠ [] ∧ ∀ d ∈ [c], isMark d = false := by simpa using word
  unfold mapChar
  split
  · rename_i found
    simpa using (markless_of_find? spares found).2
  · split
    · exact itself
    · split
      · rename_i found
        obtain ⟨_, some, words⟩ := markless_of_lookup spares found
        refine ⟨by simpa using some, fun d made => ?_⟩
        obtain ⟨code, known, rfl⟩ := List.mem_map.1 made
        exact isMark_ofNat (words code known)
      · exact itself

end Mapping

/-! ## Texts -/

/-- The second text has the marks of the first, in the same places, and other words. -/
inductive Respelled : List Char → List Char → Prop
  | nil : Respelled [] []
  | mark {c : Char} {text other : List Char} :
      isMark c = true → Respelled text other → Respelled (c :: text) (c :: other)
  | word {c : Char} {text other letters : List Char} :
      isMark c = false → letters ≠ [] → (∀ d ∈ letters, isMark d = false) →
        Respelled text other → Respelled (c :: text) (letters ++ other)

/-- The next character of a text that is respelled one at a time. -/
theorem Respelled.cons {c : Char} {text other letters : List Char}
    (kept : isMark c = true → letters = [c])
    (words : isMark c = false → letters ≠ [] ∧ ∀ d ∈ letters, isMark d = false)
    (rest : Respelled text other) : Respelled (c :: text) (letters ++ other) := by
  cases mark : isMark c with
  | true =>
      rw [kept mark]
      exact .mark mark rest
  | false => exact .word mark (words mark).1 (words mark).2 rest

theorem respelled_upper (text : List Char) : Respelled text (upper text) := by
  induction text with
  | nil => exact .nil
  | cons c rest ih =>
      exact .cons (mapChar_of_isMark sparesMarks_upper) (mapChar_of_not_isMark sparesMarks_upper) ih

/-- Lower case respells words only.  A final sigma is no exception, as both of its forms are
letters. -/
theorem respelled_lowerFrom (before text : List Char) : Respelled text (lowerFrom before text) := by
  induction text generalizing before with
  | nil => exact .nil
  | cons c rest ih =>
      unfold lowerFrom
      split
      · rename_i sigma
        subst sigma
        -- either form of the sigma is a letter
        have final : isMark 'ς' = false := by decide
        have inner : isMark 'σ' = false := by decide
        refine .cons (fun mark => absurd mark (by decide)) (fun _ => ?_) (ih _)
        split <;> simp [final, inner]
      · exact .cons (mapChar_of_isMark sparesMarks_lower)
          (mapChar_of_not_isMark sparesMarks_lower) (ih _)

theorem respelled_lower (text : List Char) : Respelled text (lower text) :=
  respelled_lowerFrom [] text

namespace Respelled

variable {text other : List Char} {c : Char}

theorem mem_iff (respelled : Respelled text other) (mark : isMark c = true) :
    c ∈ other ↔ c ∈ text := by
  induction respelled with
  | nil => rfl
  | mark _ _ ih => rw [List.mem_cons, List.mem_cons, ih]
  | word noMark _ words _ ih =>
      have apart : c ∉ _ := fun mem => ne_of_not_isMark (words c mem) mark rfl
      simp [ih, apart, (ne_of_not_isMark noMark mark).symm]

/-- A text that begins with no blank still does. -/
theorem begins (respelled : Respelled text other) (first : text.head? = some c)
    (solid : isBlank c = false) : ∃ d, other.head? = some d ∧ isBlank d = false := by
  cases respelled with
  | nil => simp at first
  | mark =>
      obtain rfl := Option.some.inj first
      exact ⟨_, rfl, solid⟩
  | word _ some words _ =>
      obtain ⟨d, more, rfl⟩ := List.exists_cons_of_ne_nil some
      exact ⟨d, rfl, not_isBlank_of_not_isMark (words d List.mem_cons_self)⟩

end Respelled

end EntitySchema.Text
