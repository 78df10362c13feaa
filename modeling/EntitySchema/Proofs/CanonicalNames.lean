/-
# EntitySchema.Proofs.CanonicalNames -- a name depends on the words of its label alone

The words of a text are its stretches between blanks (`words`).  Any blank ends a word
(`words_append_cons`), and blanks at either end of a text belong to none (`words_pad`).
Trimming a label and joining its runs of blanks is writing its words with underscores between
them (`collapse_eq_intercalate`), so labels that are spaced differently have one name.

A name holds no blank, in upper case neither, and what is in upper case stays as it is
(`upper_upper`): naming a name changes nothing.
-/
import EntitySchema.Proofs.HarmlessText
import EntitySchema.Proofs.UpperCase

namespace EntitySchema

set_option autoImplicit false

namespace Text

/-! ## Words -/

/-- The words of a text: its stretches between blanks, in their order. -/
def words (text : List Char) : List (List Char) := (text.splitOnP isBlank).filter (!·.isEmpty)

section Words

variable {c d : Char} {text : List Char}

theorem words_nil : words [] = [] := by simp [words]

/-- A text falls apart into its words at any blank. -/
theorem words_append_cons (blank : isBlank c = true) (before after : List Char) :
    words (before ++ c :: after) = words before ++ words after := by
  rw [words, List.splitOnP_append_cons before after blank, List.filter_append, words, words]

theorem words_cons_blank (blank : isBlank c = true) (text : List Char) :
    words (c :: text) = words text := by
  simpa [words_nil] using words_append_cons blank [] text

/-- A character that is no blank begins a word, and one in front of it begins the same word. -/
theorem words_cons_solid (solid : isBlank c = false) (text : List Char) :
    ∃ word others, words (c :: text) = (c :: word) :: others ∧
      ∀ d, isBlank d = false → words (d :: c :: text) = (d :: c :: word) :: others := by
  obtain ⟨word, others, stretches⟩ :=
    List.exists_cons_of_ne_nil (List.splitOnP_ne_nil isBlank text)
  have here : (c :: text).splitOnP isBlank = (c :: word) :: others := by
    rw [List.splitOnP_cons_eq_if_modifyHead, if_neg (by simp [solid]), stretches,
      List.modifyHead_cons]
  refine ⟨word, others.filter (!·.isEmpty), by simp [words, here], fun d other => ?_⟩
  rw [words, List.splitOnP_cons_eq_if_modifyHead, if_neg (by simp [other]), here,
    List.modifyHead_cons]
  simp

theorem words_singleton (solid : isBlank c = false) : words [c] = [[c]] := by
  rw [words, List.splitOnP_eq_singleton (by simpa using solid)]
  rfl

/-- A character at the front is a word if a blank follows. -/
theorem words_cons_gap (solid : isBlank c = false) (blank : isBlank d = true) (text : List Char) :
    words (c :: d :: text) = [c] :: words (d :: text) := by
  rw [words_cons_blank blank, ← List.singleton_append, words_append_cons blank,
    words_singleton solid, List.singleton_append]

theorem words_eq_nil_iff : words text = [] ↔ ∀ c ∈ text, isBlank c = true := by
  induction text with
  | nil => simp [words_nil]
  | cons c rest ih =>
      cases here : isBlank c with
      | true => simp [words_cons_blank here, ih, here]
      | false =>
          obtain ⟨word, others, begins, _⟩ := words_cons_solid here rest
          simp [begins, here]

/-- Blanks at either end of a text belong to no word. -/
theorem words_pad {front behind : List Char} (before : ∀ c ∈ front, isBlank c = true)
    (after : ∀ c ∈ behind, isBlank c = true) (text : List Char) :
    words (front ++ text ++ behind) = words text := by
  have led : words (front ++ text) = words text := by
    induction front with
    | nil => rfl
    | cons c front ih =>
        rw [List.cons_append, words_cons_blank (before c List.mem_cons_self),
          ih fun d mem => before d (List.mem_cons_of_mem c mem)]
  cases behind with
  | nil => rw [List.append_nil, led]
  | cons c behind =>
      have none := words_eq_nil_iff.2 fun d mem => after d (List.mem_cons_of_mem c mem)
      rw [words_append_cons (after c List.mem_cons_self), led, none, List.append_nil]

theorem words_trim (text : List Char) : words (trim text) = words text := by
  obtain ⟨front, before, split⟩ := exists_append_dropBlanks text
  obtain ⟨behind, after, kept⟩ := exists_dropBlanksEnd_append (dropBlanks text)
  rw [kept, ← List.append_assoc] at split
  rw [split, words_pad before after, ← split, trim]

end Words

/-! ## Joined words -/

def Begins (text : List Char) : Prop := ∀ c ∈ text.head?, isBlank c = false

def Ends (text : List Char) : Prop := ∀ c ∈ text.getLast?, isBlank c = false

section Joining

variable {c mark : Char} {text rest : List Char}

theorem begins_dropBlanks (text : List Char) : Begins (dropBlanks text) := by
  intro c first
  have stopped := List.head?_dropWhile_not isBlank text
  rw [Option.mem_def] at first
  rw [← dropBlanks, first] at stopped
  exact stopped

theorem ends_dropBlanksEnd (text : List Char) : Ends (dropBlanksEnd text) := by
  intro c last
  rw [dropBlanksEnd, List.getLast?_reverse] at last
  exact begins_dropBlanks text.reverse c last

theorem begins_trim (text : List Char) : Begins (trim text) := by
  intro c first
  obtain ⟨behind, _, kept⟩ := exists_dropBlanksEnd_append (dropBlanks text)
  refine begins_dropBlanks text c ?_
  rw [kept, List.head?_append, ← trim, first]
  rfl

theorem ends_trim (text : List Char) : Ends (trim text) := ends_dropBlanksEnd (dropBlanks text)

theorem Ends.of_cons (ends : Ends (c :: rest)) : Ends rest := by
  intro d last
  refine ends d ?_
  cases rest with
  | nil => simp at last
  | cons _ _ => rwa [List.getLast?_cons_cons]

theorem Ends.words_ne_nil (ends : Ends text) (some : text ≠ []) : words text ≠ [] := by
  intro none
  have blank := words_eq_nil_iff.1 none _ (List.getLast_mem some)
  simp [ends _ (List.getLast?_eq_some_getLast some)] at blank

theorem joinRuns_of_begins (begins : Begins text) :
    joinRuns mark false text = joinRuns mark true text := by
  cases text with
  | nil => rfl
  | cons c rest => simp [joinRuns, begins c rfl]

theorem intercalate_cons_head (gap word : List Char) (others : List (List Char)) :
    gap.intercalate ((c :: word) :: others) = c :: gap.intercalate (word :: others) := by
  cases others <;> simp

/-- Within a run of blanks, a text that ends in none is its words with marks between them. -/
theorem joinRuns_eq_intercalate (ends : Ends text) :
    joinRuns mark true text = [mark].intercalate (words text) := by
  induction text with
  | nil => simp [joinRuns, words_nil]
  | cons c rest ih =>
      have joined := ih ends.of_cons
      cases here : isBlank c with
      | true =>
          rw [words_cons_blank here, ← joined]
          simp [joinRuns, here]
      | false =>
          -- the word that `c` begins or goes on with ends at the text's end or at the next blank
          cases rest with
          | nil => simp [joinRuns, here, words_singleton here]
          | cons d more =>
              cases next : isBlank d with
              | true =>
                  obtain ⟨word, others, some⟩ := List.exists_cons_of_ne_nil
                    (ends.of_cons.words_ne_nil (List.cons_ne_nil d more))
                  rw [words_cons_gap here next, some, List.intercalate_cons_cons, ← some,
                    ← joined]
                  simp [joinRuns, here, next]
              | false =>
                  obtain ⟨word, others, begins, longer⟩ := words_cons_solid next more
                  rw [longer c here, intercalate_cons_head, ← begins, ← joined]
                  simp [joinRuns, here, next]

theorem collapse_eq_intercalate (text : List Char) :
    collapse text = ['_'].intercalate (words text) := by
  rw [collapse, joinRuns_of_begins (begins_trim text), joinRuns_eq_intercalate (ends_trim text),
    words_trim]

end Joining

theorem upperString_upperString (s : String) : upperString (upperString s) = upperString s := by
  simp only [upperString, String.toList_ofList, upper_upper]

end Text

/-! ## Names -/

open EntitySchema.Text

/-- A column is named by the words of its label, with underscores between them. -/
theorem columnName_eq_intercalate (label : String) :
    columnName label = String.ofList (['_'].intercalate (words label.toList)) := by
  rw [columnName, collapse_eq_intercalate]

theorem not_isBlank_of_mem_tableName {label : String} {c : Char}
    (mem : c ∈ (tableName label).toList) : isBlank c = false := by
  refine Bool.eq_false_iff.2 fun blank => ?_
  rw [tableName, upperString, String.toList_ofList,
    (respelled_upper _).mem_iff (isMark_of_isBlank blank)] at mem
  simp [not_isBlank_of_mem_columnName mem] at blank

theorem tableName_columnName (label : String) : tableName (columnName label) = tableName label := by
  rw [tableName, columnName_columnName, tableName]

theorem tableName_tableName (label : String) : tableName (tableName label) = tableName label := by
  rw [tableName, columnName_of_blankless fun _ mem => not_isBlank_of_mem_tableName mem, tableName,
    upperString_upperString]

/-- A column name is the words of its label with underscores between them, and a table name is
that in upper case.  Names hold no blank, naming a name changes nothing, and labels that have the
same words, however they are spaced, have the same names. -/
theorem names_canonical :
    (∀ label : String,
      columnName label = String.ofList (['_'].intercalate (words label.toList)) ∧
      ((∀ c ∈ (columnName label).toList, isBlank c = false) ∧
        ∀ c ∈ (tableName label).toList, isBlank c = false) ∧
      columnName (columnName label) = columnName label ∧
      tableName (tableName label) = tableName label ∧
      tableName label = upperString (columnName label) ∧
      tableName label = tableName (columnName label)) ∧
    ∀ first second : String, words first.toList = words second.toList →
      columnName first = columnName second ∧ tableName first = tableName second := by
  refine ⟨fun label => ⟨columnName_eq_intercalate label, ⟨?_, ?_⟩, ?_, ?_, rfl, ?_⟩,
    fun first second same => ?_⟩
  · exact fun _ mem => not_isBlank_of_mem_columnName mem
  · exact fun _ mem => not_isBlank_of_mem_tableName mem
  · exact columnName_columnName label
  · exact tableName_tableName label
  · exact (tableName_columnName label).symm
  · have columns : columnName first = columnName second := by
      rw [columnName_eq_intercalate, columnName_eq_intercalate, same]
    exact ⟨columns, by rw [tableName, tableName, columns]⟩

/-- A label spaced in one way, and the same words spaced in another. -/
def flyingFish : String × String :=
  ("\tgroße ﬂiegende\u00a0Fische ", "große \u2003ﬂiegende\n\nFische")

theorem names_of_flyingFish :
    words flyingFish.1.toList = words flyingFish.2.toList ∧
      columnName flyingFish.1 = columnName flyingFish.2 ∧
      tableName flyingFish.1 = tableName flyingFish.2 := by
  have same : words flyingFish.1.toList = words flyingFish.2.toList := by decide +kernel
  exact ⟨same, names_canonical.2 _ _ same⟩

example : tableName flyingFish.1 = "GROSSE_FLIEGENDE_FISCHE" := by decide +kernel

end EntitySchema
