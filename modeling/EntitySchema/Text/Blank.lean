/-
# EntitySchema.Text.Blank -- blank characters, trimming and blank runs

A character is blank when it is white space by the Unicode property or one of
the four information separators U+001C to U+001F.  The zero width space, the
byte order mark and the Mongolian vowel separator are not blank.

Three operations rest on the class: `trim` cuts blanks off both ends,
`joinRuns` writes one mark for each maximal run of blanks, and
`collapse` does both.  Their results hold no blank as soon as the mark is none
(`not_isBlank_of_mem_joinRuns`), and what holds no blank is left alone
(`collapse_of_blankless`).
-/

namespace EntitySchema.Text

set_option autoImplicit false

def isBlank (c : Char) : Bool :=
  let code := c.toNat
  (0x09 ≤ code && code ≤ 0x0D) || (0x1C ≤ code && code ≤ 0x20)
    || code == 0x85 || code == 0xA0 || code == 0x1680
    || (0x2000 ≤ code && code ≤ 0x200A) || code == 0x2028 || code == 0x2029
    || code == 0x202F || code == 0x205F || code == 0x3000

/-! ## Trimming -/

def dropBlanks (cs : List Char) : List Char := cs.dropWhile isBlank

def dropBlanksEnd (cs : List Char) : List Char := (dropBlanks cs.reverse).reverse

def trim (cs : List Char) : List Char := dropBlanksEnd (dropBlanks cs)

/-! ## Runs -/

/-- Writes `mark` once for each run of blanks; `within` says that the run has
been marked already. -/
def joinRuns (mark : Char) : Bool → List Char → List Char
  | _, [] => []
  | within, c :: rest =>
      if isBlank c then
        if within then joinRuns mark true rest else mark :: joinRuns mark true rest
      else c :: joinRuns mark false rest

/-- Trimmed text with an underscore for each inner run of blanks. -/
def collapse (cs : List Char) : List Char := joinRuns '_' false (trim cs)

/-! ## What the results hold -/

theorem not_isBlank_of_mem_joinRuns {mark : Char} (solid : isBlank mark = false)
    {within : Bool} {cs : List Char} {c : Char} (mem : c ∈ joinRuns mark within cs) :
    isBlank c = false := by
  induction cs generalizing within with
  | nil => simp [joinRuns] at mem
  | cons head rest ih =>
      simp only [joinRuns] at mem
      split at mem
      · split at mem
        · exact ih mem
        · rcases List.mem_cons.1 mem with rfl | inRest
          · exact solid
          · exact ih inRest
      · rename_i blankless
        rcases List.mem_cons.1 mem with rfl | inRest
        · simpa using blankless
        · exact ih inRest

theorem joinRuns_of_blankless {mark : Char} {within : Bool} {cs : List Char}
    (blankless : ∀ c ∈ cs, isBlank c = false) : joinRuns mark within cs = cs := by
  induction cs generalizing within with
  | nil => rfl
  | cons head rest ih =>
      have others : joinRuns mark false rest = rest := ih fun c mem => blankless c (by simp [mem])
      simp [joinRuns, blankless head (by simp), others]

theorem dropBlanks_of_blankless {cs : List Char} (blankless : ∀ c ∈ cs, isBlank c = false) :
    dropBlanks cs = cs := by
  cases cs with
  | nil => rfl
  | cons head rest => simp [dropBlanks, blankless head (by simp)]

theorem trim_of_blankless {cs : List Char} (blankless : ∀ c ∈ cs, isBlank c = false) :
    trim cs = cs := by
  have front := dropBlanks_of_blankless blankless
  have back : dropBlanks cs.reverse = cs.reverse :=
    dropBlanks_of_blankless fun c mem => blankless c (List.mem_reverse.1 mem)
  rw [trim, dropBlanksEnd, front, back, List.reverse_reverse]

theorem collapse_of_blankless {cs : List Char} (blankless : ∀ c ∈ cs, isBlank c = false) :
    collapse cs = cs := by
  rw [collapse, trim_of_blankless blankless, joinRuns_of_blankless blankless]

end EntitySchema.Text
