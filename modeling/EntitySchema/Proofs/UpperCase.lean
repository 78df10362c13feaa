/-
# EntitySchema.Proofs.UpperCase -- a text in upper case stays as it is

The upper case of a character is one character or several, and none of them has an upper
case of its own, so a text that is put in upper case twice is put in upper case once
(`upper_upper`).

That is checked of the tables run by run (`settles_upper`): the code points that a run leads
to are again some that lie a step apart, and they lie before or behind every run or, where
capital and small letters take turns, between its code points (`clear`).  A search through the
runs passes those (`passesRuns`), so the mapping leaves them alone (`mapChar_of_leavesAlone`).
-/
import EntitySchema.Proofs.LetterCase

namespace EntitySchema.Text

open EntitySchema.Unicode

set_option autoImplicit false

/-! ## Code points a step apart -/

/-- Code points from `first` to `last`, a step apart. -/
structure Stretch where
  first : Nat
  last : Nat
  step : Nat

namespace Stretch

def Holds (stretch : Stretch) (code : Nat) : Prop :=
  stretch.first ≤ code ∧ code ≤ stretch.last ∧ (code - stretch.first) % stretch.step = 0

def single (code : Nat) : Stretch := ⟨code, code, 1⟩

/-- The code points that a run moves. -/
def sources (run : Shift) : Stretch := ⟨run.first, run.last, run.step⟩

/-- The code points that a run leads to. -/
def targets (run : Shift) : Stretch := ⟨run.apply run.first, run.apply run.last, run.step⟩

/-- Whether a stretch ends before another begins, begins behind it, or runs between its code
points. -/
def clear (stretch other : Stretch) : Bool :=
  stretch.last.blt other.first || other.last.blt stretch.first ||
    (stretch.first.beq stretch.last || (stretch.step % other.step).beq 0) &&
      !(stretch.first % other.step).beq (other.first % other.step)

theorem holds_single (code : Nat) : (single code).Holds code := by simp [single, Holds]

/-- Numbers that differ by a multiple have the same remainder. -/
theorem mod_eq_of_dvd_sub {low high step : Nat} (ordered : low ≤ high) (apart : step ∣ high - low) :
    high % step = low % step := by
  obtain ⟨times, far⟩ := apart
  have reached : high = low + step * times := by omega
  rw [reached, Nat.add_mul_mod_self_left]

/-- A stretch that is clear of another shares no code point with it.  Where they overlap it is the
step that keeps them apart, as in tables where capitals and small letters alternate. -/
theorem not_holds_of_clear {stretch other : Stretch} {code : Nat}
    (apart : stretch.clear other = true) (held : stretch.Holds code) : ¬other.Holds code := by
  obtain ⟨low, high, inStep⟩ := held
  rintro ⟨otherLow, otherHigh, inOtherStep⟩
  simp only [clear, Bool.or_eq_true, Bool.and_eq_true, Nat.blt_eq, Nat.beq_eq,
    Bool.not_eq_true'] at apart
  rcases apart with (before | behind) | ⟨near, residues⟩
  · omega
  · omega
  · have fromOther := mod_eq_of_dvd_sub otherLow (Nat.dvd_of_mod_eq_zero inOtherStep)
    have fromFirst : code % other.step = stretch.first % other.step := by
      rcases near with alone | divides
      · rw [show code = stretch.first by omega]
      · exact mod_eq_of_dvd_sub low
          (Nat.dvd_trans (Nat.dvd_of_mod_eq_zero divides) (Nat.dvd_of_mod_eq_zero inStep))
    rw [← fromFirst, fromOther, Nat.beq_refl] at residues
    cases residues

theorem holds_targets {run : Shift} {code : Nat} (begins : 0 ≤ run.first + run.offset)
    (held : (sources run).Holds code) : (targets run).Holds (run.apply code) := by
  obtain ⟨low, high, inStep⟩ := held
  simp only [sources] at low high inStep
  simp only [Holds, targets, Shift.apply]
  refine ⟨by omega, by omega, ?_⟩
  rw [← inStep]
  congr 1
  omega

end Stretch

theorem holds_sources {code : Nat} {runs : List Shift} {run : Shift}
    (found : Shift.find? code runs = some run) : (Stretch.sources run).Holds code := by
  induction runs with
  | nil => simp [Shift.find?] at found
  | cons first rest ih =>
      unfold Shift.find? at found
      split at found
      · simp at found
      · split at found
        · rename_i begins covers
          obtain rfl := Option.some.inj found
          exact ⟨Nat.le_of_not_lt begins, covers⟩
        · exact ih found

/-! ## Settled tables -/

/-- Whether a search through sorted runs finds none for the code points of a stretch. -/
def passesRuns (stretch : Stretch) : List Shift → Bool
  | [] => true
  | run :: rest =>
      stretch.last.blt run.first || stretch.clear (.sources run) && passesRuns stretch rest

/-- Whether a mapping leaves the code points of a stretch alone. -/
def leavesAlone (shifts : List Shift) (expansions : List (Nat × List Nat)) (stretch : Stretch) :
    Bool :=
  passesRuns stretch shifts && expansions.all fun entry => stretch.clear (.single entry.1)

/-- Whether a mapping leaves alone what it leads to, and the null character. -/
def settles (shifts : List Shift) (expansions : List (Nat × List Nat)) : Bool :=
  (shifts.all fun run => decide (0 ≤ run.first + run.offset) &&
      leavesAlone shifts expansions (.targets run)) &&
    (expansions.all fun entry => entry.2.all fun code =>
      leavesAlone shifts expansions (.single code)) &&
    leavesAlone shifts expansions (.single 0)

theorem settles_upper : settles upperShifts upperExpansions = true := by decide +kernel

section Settled

variable {shifts : List Shift} {expansions : List (Nat × List Nat)}

/-- One check of the table says for all code points of a stretch that a search finds nothing. -/
theorem find?_of_passesRuns {stretch : Stretch} {code : Nat} {runs : List Shift}
    (past : passesRuns stretch runs = true) (held : stretch.Holds code) :
    Shift.find? code runs = none := by
  induction runs with
  | nil => rfl
  | cons run rest ih =>
      unfold Shift.find?
      simp only [passesRuns, Bool.or_eq_true, Bool.and_eq_true, Nat.blt_eq] at past
      rcases past with before | ⟨apart, past⟩
      · rw [if_pos (Nat.lt_of_le_of_lt held.2.1 before)]
      · split
        · rfl
        · rename_i begins
          have uncovered : ¬(code ≤ run.last ∧ (code - run.first) % run.step = 0) := fun covers =>
            Stretch.not_holds_of_clear apart held ⟨Nat.le_of_not_lt begins, covers⟩
          rw [if_neg uncovered, ih past]

theorem mapChar_of_leavesAlone {stretch : Stretch} {c : Char}
    (alone : leavesAlone shifts expansions stretch = true) (held : stretch.Holds c.toNat) :
    mapChar shifts expansions c = [c] := by
  obtain ⟨pastRuns, pastEntries⟩ := Bool.and_eq_true_iff.1 alone
  have unmoved := find?_of_passesRuns pastRuns held
  have unexpanded : expansions.lookup c.toNat = none := by
    refine List.lookup_eq_none_iff.2 fun entry known => ?_
    have apart := List.all_eq_true.1 pastEntries entry known
    have other : c.toNat ≠ entry.1 := fun same =>
      Stretch.not_holds_of_clear apart held (same ▸ Stretch.holds_single entry.1)
    simpa using other
  simp [mapChar, unmoved, unexpanded]

/-- What is no code point is replaced by the null character, which is left alone too. -/
theorem mapChar_ofNat (settled : settles shifts expansions = true) {stretch : Stretch} {code : Nat}
    (alone : leavesAlone shifts expansions stretch = true) (held : stretch.Holds code) :
    mapChar shifts expansions (Char.ofNat code) = [Char.ofNat code] := by
  have null := (Bool.and_eq_true_iff.1 settled).2
  unfold Char.ofNat
  by_cases valid : code.isValidChar
  · rw [dif_pos valid]
    exact mapChar_of_leavesAlone alone held
  · rw [dif_neg valid]
    exact mapChar_of_leavesAlone null (Stretch.holds_single 0)

/-- What a character is mapped to is left alone. -/
theorem mapChar_of_mem_mapChar (settled : settles shifts expansions = true) {c d : Char}
    (made : d ∈ mapChar shifts expansions c) : mapChar shifts expansions d = [d] := by
  obtain ⟨runs, entries⟩ := Bool.and_eq_true_iff.1 (Bool.and_eq_true_iff.1 settled).1
  by_cases kept : mapChar shifts expansions c = [c]
  · rw [kept] at made
    obtain rfl := List.mem_singleton.1 made
    exact kept
  · unfold mapChar at kept made
    cases found : Shift.find? c.toNat shifts with
    | some run =>
        simp only [found, List.mem_singleton] at made
        subst made
        obtain ⟨begins, alone⟩ :=
          Bool.and_eq_true_iff.1 (List.all_eq_true.1 runs run (find?_spec found).1)
        exact mapChar_ofNat settled alone
          (Stretch.holds_targets (of_decide_eq_true begins) (holds_sources found))
    | none =>
        cases expanded : expansions.lookup c.toNat with
        | none => simp [found, expanded] at kept
        | some codes =>
            have wide : ¬c.toNat < 0x80 := fun narrow => by simp [found, narrow] at kept
            simp only [found, expanded, if_neg wide, List.mem_map] at made
            obtain ⟨code, known, rfl⟩ := made
            obtain ⟨_, _, split, _⟩ := List.lookup_eq_some_iff.1 expanded
            have entry : (c.toNat, codes) ∈ expansions := by simp [split]
            have alone := List.all_eq_true.1 (List.all_eq_true.1 entries _ entry) code known
            exact mapChar_ofNat settled alone (Stretch.holds_single code)

end Settled

theorem upper_upper (text : List Char) : upper (upper text) = upper text := by
  have settled : ∀ d ∈ upper text, upperChar d = [d] := by
    intro d made
    obtain ⟨c, _, made⟩ := List.mem_flatMap.1 made
    exact mapChar_of_mem_mapChar settles_upper made
  generalize upper text = raised at settled
  induction raised with
  | nil => rfl
  | cons d rest ih =>
      have others := ih fun other mem => settled other (List.mem_cons_of_mem d mem)
      rw [upper, List.flatMap_cons, settled d List.mem_cons_self]
      exact congrArg (d :: ·) others

end EntitySchema.Text
