/-
# EntitySchema.Proofs.Raises -- every raise has a number of its own

The numbers of a script are the base and those that follow it, without a gap and
without a repetition, in the order of the text: trigger by trigger, and in each
trigger line by line.  `raised?` reads the number off a line of a trigger; it looks
at the line alone, so it has to tell a raise from a count and from the lines
around a block.

A condition that is violated is made of variables and comparisons
(`Guards.unbracketed`), so it ends at the first closing bracket of its line.
-/
import EntitySchema.Proofs.Numbering
import EntitySchema.Proofs.Triggers

namespace EntitySchema

set_option autoImplicit false

/-! ## Reading a line -/

/-- What follows an opening in a text. -/
def textAfter? (opening : String) (text : List Char) : Option (List Char) :=
  if opening.toList.isPrefixOf text then some (text.drop opening.toList.length) else none

/-- The number that a line of a trigger raises, as it stands there, if the line is a
raise. -/
def raised? (line : String) : Option String := do
  let condition ← textAfter? "\tIF (" line.toList
  let number ← textAfter? ") THEN RAISE_APPLICATION_ERROR(-" (condition.dropWhile (· ≠ ')'))
  return String.ofList (number.takeWhile (· ≠ ','))

theorem textAfter?_append (opening : String) (rest : List Char) :
    textAfter? opening (opening.toList ++ rest) = some rest := by
  simp [textAfter?]

/-- Nothing but digits stands in the text of a natural number. -/
theorem notMem_toString {c : Char} (notDigit : c.isDigit = false) (n : Nat) :
    c ∉ (toString n).toList := by
  intro mem
  have digit : c ∈ Nat.toDigits 10 n := by simpa [toString, Nat.repr] using mem
  have isDigit := Nat.isDigit_of_mem_toDigits (by decide) (by decide) digit
  simp [notDigit] at isDigit

/-- Nothing but digits and a sign stands in the text of a whole number. -/
theorem notMem_toString_int {c : Char} (notDigit : c.isDigit = false) (noSign : c ≠ '-')
    (code : Int) : c ∉ (toString code).toList := by
  cases code with
  | ofNat n => exact notMem_toString notDigit n
  | negSucc n =>
      have digits := notMem_toString notDigit (n + 1)
      simpa [toString, Int.repr, noSign] using digits

theorem comma_notMem_toString (code : Int) : ',' ∉ (toString code).toList :=
  notMem_toString_int rfl (by decide) code

/-- The text of a line from the number that it raises on, if the line is a raise. -/
def fromNumber? (line : String) : Option (List Char) := do
  let condition ← textAfter? "\tIF (" line.toList
  textAfter? ") THEN RAISE_APPLICATION_ERROR(-" (condition.dropWhile (· ≠ ')'))

theorem raised?_eq_map (line : String) :
    raised? line = (fromNumber? line).map fun text => String.ofList (text.takeWhile (· ≠ ',')) := by
  rw [fromNumber?, Option.map_eq_bind, Option.bind_eq_bind, Option.bind_assoc]
  rfl

/-- A raise up to its number, and from its number on. -/
theorem toList_raiseLine (condition : String) (code : Int) (message : String) :
    ("\t" ++ raiseLine condition code message).toList =
      ("\tIF (" ++ condition ++ ") THEN RAISE_APPLICATION_ERROR(-").toList ++
        ((toString code).toList ++ (", '" ++ message ++ "'); END IF;").toList) := by
  simp [raiseLine, String.toList_append]

/-- The number of a raise is found behind the first closing bracket of the line, since the condition
has none. -/
theorem fromNumber?_raiseLine {condition : String} (unbracketed : ')' ∉ condition.toList)
    (code : Int) (message : String) :
    fromNumber? ("\t" ++ raiseLine condition code message) =
      some ((toString code).toList ++ (", '" ++ message ++ "'); END IF;").toList) := by
  have line : ("\t" ++ raiseLine condition code message).toList =
      "\tIF (".toList ++ (condition.toList ++ (") THEN RAISE_APPLICATION_ERROR(-".toList
        ++ ((toString code).toList ++ (", '" ++ message ++ "'); END IF;").toList))) := by
    rw [toList_raiseLine]
    simp only [String.toList_append, List.append_assoc]
  have inCondition : ∀ c ∈ condition.toList, decide (c ≠ ')') = true := by
    intro c mem
    exact decide_eq_true fun same => unbracketed (same ▸ mem)
  have atBracket : ∀ text, (") THEN RAISE_APPLICATION_ERROR(-".toList ++ text).dropWhile
      (fun c => decide (c ≠ ')')) = ") THEN RAISE_APPLICATION_ERROR(-".toList ++ text :=
    fun _ => rfl
  rw [fromNumber?, line, textAfter?_append, Option.bind_eq_bind, Option.bind_some,
    List.dropWhile_append_of_pos inCondition, atBracket, textAfter?_append]

theorem ne_comma_of_mem_toString (code : Int) :
    ∀ c ∈ (toString code).toList, decide (c ≠ ',') = true := fun _ mem =>
  decide_eq_true fun same => comma_notMem_toString code (same ▸ mem)

theorem raised?_raiseLine {condition : String} (unbracketed : ')' ∉ condition.toList)
    (code : Int) (message : String) :
    raised? ("\t" ++ raiseLine condition code message) = some (toString code) := by
  have atComma : (", '" ++ message ++ "'); END IF;").toList.takeWhile (fun c => decide (c ≠ ',')) =
      [] := by
    simp [String.toList_append]
  rw [raised?_eq_map, fromNumber?_raiseLine unbracketed, Option.map_some,
    List.takeWhile_append_of_pos (ne_comma_of_mem_toString code), atComma]
  simp

/-- A line that does not open like a raise is none. -/
theorem raised?_of_unopened {line : String}
    (unopened : "\tIF (".toList.isPrefixOf line.toList = false) : raised? line = none := by
  rw [raised?, textAfter?, unopened]
  rfl

theorem raised?_event (event : String) : raised? ("IF " ++ event ++ " THEN") = none := by
  refine raised?_of_unopened ?_
  rw [String.append_assoc, String.toList_append]
  rfl

theorem raised?_count (count : RowCount) : raised? ("\t" ++ count.line) = none := by
  refine raised?_of_unopened ?_
  unfold RowCount.line
  simp only [String.append_assoc, String.toList_append]
  rfl

/-! ## Reading a trigger -/

/-- No condition of a rule has a closing bracket. -/
def Unbracketed (rules : List TriggerRule) : Prop :=
  ∀ rule ∈ rules, ')' ∉ rule.violation.toList

theorem filterMap_lines {rule : TriggerRule} (unbracketed : ')' ∉ rule.violation.toList)
    (message : String) (code : Int) :
    (rule.lines message code).filterMap raised? = [toString code] := by
  have counts : (rule.counts.map fun count => "\t" ++ count.line).filterMap raised? = [] := by
    simp [raised?_count]
  have around : raised? "END IF;" = none := rfl
  simp [TriggerRule.lines, raised?_event, raised?_raiseLine unbracketed, around, counts,
    Function.comp_def]

/-- The raises of a body have consecutive numbers. -/
theorem filterMap_linesFrom {rules : List TriggerRule} (unbracketed : Unbracketed rules)
    (message : String) (code : Int) :
    (linesFrom message code rules).filterMap raised? =
      (codesFrom code rules.length).map toString := by
  induction rules generalizing code with
  | nil => rfl
  | cons rule rest ih =>
      have others := ih fun other mem => unbracketed other (List.mem_cons_of_mem rule mem)
      have here := filterMap_lines (unbracketed rule List.mem_cons_self) message code
      rw [linesFrom_cons, List.filterMap_append, here, others, List.length_cons, codesFrom_succ]
      rfl

/-! ### Conditions -/

theorem notMem_variableName {c : Char} (notDigit : c.isDigit = false) (other : c ≠ 'X')
    (position : Nat) : c ∉ (TriggerDraft.variableName position).toList := by
  have digits := notMem_toString notDigit position
  simpa [TriggerDraft.variableName, String.toList_append, other] using digits

theorem bracket_notMem_variableName (position : Nat) :
    ')' ∉ (TriggerDraft.variableName position).toList :=
  notMem_variableName rfl (by decide) position

theorem notMem_intercalate {c : Char} {separator : String} (apart : c ∉ separator.toList)
    {texts : List String} (each : ∀ text ∈ texts, c ∉ text.toList) :
    c ∉ (String.intercalate separator texts).toList := by
  induction texts with
  | nil => simp
  | cons text rest ih =>
      have here := each text List.mem_cons_self
      have there := ih fun other mem => each other (List.mem_cons_of_mem text mem)
      cases rest with
      | nil => simpa using here
      | cons next others =>
          simp only [String.intercalate_cons_cons, String.toList_append, List.mem_append, not_or]
          exact ⟨⟨here, apart⟩, there⟩

theorem bracket_notMem_sumOf (count : Nat) : ')' ∉ (sumOf (firstVariables count)).toList := by
  unfold sumOf
  split
  · decide
  · refine notMem_intercalate (by decide) fun name mem => ?_
    obtain ⟨position, _, rfl⟩ := List.mem_map.1 mem
    exact bracket_notMem_variableName position

theorem ReferringRule.bracket_notMem {holder : KeyedEnd} {columns key : List String}
    {rule : TriggerRule} (refers : ReferringRule holder columns key rule) :
    ')' ∉ rule.violation.toList := by
  have plain : ∀ comparison ∈ referringComparisons, ')' ∉ comparison.toList := by decide
  obtain ⟨event, row, comparison, known, rfl⟩ := refers
  simpa [referringRule, referringCount, String.toList_append, plain comparison known] using
    bracket_notMem_variableName 0

namespace Classified

variable {d : Classified} {keys : KeyTable} {plan : TriggerPlan}

/-- The conditions of all triggers are free of closing brackets. -/
theorem Guards.unbracketed {phase : Phase} {sketch : Sketch}
    (guards : d.Guards keys phase sketch plan) : Unbracketed plan.rules := by
  intro rule mem
  cases guards with
  | superclass =>
      obtain rfl := List.mem_singleton.1 mem
      simpa [String.toList_append] using bracket_notMem_sumOf _
  | subtype _ _ _ planned =>
      obtain ⟨_, inDisjoint⟩ | ⟨_, rfl⟩ := rules_of_subtypePlan planned mem
      · simp only [disjointRules, List.mem_cons, List.not_mem_nil, or_false] at inDisjoint
        rcases inDisjoint with rfl | rfl <;>
          simpa [String.toList_append] using bracket_notMem_sumOf _
      · simpa [totalRule, String.toList_append] using
          ⟨bracket_notMem_variableName _, bracket_notMem_sumOf _⟩
  | target => exact (referringRule_of_mem_targetPlan mem).bracket_notMem
  | holder => exact (referringRule_of_mem_holderPlan mem).bracket_notMem

/-- A trigger of an outline is the plan of a construct. -/
theorem triggers_of_mem_outline {settings : Settings} {part : Part}
    (mem : part ∈ outline settings d keys) (triggers : part.Triggers) :
    ∃ phase sketch, d.MakesTrigger keys phase sketch part := by
  obtain ⟨phase, sketch, inPhase, inSketch⟩ := mem_outline_iff.1 mem
  exact ⟨phase, sketch, triggers_of_mem_sketch inPhase inSketch triggers⟩

end Classified

/-! ## Scripts -/

def Statement.errorCodes : Statement → List Int
  | .createTrigger trigger => trigger.errorCodes
  | _ => []

/-- The numbers in the lists of the triggers, read through the script, are those that were handed
out. -/
theorem errorCodes_numberParts {parts : List Part}
    (planned : ∀ part ∈ parts, part.Triggers → ∃ plan, part = .trigger plan)
    (message : String) (code : Int) :
    (numberParts message code parts).flatMap (·.errorCodes) = codesFrom code (raisesIn parts) := by
  induction parts generalizing code with
  | nil => rfl
  | cons part rest ih =>
      have here : (part.numbered message code).errorCodes = codesFrom code part.raises := by
        cases part with
        | plain statement =>
            cases statement with
            | createTrigger trigger => simpa using planned _ List.mem_cons_self trivial
            | _ => rfl
        | reference => rfl
        | trigger plan => rfl
      have there := ih (fun other mem => planned other (List.mem_cons_of_mem part mem))
        (code + part.raises)
      have total : raisesIn (part :: rest) = part.raises + raisesIn rest := by simp [raisesIn]
      rw [total, codesFrom_add, ← here, ← there]
      rfl

open Classified

/-- The numbers of a script are consecutive from the base and can all be raised;
they are the numbers of its triggers in order, and those of a trigger are the ones
that its lines raise, in order. -/
theorem error_codes_consecutive {settings : Settings} {diagram : Diagram} {result : CompileResult}
    (compiled : compile settings diagram = .ok result) :
    result.statements.flatMap (·.errorCodes) = result.errorCodes ∧
      result.errorCodes = codesFrom settings.errorCodeBase result.errorCodes.length ∧
      (∀ code ∈ result.errorCodes, code ≤ lastErrorCode) ∧
      ∀ trigger, .createTrigger trigger ∈ result.statements →
        trigger.body.filterMap raised? = trigger.errorCodes.map toString := by
  obtain ⟨d, read⟩ := exists_classified compiled
  obtain ⟨room, statements, codes⟩ := statements_eq_numberParts read compiled
  have makes := fun part (mem : part ∈ outline settings d (keysAfter settings diagram d))
    (triggers : Part.Triggers part) => triggers_of_mem_outline mem triggers
  refine ⟨?_, by rw [codes, length_codesFrom], fun code mem => ?_, fun trigger mem => ?_⟩
  · rw [statements, codes]
    refine errorCodes_numberParts (fun part mem triggers => ?_) _ _
    obtain ⟨_, _, plan, same, _⟩ := makes part mem triggers
    exact ⟨plan, same⟩
  · rw [codes] at mem
    obtain ⟨position, inside, rfl⟩ := List.mem_map.1 mem
    simp only [List.mem_range] at inside
    simp only [ErrorCodes.Room, ErrorCodes.next, Run.start] at room
    omega
  · rw [statements] at mem
    obtain ⟨part, inOutline, first, same⟩ := mem_numberedFrom mem
    have triggers := Part.triggers_of_fits
      (same ▸ part.fits_numbered settings.violationMessage first)
    obtain ⟨_, _, plan, rfl, guards⟩ := makes part inOutline triggers
    obtain rfl := Statement.createTrigger.inj same
    exact filterMap_linesFrom guards.unbracketed _ _

/-- A total and disjoint generalization, and a relationship in which every row of one
table is referred to. -/
def guarded : Diagram :=
  { nodes :=
      [.drawn "s" "S" "StrongEntity", .drawn "k" "k" "KeyAttribute",
       .drawn "g" "G" "GeneralizationDisjoint", .drawn "a" "A" "StrongEntity",
       .drawn "b" "B" "StrongEntity", .drawn "r" "R" "Relationship",
       .drawn "t" "T" "StrongEntity", .drawn "l" "l" "KeyAttribute"]
    connections :=
      [.drawn "1" "s" "k", .drawn "2" "g" "s" "DoubleLineGeneralization",
       .drawn "3" "g" "a" "GeneralizationToSubtype", .drawn "4" "g" "b" "GeneralizationToSubtype",
       .drawn "5" "t" "l", .drawn "6" "r" "s" "SingleLineToMany",
       .drawn "7" "r" "t" "DoubleLineToOne"]
    node_ids_nodup := by decide
    connection_ids_nodup := by decide }

/-- The twelve raises of `guarded` take the last twelve numbers. -/
theorem guarded_error_codes_consecutive :
    ∃ result, compile { errorCodeBase := 20988 } guarded = .ok result ∧
      result.errorCodes = codesFrom 20988 12 ∧
      ∀ trigger, .createTrigger trigger ∈ result.statements →
        trigger.body.filterMap raised? = trigger.errorCodes.map toString := by
  have checked : compilesTo { errorCodeBase := 20988 } guarded (fun statements => decide
      (statements.flatMap (·.errorCodes) = codesFrom 20988 12)) = true := by decide +kernel
  obtain ⟨result, compiled, holds⟩ := exists_of_compilesTo checked
  obtain ⟨codes, _, _, bodies⟩ := error_codes_consecutive compiled
  exact ⟨result, compiled, codes ▸ of_decide_eq_true holds, bodies⟩

end EntitySchema
