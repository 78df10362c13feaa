/-
# EntitySchema.Proofs.TriggerBodies -- triggers assign what they read

The body of a trigger is made of blocks, each the lines of a rule with the number that it
raises: counts are taken into variables, and a condition on these variables raises.  For such
a body to mean anything, a condition may only read what a count of its block has assigned, and
a count must compare some columns, each with one reference.

`TriggerRule.WellFormed` and `TriggerPlan.WellFormed` say so of rules and plans.  The plans of
generalizations and relationships are well formed because every list of columns that is paired
with references is as long as the key that it carries; the builders of the four plans have one
lemma each.  `variablesIn` reads the variables off the text of a condition, whoever built it.

`triggers_builtOf` is the statement about the triggers of a script: each is the numbered form of
a well-formed plan of the outline, and its blocks are the rules of that plan.
-/
import EntitySchema.Proofs.Alignment
import EntitySchema.Proofs.Raises

namespace EntitySchema

set_option autoImplicit false

/-! ## Variables of a condition -/

/-- Characters that names are made of. -/
def isNameChar (c : Char) : Bool := c.isAlphanum || c == '_'

/-- The names in a text, which begin with a letter. -/
def namesIn (text : List Char) : List (List Char) :=
  (text.splitOnP (!isNameChar ·)).filter fun word => word.head?.any (·.isAlpha)

/-- The variables that a condition reads: its names, but for the word that joins two
comparisons. -/
def variablesIn (condition : String) : List String :=
  ((namesIn condition.toList).map String.ofList).filter (· ≠ "AND")

theorem variablesIn_append_blank (first second : String) :
    variablesIn (first ++ (" " ++ second)) = variablesIn first ++ variablesIn second := by
  have separates : (!isNameChar ' ') = true := by decide
  have split := List.splitOnP_append_cons (p := (!isNameChar ·)) first.toList second.toList
    separates
  have blank : (" " : String).toList = [' '] := rfl
  simp only [variablesIn, namesIn, String.toList_append, blank, List.singleton_append, split,
    List.filter_append, List.map_append]

/-- A variable is read back as itself; the digits of its position do not cut it up. -/
theorem variablesIn_variableName (position : Nat) :
    variablesIn (TriggerDraft.variableName position) = [TriggerDraft.variableName position] := by
  have letters : (TriggerDraft.variableName position).toList =
      'X' :: (toString position).toList := by
    simp [TriggerDraft.variableName, String.toList_append]
  -- the position is written in digits, so the name is not split
  have whole : ∀ c ∈ (TriggerDraft.variableName position).toList, (!isNameChar c) = false := by
    intro c mem
    rw [letters] at mem
    rcases List.mem_cons.1 mem with rfl | digit
    · rfl
    · have isDigit := Nat.isDigit_of_mem_toDigits (b := 10) (by decide) (by decide)
        (show c ∈ Nat.toDigits 10 position by simpa [toString, Nat.repr] using digit)
      simp [isNameChar, Char.isAlphanum, isDigit]
  have begins : (TriggerDraft.variableName position).toList.head?.any (·.isAlpha) = true := by
    rw [letters]
    rfl
  have other : TriggerDraft.variableName position ≠ "AND" := by
    intro same
    have heads := congrArg (fun text : String => text.toList.head?) same
    rw [letters] at heads
    exact absurd (Option.some.inj heads) (by decide)
  rw [variablesIn, namesIn, List.splitOnP_eq_singleton whole]
  simp only [List.filter_cons, List.filter_nil, begins, if_true, List.map_cons, List.map_nil,
    String.ofList_toList, ne_eq, other, not_false_eq_true, decide_true]

theorem firstVariables_succ (count : Nat) :
    firstVariables (count + 1) = firstVariables count ++ [TriggerDraft.variableName count] := by
  simp [firstVariables, List.range_succ]

theorem variablesIn_append_plus (first second : String) :
    variablesIn (first ++ " + " ++ second) = variablesIn first ++ variablesIn second := by
  have spaced : first ++ " + " ++ second = first ++ (" " ++ ("+" ++ (" " ++ second))) := by
    rw [← String.toList_inj]
    simp [String.toList_append]
  have plus : variablesIn "+" = [] := by decide
  rw [spaced, variablesIn_append_blank, variablesIn_append_blank, plus, List.nil_append]

theorem variablesIn_intercalate (names : List String)
    (each : ∀ name ∈ names, variablesIn name = [name]) :
    variablesIn (String.intercalate " + " names) = names := by
  induction names with
  | nil => rfl
  | cons name rest ih =>
      have here := each name List.mem_cons_self
      have there := ih fun other mem => each other (List.mem_cons_of_mem name mem)
      cases rest with
      | nil => simpa using here
      | cons next others =>
          rw [String.intercalate_cons_cons, variablesIn_append_plus, here, there]
          rfl

/-- A sum reads the variables that it adds. -/
theorem variablesIn_sumOf (count : Nat) :
    variablesIn (sumOf (firstVariables count)) = firstVariables count := by
  unfold sumOf
  split
  · rename_i none
    rw [List.isEmpty_iff.1 none]
    decide
  · refine variablesIn_intercalate _ fun name mem => ?_
    obtain ⟨position, _, rfl⟩ := List.mem_map.1 mem
    exact variablesIn_variableName position

/-! ## Well-formed rules -/

namespace TriggerRule

def assigned (rule : TriggerRule) : List String := rule.counts.map (·.variableName)

/-- A rule counts something, reads only what it has counted, and compares in each count at least
one column, every one with a reference of its own. -/
structure WellFormed (rule : TriggerRule) : Prop where
  counts_ne_nil : rule.counts ≠ []
  reads : variablesIn rule.violation ⊆ rule.assigned
  matched : ∀ count ∈ rule.counts, count.columns ≠ [] ∧
    count.columns.length = count.references.length

end TriggerRule

/-- The rules of a plan are well formed, and its variables are exactly those that are assigned. -/
structure TriggerPlan.WellFormed (plan : TriggerPlan) : Prop where
  rules : ∀ rule ∈ plan.rules, rule.WellFormed
  declared : ∀ rule ∈ plan.rules, rule.assigned ⊆ firstVariables plan.arity
  used : ∀ name ∈ firstVariables plan.arity, ∃ rule ∈ plan.rules, name ∈ rule.assigned

@[simp] theorem length_rowColumns (row : String) (columns : List String) :
    (rowColumns row columns).length = columns.length := by
  simp [rowColumns]

/-! ### Rules of generalizations -/

section Hierarchy

variable {tables : List KeyedEnd} {references : List String}

/-- Tables that are counted have a variable each. -/
theorem map_variableName_holderCounts (tables : List KeyedEnd) (references : List String) :
    (holderCounts tables references).map (·.variableName) = firstVariables tables.length := by
  refine List.ext_getElem (by simp [holderCounts, firstVariables]) fun position _ _ => ?_
  simp [holderCounts, firstVariables]

/-- As many columns as some keys have, which are not none. -/
def KeyedEnd.Spans (place : KeyedEnd) (width : Nat) : Prop :=
  0 < width ∧ place.columns.length = width

theorem KeyedEnd.Spans.ne_nil {place : KeyedEnd} {width : Nat} (spans : place.Spans width) :
    place.columns ≠ [] := by
  intro none
  obtain ⟨positive, long⟩ := spans
  rw [none, List.length_nil] at long
  omega

theorem matched_holderCounts (wide : ∀ place ∈ tables, place.Spans references.length) :
    ∀ count ∈ holderCounts tables references, count.columns ≠ [] ∧
      count.columns.length = count.references.length := by
  intro count mem
  obtain ⟨position, inside, rfl⟩ := List.mem_mapIdx.1 mem
  have spans := wide _ (List.getElem_mem inside)
  exact ⟨spans.ne_nil, spans.2⟩

theorem holderCounts_ne_nil (some : tables ≠ []) : holderCounts tables references ≠ [] := by
  simpa [holderCounts] using some

/-- The rule that the rows that hold a key in some tables must not add up as told. -/
theorem wellFormed_holderRule {event : String} (comparison : String)
    (silent : variablesIn comparison = []) (some : tables ≠ [])
    (wide : ∀ place ∈ tables, place.Spans references.length) :
    TriggerRule.WellFormed
      { event, counts := holderCounts tables references
        violation := sumOf (firstVariables tables.length) ++ (" " ++ comparison) } where
  counts_ne_nil := holderCounts_ne_nil some
  reads := by
    rw [TriggerRule.assigned, map_variableName_holderCounts, variablesIn_append_blank,
      variablesIn_sumOf, silent, List.append_nil]
    exact List.Subset.refl _
  matched := matched_holderCounts wide

variable {superclass subtype : KeyedEnd} {subtypes siblings : List KeyedEnd} {width : Nat}

/-- The trigger of a superclass counts each subtype into one variable, over columns as many as the
superclass has. -/
theorem wellFormed_superclassPlan (some : subtypes ≠ []) (above : superclass.Spans width)
    (below : ∀ place ∈ subtypes, place.Spans width) :
    (superclassPlan superclass subtypes).WellFormed where
  rules := by
    intro rule mem
    obtain rfl := List.mem_singleton.1 mem
    refine wellFormed_holderRule "< 1" (by decide) some fun place inTables => ?_
    rw [length_rowColumns, above.2]
    exact below place inTables
  declared := by
    intro rule mem
    obtain rfl := List.mem_singleton.1 mem
    rw [TriggerRule.assigned, map_variableName_holderCounts]
    exact List.Subset.refl _
  used := by
    intro name mem
    refine ⟨_, List.mem_singleton_self _, ?_⟩
    rwa [TriggerRule.assigned, map_variableName_holderCounts]

/-- Both rules against siblings, for new keys and for changed ones, count the same rows and differ
in the event alone. -/
theorem wellFormed_of_mem_disjointRules (some : siblings ≠ []) (own : subtype.Spans width)
    (others : ∀ place ∈ siblings, place.Spans width) {rule : TriggerRule}
    (mem : rule ∈ disjointRules subtype siblings) :
    rule.WellFormed ∧ rule.assigned = firstVariables siblings.length := by
  have wide : ∀ place ∈ siblings, place.Spans (rowColumns ":n" subtype.columns).length := by
    intro place inSiblings
    rw [length_rowColumns, own.2]
    exact others place inSiblings
  simp only [disjointRules, List.mem_cons, List.not_mem_nil, or_false] at mem
  rcases mem with rfl | rfl
  · exact ⟨wellFormed_holderRule "!= 0" (by decide) some wide,
      map_variableName_holderCounts siblings _⟩
  · exact ⟨wellFormed_holderRule "!= 0" (by decide) some wide,
      map_variableName_holderCounts siblings _⟩

theorem assigned_totalRule (superclass subtype : KeyedEnd) (siblings : List KeyedEnd) :
    (totalRule superclass subtype siblings).assigned =
      TriggerDraft.variableName siblings.length :: firstVariables siblings.length := by
  rw [TriggerRule.assigned, totalRule, List.map_cons, map_variableName_holderCounts]

/-- The total rule reads one variable more than the siblings have, and it is the first to be
assigned: the rows that stay in the superclass. -/
theorem wellFormed_totalRule (above : superclass.Spans width) (own : subtype.Spans width)
    (others : ∀ place ∈ siblings, place.Spans width) :
    (totalRule superclass subtype siblings).WellFormed where
  counts_ne_nil := List.cons_ne_nil _ _
  reads := by
    have spaced : (totalRule superclass subtype siblings).violation =
        TriggerDraft.variableName siblings.length ++ (" " ++ ("> 0 AND" ++ (" " ++
          (sumOf (firstVariables siblings.length) ++ (" " ++ "< 1"))))) := by
      rw [← String.toList_inj]
      simp [totalRule, String.toList_append]
    have joined : variablesIn "> 0 AND" = [] := by decide
    have compared : variablesIn "< 1" = [] := by decide
    rw [spaced, assigned_totalRule]
    simp only [variablesIn_append_blank, variablesIn_variableName, variablesIn_sumOf, joined,
      compared, List.append_nil, List.nil_append, List.singleton_append]
    exact List.Subset.refl _
  matched := by
    intro count mem
    rcases List.mem_cons.1 mem with rfl | inCounts
    · exact ⟨above.ne_nil, by rw [length_rowColumns, own.2]; exact above.2⟩
    · refine matched_holderCounts (fun place inSiblings => ?_) count inCounts
      rw [length_rowColumns, own.2]
      exact others place inSiblings

/-- The variables of a subtype are declared before it is known which rules it has.  Each of them is
assigned all the same: those of siblings by any rule, and the last, which only a total hierarchy
declares, by the total rule. -/
theorem wellFormed_subtypePlan {disjoint total : Bool} {plan : TriggerPlan}
    (planned : subtypePlan? superclass subtype siblings disjoint total = some plan)
    (above : superclass.Spans width) (own : subtype.Spans width)
    (others : ∀ place ∈ siblings, place.Spans width) : plan.WellFormed := by
  obtain ⟨_, rules, some, arity⟩ := subtypePlan_spec planned
  refine ⟨fun rule mem => ?_, fun rule mem => ?_, fun name mem => ?_⟩
  · rcases rules_of_subtypePlan planned mem with ⟨nonempty, inDisjoint⟩ | ⟨_, rfl⟩
    · exact (wellFormed_of_mem_disjointRules nonempty own others inDisjoint).1
    · exact wellFormed_totalRule above own others
  · rw [arity]
    rcases rules_of_subtypePlan planned mem with ⟨nonempty, inDisjoint⟩ | ⟨isTotal, rfl⟩
    · rw [(wellFormed_of_mem_disjointRules nonempty own others inDisjoint).2]
      split
      · rw [firstVariables_succ]
        exact List.subset_append_left _ _
      · exact List.Subset.refl _
    · rw [if_pos isTotal, firstVariables_succ, assigned_totalRule]
      exact (List.perm_append_singleton _ _).symm.subset
  · rw [arity] at mem
    by_cases isTotal : total = true
    · refine ⟨totalRule superclass subtype siblings, ?_, ?_⟩
      · rw [rules, if_pos isTotal]
        exact List.mem_append_right _ (List.mem_singleton_self _)
      · rw [if_pos isTotal, firstVariables_succ] at mem
        rw [assigned_totalRule]
        exact (List.perm_append_singleton _ _).subset mem
    · rw [if_neg isTotal, Nat.add_zero] at mem
      obtain ⟨rule, inRules⟩ := List.exists_mem_of_ne_nil _ some
      rcases rules_of_subtypePlan planned inRules with ⟨nonempty, inDisjoint⟩ | ⟨now, _⟩
      · refine ⟨rule, inRules, ?_⟩
        rwa [(wellFormed_of_mem_disjointRules nonempty own others inDisjoint).2]
      · exact absurd now isTotal

end Hierarchy

/-! ### Rules of relationships -/

section Embedding

/-- A rule with one count reads the one variable that this count assigns, as long as the comparison
reads none. -/
theorem wellFormed_referringRule {event : String} (comparison : String) {holder : KeyedEnd}
    {columns references : List String} (silent : variablesIn comparison = [])
    (some : columns ≠ []) (long : columns.length = references.length) :
    (referringRule event (" " ++ comparison)
      (referringCount holder columns references)).WellFormed where
  counts_ne_nil := List.cons_ne_nil _ _
  reads := by
    have spaced : (referringRule event (" " ++ comparison)
        (referringCount holder columns references)).violation =
          TriggerDraft.variableName 0 ++ (" " ++ comparison) := rfl
    rw [spaced, variablesIn_append_blank, variablesIn_variableName, silent]
    exact List.Subset.refl _
  matched := by
    intro count mem
    obtain rfl := List.mem_singleton.1 mem
    exact ⟨some, long⟩

/-- Rules that all count into the first variable make a plan of one variable. -/
theorem wellFormed_of_first {plan : TriggerPlan} (one : plan.arity = 1) (some : plan.rules ≠ [])
    (each : ∀ rule ∈ plan.rules,
      rule.WellFormed ∧ rule.assigned = [TriggerDraft.variableName 0]) : plan.WellFormed := by
  have first : firstVariables plan.arity = [TriggerDraft.variableName 0] := by rw [one]; rfl
  refine ⟨fun rule mem => (each rule mem).1, fun rule mem => ?_, fun name mem => ?_⟩
  · rw [first, (each rule mem).2]
    exact List.Subset.refl _
  · obtain ⟨rule, inRules⟩ := List.exists_mem_of_ne_nil _ some
    exact ⟨rule, inRules, by rwa [(each rule inRules).2, ← first]⟩

theorem ReferringRule.wellFormed {holder : KeyedEnd} {columns key : List String}
    {rule : TriggerRule} (refers : ReferringRule holder columns key rule) (some : columns ≠ [])
    (long : columns.length = key.length) :
    rule.WellFormed ∧ rule.assigned = [TriggerDraft.variableName 0] := by
  have silent : ∀ comparison ∈ referringComparisons, variablesIn comparison = [] := by decide
  obtain ⟨event, row, comparison, known, rfl⟩ := refers
  refine ⟨wellFormed_referringRule comparison (silent comparison known) some ?_, rfl⟩
  rw [length_rowColumns, long]

variable {relationship : String} {holder target : KeyedEnd} {reference : Reference}

theorem wellFormed_targetPlan (some : reference.columns ≠ [])
    (long : reference.columns.length = reference.refColumns.length) :
    (targetPlan relationship holder target reference).WellFormed :=
  wellFormed_of_first rfl (List.cons_ne_nil _ _) fun _ mem =>
    (referringRule_of_mem_targetPlan mem).wellFormed some long

theorem wellFormed_holderPlan (some : reference.columns ≠ []) (oneToOne : Bool) :
    (holderPlan relationship holder reference oneToOne).WellFormed :=
  wellFormed_of_first rfl (by simp [holderPlan]) fun _ mem =>
    (referringRule_of_mem_holderPlan mem).wellFormed some rfl

end Embedding

/-! ## Triggers of an outline -/

namespace Classified

variable {d : Classified} {keys : KeyTable} {plan : TriggerPlan}

/-- A generalization without strong subtypes makes no statements. -/
theorem strongSubtypes_ne_nil {generalization : Construct}
    (some : (d.generalizationSketch keys generalization).parts ≠ []) :
    d.strongSubtypes generalization ≠ [] := by
  intro none
  refine some ?_
  unfold generalizationSketch
  split
  · rfl
  dsimp only
  split
  · rfl
  split
  · rfl
  split
  · simp [none]
  · rfl

/-- The widths that a count pairs come from two sides.  The strong subtypes inherit the key of the
root, column by column, and the superclass was checked to have a key of its own as long as that. -/
theorem wellFormed_of_mem_generalizationSketch {generalization : Construct}
    (mem : .trigger plan ∈ (d.generalizationSketch keys generalization).parts) :
    plan.WellFormed := by
  have some := strongSubtypes_ne_nil (List.ne_nil_of_mem mem)
  obtain none | ⟨above, _, rootKeyed, usable, parts⟩ :=
    generalizationSketch_cases d keys generalization
  · exact absurd (none ▸ mem) List.not_mem_nil
  have width : 0 < (d.superclassKeys generalization).length := List.length_pos_of_ne_nil rootKeyed
  have spansAbove : (keys.endAt above).Spans (d.superclassKeys generalization).length :=
    ⟨width, by simpa [KeyedEnd.columns, KeyTable.endAt] using usable⟩
  have spansBelow : ∀ subtype ∈ d.strongSubtypes generalization,
      subtype.Spans (d.superclassKeys generalization).length := by
    intro subtype heir
    obtain ⟨neighbour, _, rfl⟩ := List.mem_map.1 heir
    exact ⟨width, by rw [heirOf_columns, List.length_map]⟩
  rw [parts] at mem
  obtain inKeys | inTriggers := List.mem_append.1 mem
  · obtain ⟨subtype, _, inStatements⟩ := List.mem_flatMap.1 inKeys
    exact absurd inStatements (Part.trigger_not_mem_map_of _ _ _ plan)
  · obtain ⟨_, planned, same⟩ := List.mem_map.1 inTriggers
    obtain rfl := Part.trigger.inj same
    obtain ⟨_, rfl⟩ | ⟨subtype, heir, made⟩ := mem_hierarchyPlans_iff.1 planned
    · exact wellFormed_superclassPlan some spansAbove spansBelow
    · exact wellFormed_subtypePlan made spansAbove (spansBelow subtype heir)
        fun sibling inSiblings => spansBelow sibling (List.mem_filter.1 inSiblings).1

/-- The columns of an embedding are named one for each key column of the target, so the counts over
them are as wide as the target's key. -/
theorem wellFormed_of_mem_relationshipSketch {reserved : Reservations} {node : Construct}
    (mem : .trigger plan ∈ (d.relationshipSketch keys reserved node).1.parts) :
    plan.WellFormed := by
  obtain none | ⟨_, _, same⟩ | ⟨how, _, _, keyed, same⟩ :=
    relationshipSketch_cases d keys reserved node
  · exact absurd (none ▸ mem) List.not_mem_nil
  · rw [same] at mem
    exact absurd trivial (Part.not_triggers_of_mem_junctionSketch mem)
  · rw [same] at mem
    have long : ∀ taken, (embeddedReference taken how).columns.length =
        (embeddedReference taken how).refColumns.length := by
      intro taken
      simp [embeddedReference, Reference.refColumns, KeyedEnd.columns, length_foreignColumns]
    have some : ∀ taken, (embeddedReference taken how).columns ≠ [] := by
      intro taken none
      refine keyed (List.length_eq_zero_iff.1 ?_)
      rw [← length_foreignColumns taken, ← List.length_nil]
      exact congrArg List.length none
    obtain inStatements | inTriggers := List.mem_append.1 mem
    · exact absurd inStatements (Part.trigger_not_mem_map_of _ _ _ plan)
    · obtain ⟨_, planned, isPlan⟩ := List.mem_map.1 inTriggers
      obtain rfl := Part.trigger.inj isPlan
      obtain ⟨_, rfl | rfl⟩ := mem_embeddingPlans_iff.1 planned
      · exact wellFormed_targetPlan (some _) (long _)
      · exact wellFormed_holderPlan (some _) how.oneToOne

/-- Every plan of an outline is well formed. -/
theorem wellFormed_of_mem_outline {settings : Settings}
    (mem : .trigger plan ∈ outline settings d keys) : plan.WellFormed := by
  obtain ⟨phase, sketch, inPhase, inSketch⟩ := mem_outline_iff.1 mem
  obtain ⟨_, _, guards⟩ := triggers_of_mem_sketch inPhase inSketch trivial
  obtain rfl | rfl := guards.phase_eq
  · obtain ⟨generalization, _, rfl⟩ := List.mem_map.1 inPhase
    exact wellFormed_of_mem_generalizationSketch inSketch
  · obtain encoded | associative := List.mem_append.1 inPhase
    · obtain ⟨node, _, reserved, rfl⟩ := mem_relationshipSketches encoded
      exact wellFormed_of_mem_relationshipSketch inSketch
    · obtain ⟨entity, _, rfl⟩ := List.mem_map.1 associative
      exact absurd trivial (not_triggers_of_associativeSketch inSketch)

end Classified

/-! ## Triggers of a script -/

/-- A trigger declares the first variables in order, and its body is the lines of blocks, each
a rule with the number that it raises.  The rules are well formed, and the variables they assign
are the declared ones. -/
structure Trigger.BuiltOf (trigger : Trigger) (message : String)
    (blocks : List (TriggerRule × Int)) : Prop where
  counters : trigger.counters = firstVariables trigger.counters.length
  body : trigger.body = blocks.flatMap fun block => block.1.lines (doubleQuotes message) block.2
  errorCodes : trigger.errorCodes = blocks.map (·.2)
  rules : ∀ block ∈ blocks, block.1.WellFormed
  declared : ∀ block ∈ blocks, block.1.assigned ⊆ trigger.counters
  used : ∀ name ∈ trigger.counters, ∃ block ∈ blocks, name ∈ block.1.assigned

theorem linesFrom_eq_flatMap (message : String) (code : Int) (rules : List TriggerRule) :
    linesFrom message code rules = (rules.zip (codesFrom code rules.length)).flatMap
      fun block => block.1.lines message block.2 := by
  induction rules generalizing code with
  | nil => rfl
  | cons rule rest ih =>
      rw [linesFrom_cons, ih, List.length_cons, codesFrom_succ, List.zip_cons_cons,
        List.flatMap_cons]

/-- The trigger of a well-formed plan is built of its rules. -/
theorem TriggerPlan.WellFormed.builtOf {plan : TriggerPlan} (wellFormed : plan.WellFormed)
    (message : String) (code : Int) :
    (plan.numbered message code).BuiltOf message
      (plan.rules.zip (codesFrom code plan.rules.length)) := by
  have count : (plan.numbered message code).counters.length = plan.arity := by
    simp [TriggerPlan.numbered, firstVariables]
  have rules : (plan.rules.zip (codesFrom code plan.rules.length)).map Prod.fst = plan.rules :=
    List.map_fst_zip (by simp)
  have codes : (plan.rules.zip (codesFrom code plan.rules.length)).map Prod.snd =
      codesFrom code plan.rules.length := List.map_snd_zip (by simp)
  have isRule : ∀ block ∈ plan.rules.zip (codesFrom code plan.rules.length),
      block.1 ∈ plan.rules := fun block mem => (List.of_mem_zip mem).1
  refine ⟨by rw [count]; rfl, linesFrom_eq_flatMap _ code plan.rules, codes.symm,
    fun block mem => ?_, fun block mem => ?_, fun name mem => ?_⟩
  · exact wellFormed.rules _ (isRule block mem)
  · exact wellFormed.declared _ (isRule block mem)
  · obtain ⟨rule, inRules, assigned⟩ := wellFormed.used name mem
    rw [← rules] at inRules
    obtain ⟨block, inBlocks, rfl⟩ := List.mem_map.1 inRules
    exact ⟨block, inBlocks, assigned⟩

/-- Every trigger of a script is that of a plan in the outline, whose counts are the ones that
the generalization or the relationship has drafted, and its blocks are the rules of this plan.
The plan is named because a body alone does not tell what its counts were made of: a line keeps
only the columns that have met a reference, so lists of unequal lengths could have the same line.
The rules of the plan have lists of equal lengths, and no column of theirs is lost. -/
theorem triggers_builtOf {settings : Settings} {diagram : Diagram} {result : CompileResult}
    (compiled : compile settings diagram = .ok result) {trigger : Trigger}
    (mem : .createTrigger trigger ∈ result.statements) :
    ∃ d plan code, diagram.classify = .ok d ∧
      .trigger plan ∈ outline settings d (keysAfter settings diagram d) ∧
      trigger = plan.numbered settings.violationMessage code ∧ plan.WellFormed ∧
      trigger.BuiltOf settings.violationMessage
        (plan.rules.zip (codesFrom code plan.rules.length)) := by
  obtain ⟨d, read⟩ := exists_classified compiled
  obtain ⟨_, statements, _⟩ := statements_eq_numberParts read compiled
  rw [statements] at mem
  obtain ⟨part, inOutline, first, same⟩ := mem_numberedFrom mem
  have triggers := Part.triggers_of_fits
    (same ▸ part.fits_numbered settings.violationMessage first)
  obtain ⟨_, _, plan, rfl, _⟩ := Classified.triggers_of_mem_outline inOutline triggers
  obtain rfl := Statement.createTrigger.inj same
  have wellFormed := Classified.wellFormed_of_mem_outline inOutline
  exact ⟨d, plan, first, read, inOutline, rfl, wellFormed, wellFormed.builtOf _ _⟩

def Statement.trigger? : Statement → Option Trigger
  | .createTrigger trigger => some trigger
  | _ => none

/-- The superclass of `guarded` counts its two subtypes before it raises. -/
theorem guarded_triggers_builtOf :
    ∃ result, compile {} guarded = .ok result ∧
      ∃ trigger, .createTrigger trigger ∈ result.statements ∧
        trigger.name = "genspecTrigger_S" ∧ trigger.counters = ["X0", "X1"] ∧
        ∃ d plan code, guarded.classify = .ok d ∧
          .trigger plan ∈ outline {} d (keysAfter {} guarded d) ∧
          trigger = plan.numbered "Violação detectada!" code ∧ plan.WellFormed ∧
          trigger.BuiltOf "Violação detectada!"
            (plan.rules.zip (codesFrom code plan.rules.length)) := by
  have checked : compilesTo {} guarded (fun statements =>
      statements.any (·.trigger?.any fun trigger =>
        decide (trigger.name = "genspecTrigger_S" ∧ trigger.counters = ["X0", "X1"]))) = true := by
    decide +kernel
  obtain ⟨result, compiled, found⟩ := exists_of_compilesTo checked
  obtain ⟨statement, mem, holds⟩ := List.any_eq_true.1 found
  cases statement with
  | createTrigger trigger =>
      obtain ⟨name, counters⟩ := of_decide_eq_true holds
      exact ⟨result, compiled, trigger, mem, name, counters, triggers_builtOf compiled mem⟩
  | _ => exact absurd holds Bool.false_ne_true

end EntitySchema
