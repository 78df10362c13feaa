/-
# EntitySchema.Proofs.RaisedMessages -- what a reader of the script finds raised

The message of a raise stands in a literal of its line, its quotes doubled.  A reader
takes two quotes for one and ends the literal at a single one (`readLiteral`), so the
line by itself gives the message back (`readLiteral_doubled`).

But what is in the script is the tidied text of the whole trigger.  A quote keeps the
text before it apart from the text behind it, so each literal of the script begins and
ends where it did in the line, and holds the message as it is tidied alone
(`tidyChars_doubled`): the message itself exactly if that is tidy.
-/
import EntitySchema.Proofs.TriggerBodies
import EntitySchema.Proofs.TidyingParts

namespace EntitySchema

open EntitySchema.Ddl

set_option autoImplicit false

/-! ## Literals -/

/-- What is read from a text behind the opening quote of a literal: the literal, in which
two quotes stand for one, and the text behind its closing quote. -/
def readLiteral : List Char → Option (List Char × List Char)
  | [] => none
  | '\'' :: '\'' :: rest => (readLiteral rest).map fun (literal, after) => ('\'' :: literal, after)
  | '\'' :: rest => some ([], rest)
  | c :: rest => (readLiteral rest).map fun (literal, after) => (c :: literal, after)

def doubled (text : List Char) : List Char :=
  text.flatMap fun c => if c = '\'' then ['\'', '\''] else [c]

theorem toList_doubleQuotes (text : String) : (doubleQuotes text).toList = doubled text.toList := by
  rw [doubleQuotes, String.toList_ofList, doubled]

theorem doubled_cons_quote (rest : List Char) :
    doubled ('\'' :: rest) = '\'' :: '\'' :: doubled rest := rfl

theorem doubled_cons_of_ne {c : Char} (other : c ≠ '\'') (rest : List Char) :
    doubled (c :: rest) = c :: doubled rest := by
  simp [doubled, other]

theorem doubled_of_notMem {text : List Char} (unquoted : '\'' ∉ text) : doubled text = text := by
  induction text with
  | nil => rfl
  | cons c rest ih =>
      rw [doubled_cons_of_ne (List.ne_of_not_mem_cons unquoted).symm,
        ih (List.not_mem_of_not_mem_cons unquoted)]

theorem doubled_append (first second : List Char) :
    doubled (first ++ second) = doubled first ++ doubled second := List.flatMap_append

/-- A literal is read back, as far as no further quote stands behind its closing one. -/
theorem readLiteral_doubled (text : List Char) {rest : List Char} (ends : rest.head? ≠ some '\'') :
    readLiteral (doubled text ++ '\'' :: rest) = some (text, rest) := by
  induction text with
  | nil =>
      cases rest with
      | nil => rfl
      | cons c more =>
          have other : c ≠ '\'' := by simpa using ends
          simp [doubled, readLiteral, other]
  | cons c more ih =>
      by_cases quote : c = '\''
      · subst quote
        rw [doubled_cons_quote, List.cons_append, List.cons_append, readLiteral, ih]
        rfl
      · rw [doubled_cons_of_ne quote, List.cons_append, readLiteral, ih]
        · rfl
        · simp [quote]
        · simp [quote]

/-! ## Tidied literals -/

theorem isInert_quote : isInert '\'' = true := by decide

theorem tidyChars_sublist (text : List Char) : (tidyChars text).Sublist text :=
  (dropPluses_sublist false _).trans (dropCommas_sublist text)

/-- A text up to the first quote is tidied by itself, and so is what stands behind. -/
theorem tidyChars_append_doubled {front : List Char} (unquoted : '\'' ∉ front)
    (text : List Char) : tidyChars (front ++ doubled text) = doubled (tidyChars (front ++ text)) := by
  induction text generalizing front with
  | nil =>
      have plain : '\'' ∉ tidyChars front := fun mem => unquoted ((tidyChars_sublist front).subset mem)
      rw [doubled, List.flatMap_nil, List.append_nil, doubled_of_notMem plain]
  | cons c rest ih =>
      by_cases quote : c = '\''
      · subst quote
        have plain : '\'' ∉ tidyChars front :=
          fun mem => unquoted ((tidyChars_sublist front).subset mem)
        have behind : tidyChars (doubled rest) = doubled (tidyChars rest) :=
          @ih [] List.not_mem_nil
        rw [doubled_cons_quote, tidyChars_append_cons isInert_quote, tidyChars_cons isInert_quote,
          behind, tidyChars_append_cons isInert_quote, doubled_append, doubled_of_notMem plain,
          doubled_cons_quote]
      · have stillUnquoted : '\'' ∉ front ++ [c] := by
          simp [unquoted, Ne.symm quote]
        have here := ih stillUnquoted
        rw [List.append_assoc, List.append_assoc] at here
        rw [doubled_cons_of_ne quote]
        exact here

/-- Tidying and doubling quotes change places. -/
theorem tidyChars_doubled (text : List Char) :
    tidyChars (doubled text) = doubled (tidyChars text) :=
  @tidyChars_append_doubled [] List.not_mem_nil text

/-! ## Texts around a raise -/

/-- The call of a raise up to its literal. -/
def raiseCall (code : String) : String := "RAISE_APPLICATION_ERROR(-" ++ code ++ ", '"

theorem plus_notMem_toString (code : Int) : '+' ∉ (toString code).toList :=
  notMem_toString_int rfl (by decide) code

theorem toList_raiseCall (code : String) :
    (raiseCall code).toList =
      ("RAISE_APPLICATION_ERROR(-".toList ++ code.toList) ++ ", '".toList := by
  unfold raiseCall
  rw [String.toList_append, String.toList_append]

/-- The comma of the call stands in front of a quote and stays. -/
theorem tidyChars_raiseCall (code : Int) (rest : List Char) :
    tidyChars ((raiseCall (toString code)).toList ++ rest) =
      (raiseCall (toString code)).toList ++ tidyChars rest := by
  have noComma : ',' ∉ "RAISE_APPLICATION_ERROR(-".toList ++ (toString code).toList :=
    fun mem => (List.mem_append.1 mem).elim (by simp) (comma_notMem_toString code)
  have noPlus : '+' ∉ "RAISE_APPLICATION_ERROR(-".toList ++ (toString code).toList :=
    fun mem => (List.mem_append.1 mem).elim (by simp) (plus_notMem_toString code)
  have quote : tidyChars (", '".toList ++ rest) = ", '".toList ++ tidyChars rest := by
    have kept := tidyChars_append_cons isInert_quote [',', ' '] rest
    have itself : tidyChars [',', ' '] = [',', ' '] := by decide
    rw [itself] at kept
    simpa using kept
  rw [toList_raiseCall, List.append_assoc, tidyChars_append_of_notMem noComma noPlus, quote,
    List.append_assoc, List.append_assoc, List.append_assoc]

/-- Up to the call of a raise, in it, and behind it, a text is tidied on its own. -/
theorem tidyChars_raise (front behind : List Char) (code : Int) (message : List Char) :
    tidyChars (front ++ ((raiseCall (toString code)).toList
        ++ (doubled message ++ '\'' :: ("); END IF;".toList ++ behind)))) =
      tidyChars front ++ ((raiseCall (toString code)).toList
        ++ (doubled (tidyChars message) ++ '\'' :: ("); END IF;".toList ++ tidyChars behind))) := by
  have begins : (raiseCall (toString code)).toList =
      'R' :: ("AISE_APPLICATION_ERROR(-" ++ toString code ++ ", '").toList := by
    simp [toList_raiseCall]
  have inert : isInert 'R' = true := by decide
  have call := tidyChars_raiseCall code
    (doubled message ++ '\'' :: ("); END IF;".toList ++ behind))
  have closing : tidyChars ("); END IF;".toList ++ behind) =
      "); END IF;".toList ++ tidyChars behind :=
    tidyChars_append_of_notMem (by simp) (by simp) behind
  rw [begins, List.cons_append, tidyChars_cons inert] at call
  rw [begins, List.cons_append, tidyChars_append_cons inert, call,
    tidyChars_append_cons isInert_quote, tidyChars_doubled, closing]

/-- A line that raises, cut at its literal. -/
theorem raiseLine_eq (condition : String) (code : Int) (message : String) :
    "\t" ++ raiseLine condition code message =
      "\tIF (" ++ condition ++ ") THEN " ++ raiseCall (toString code) ++ message ++ "'"
        ++ "); END IF;" := by
  refine String.toList_injective ?_
  rw [toList_raiseLine]
  simp [toList_raiseCall]

theorem toList_tidy (text : String) : (tidy text).toList = tidyChars text.toList :=
  String.toList_ofList

theorem tidy_raise (front behind message : String) (code : Int) :
    tidy (front ++ (raiseCall (toString code) ++ doubleQuotes message ++ "'" ++ "); END IF;")
        ++ behind) =
      tidy front ++ raiseCall (toString code)
        ++ (doubleQuotes (tidy message) ++ "'" ++ ("); END IF;" ++ tidy behind)) := by
  have parts := tidyChars_raise front.toList behind.toList code message.toList
  refine String.toList_injective ?_
  rw [toList_tidy]
  simp only [String.toList_append, toList_tidy, toList_doubleQuotes, List.append_assoc]
  have quote : "'".toList = ['\''] := by simp
  rw [quote]
  exact parts

/-! ## Lines -/

/-- A text among others, with a separator between two of them. -/
theorem intercalate_append_cons (separator : String) (before : List String) (text : String)
    (after : List String) :
    String.intercalate separator (before ++ text :: after) =
      String.join (before.map (· ++ separator)) ++ text
        ++ String.join (after.map (separator ++ ·)) := by
  induction before with
  | nil =>
      induction after generalizing text with
      | nil => simp
      | cons next rest ih =>
          simp only [List.nil_append] at ih
          simp [ih, String.append_assoc]
  | cons first rest ih =>
      have split : rest ++ text :: after ≠ [] := by simp
      obtain ⟨next, others, same⟩ := List.exists_cons_of_ne_nil split
      rw [List.cons_append, same, String.intercalate_cons_cons, ← same, ih]
      simp [String.append_assoc]

/-- The lines of a trigger above its body. -/
def Trigger.opening (trigger : Trigger) : List String :=
  ["CREATE OR REPLACE TRIGGER " ++ trigger.name ++ " AFTER INSERT OR DELETE OR UPDATE ON "
      ++ trigger.table,
    "REFERENCING NEW AS n OLD AS o FOR EACH ROW"] ++ trigger.declarations ++ ["BEGIN"]

/-- The text of a trigger down to some lines of its body. -/
def Trigger.textAbove (trigger : Trigger) (above : List String) : String :=
  String.join ((trigger.opening ++ above.map ("\t" ++ ·)).map (· ++ "\n"))

/-- The text of a trigger from the last lines of its body on. -/
def Trigger.textBelow (below : List String) : String :=
  String.join ((below.map ("\t" ++ ·) ++ ["END;"]).map ("\n" ++ ·))

/-- A trigger around a line of its body. -/
theorem Trigger.render_of_body {trigger : Trigger} {above below : List String} {line : String}
    (body : trigger.body = above ++ line :: below) :
    trigger.render = trigger.textAbove above ++ ("\t" ++ line) ++ Trigger.textBelow below := by
  have lines : trigger.render = String.intercalate "\n" ((trigger.opening ++ above.map ("\t" ++ ·))
      ++ ("\t" ++ line) :: (below.map ("\t" ++ ·) ++ ["END;"])) := by
    simp [Trigger.render, Trigger.opening, body]
  rw [lines, intercalate_append_cons]
  rfl

/-- A script around one of its statements. -/
theorem scriptText_append_cons (earlier : List Statement) (statement : Statement)
    (later : List Statement) :
    scriptText (earlier ++ statement :: later) =
      String.join (earlier.map (·.scriptText ++ "\n\n")) ++ statement.scriptText
        ++ String.join (later.map ("\n\n" ++ ·.scriptText)) ++ "\n" := by
  simp [scriptText, intercalate_append_cons, Function.comp_def]

/-- A line that raises is that of a rule. -/
theorem exists_raiseLine {rules : List TriggerRule} (unbracketed : Unbracketed rules)
    {message : String} {first : Int} {line code : String}
    (mem : line ∈ linesFrom message first rules) (raises : raised? line = some code) :
    ∃ rule ∈ rules, ∃ number : Int, code = toString number ∧
      line = "\t" ++ raiseLine rule.violation number message := by
  obtain ⟨lines, inBlocks, inLines⟩ := List.mem_flatten.1 mem
  obtain ⟨rule, inRules, number, rfl⟩ := mem_numberedFrom inBlocks
  refine ⟨rule, inRules, number, ?_⟩
  have around : raised? "END IF;" = none := rfl
  simp only [TriggerRule.lines, List.mem_append, List.mem_singleton, List.map_append, List.map_map,
    List.map_cons, List.map_nil, List.mem_map] at inLines
  obtain (rfl | ⟨count, _, rfl⟩ | rfl) | rfl := inLines
  · simp [raised?_event] at raises
  · simp [raised?_count] at raises
  · rw [raised?_raiseLine (unbracketed rule inRules)] at raises
    exact ⟨(Option.some.inj raises).symm, rfl⟩
  · simp [around] at raises

/-! ## Scripts -/

section Scripts

variable {settings : Settings} {diagram : Diagram} {result : CompileResult}

/-- A trigger of a script is that of a plan, numbered from some number on. -/
theorem exists_plan_of_mem_statements {d : Classified} (read : diagram.classify = .ok d)
    (compiled : compile settings diagram = .ok result) {trigger : Trigger}
    (mem : .createTrigger trigger ∈ result.statements) :
    ∃ phase sketch plan first, d.Guards (keysAfter settings diagram d) phase sketch plan ∧
      trigger = plan.numbered settings.violationMessage first := by
  obtain ⟨_, statements, _⟩ := statements_eq_numberParts read compiled
  rw [statements] at mem
  obtain ⟨part, inOutline, first, same⟩ := mem_numberedFrom mem
  have triggers := Part.triggers_of_fits
    (same ▸ part.fits_numbered settings.violationMessage first)
  obtain ⟨phase, sketch, plan, rfl, guards⟩ :=
    Classified.triggers_of_mem_outline inOutline triggers
  exact ⟨phase, sketch, plan, first, guards, Statement.createTrigger.inj same⟩

/-- The text of a script around the literal of a raise. -/
theorem ddl_around_raise (compiled : compile settings diagram = .ok result)
    {earlier later : List Statement} {trigger : Trigger}
    (script : result.statements = earlier ++ .createTrigger trigger :: later)
    {above below : List String} {line code : String} (body : trigger.body = above ++ line :: below)
    (raises : raised? line = some code) :
    ∃ opening : String,
      line = opening ++ raiseCall code ++ doubleQuotes settings.violationMessage ++ "'"
          ++ "); END IF;" ∧
      result.ddl = String.join (earlier.map (·.scriptText ++ "\n\n"))
          ++ tidy (trigger.textAbove above ++ "\t" ++ opening) ++ raiseCall code
          ++ (doubleQuotes (tidy settings.violationMessage) ++ "'"
            ++ ("); END IF;" ++ (tidy (Trigger.textBelow below)
              ++ String.join (later.map ("\n\n" ++ ·.scriptText)) ++ "\n"))) := by
  obtain ⟨d, read⟩ := exists_classified compiled
  obtain ⟨_, _, plan, first, guards, rfl⟩ := exists_plan_of_mem_statements read compiled
    (script ▸ List.mem_append_right earlier List.mem_cons_self)
  have inBody : line ∈ linesFrom (doubleQuotes settings.violationMessage) first plan.rules := by
    have mem : line ∈ above ++ line :: below := by simp
    rwa [← body] at mem
  obtain ⟨rule, _, number, rfl, same⟩ := exists_raiseLine guards.unbracketed inBody raises
  rw [raiseLine_eq] at same
  generalize plan.numbered settings.violationMessage first = trigger at script body
  generalize "\tIF (" ++ rule.violation ++ ") THEN " = opening at same
  have render : trigger.render = trigger.textAbove above ++ "\t" ++ opening
      ++ (raiseCall (toString number) ++ doubleQuotes settings.violationMessage ++ "'"
        ++ "); END IF;") ++ Trigger.textBelow below := by
    rw [Trigger.render_of_body body, same]
    simp only [String.append_assoc]
  have text : (Statement.createTrigger trigger).scriptText =
      tidy (trigger.textAbove above ++ "\t" ++ opening) ++ raiseCall (toString number)
        ++ (doubleQuotes (tidy settings.violationMessage) ++ "'"
          ++ ("); END IF;" ++ tidy (Trigger.textBelow below))) := by
    rw [← tidy_raise, ← render]
    rfl
  refine ⟨opening, same, ?_⟩
  rw [CompileResult.ddl, script, scriptText_append_cons, text]
  simp only [String.append_assoc]

/-- What is read of a literal that is closed like that of a raise. -/
theorem readLiteral_doubleQuotes (text behind : String) :
    readLiteral (doubleQuotes text ++ "'" ++ ("); END IF;" ++ behind)).toList =
      some (text.toList, ("); END IF;" ++ behind).toList) := by
  have quoted : (doubleQuotes text ++ "'" ++ ("); END IF;" ++ behind)).toList =
      doubled text.toList ++ '\'' :: ("); END IF;" ++ behind).toList := by
    simp [toList_doubleQuotes]
  rw [quoted]
  exact readLiteral_doubled _ (by simp)

/-- The literal of every raise begins in the script behind the call of its number and ends where
it does in its line.  It is read as the message is tidied by itself, so it gives the message
back exactly if that is tidy. -/
theorem raised_message_read_back (compiled : compile settings diagram = .ok result)
    {earlier later : List Statement} {trigger : Trigger}
    (script : result.statements = earlier ++ .createTrigger trigger :: later)
    {above below : List String} {line code : String} (body : trigger.body = above ++ line :: below)
    (raises : raised? line = some code) :
    ∃ opening after closing : String,
      line = opening ++ raiseCall code ++ doubleQuotes settings.violationMessage ++ "'"
          ++ "); END IF;" ∧
      result.ddl = String.join (earlier.map (·.scriptText ++ "\n\n"))
          ++ tidy (trigger.textAbove above ++ "\t" ++ opening) ++ raiseCall code ++ after ∧
      closing = "); END IF;" ++ (tidy (Trigger.textBelow below)
          ++ String.join (later.map ("\n\n" ++ ·.scriptText)) ++ "\n") ∧
      readLiteral after.toList =
        some ((tidy settings.violationMessage).toList, closing.toList) ∧
      (readLiteral after.toList = some (settings.violationMessage.toList, closing.toList) ↔
        IsTidy settings.violationMessage.toList) := by
  obtain ⟨opening, same, ddl⟩ := ddl_around_raise compiled script body raises
  have readBack := readLiteral_doubleQuotes (tidy settings.violationMessage)
    (tidy (Trigger.textBelow below) ++ String.join (later.map ("\n\n" ++ ·.scriptText)) ++ "\n")
  refine ⟨opening, _, _, same, ddl, rfl, readBack, ?_⟩
  rw [readBack, ← tidy_eq_self_iff, Option.some.injEq, Prod.mk.injEq, String.toList_inj,
    and_iff_left rfl]

/-- A superclass every row of which needs a row of its subtype. -/
def totalPair : Diagram :=
  { nodes :=
      [.drawn "p" "P" "StrongEntity", .drawn "k" "k" "KeyAttribute",
       .drawn "t" "T" "GeneralizationDisjoint", .drawn "e" "E" "StrongEntity"]
    connections :=
      [.drawn "1" "p" "k", .drawn "2" "t" "p" "DoubleLineGeneralization",
       .drawn "3" "t" "e" "GeneralizationToSubtype"]
    node_ids_nodup := by decide
    connection_ids_nodup := by decide }

/-- Whether a script has a trigger with a line that raises a number. -/
def scriptRaises (code : String) (statements : List Statement) : Bool :=
  statements.any (·.trigger?.any fun trigger => trigger.body.any fun line =>
    decide (raised? line = some code))

theorem exists_raise_of_scriptRaises {code : String} {statements : List Statement}
    (found : scriptRaises code statements = true) :
    ∃ earlier trigger later above line below,
      statements = earlier ++ .createTrigger trigger :: later ∧
        trigger.body = above ++ line :: below ∧ raised? line = some code := by
  obtain ⟨statement, mem, inStatement⟩ := List.any_eq_true.1 found
  cases statement with
  | createTrigger trigger =>
      obtain ⟨line, inBody, raises⟩ := List.any_eq_true.1 inStatement
      obtain ⟨earlier, later, script⟩ := List.append_of_mem mem
      obtain ⟨above, below, body⟩ := List.append_of_mem inBody
      exact ⟨earlier, trigger, later, above, line, below, script, body, of_decide_eq_true raises⟩
  | _ => exact absurd inStatement Bool.false_ne_true

/-- A message with a quote is read back. -/
theorem totalPair_message_read_back :
    ∃ result, compile { violationMessage := "don't, please" } totalPair = .ok result ∧
      ∃ front after closing, result.ddl = front ++ raiseCall "20000" ++ after ∧
        readLiteral after.toList = some ("don't, please".toList, closing) := by
  have found : compilesTo { violationMessage := "don't, please" } totalPair
      (scriptRaises "20000") = true := by decide +kernel
  obtain ⟨result, compiled, holds⟩ := exists_of_compilesTo found
  obtain ⟨earlier, trigger, later, above, line, below, script, body, raises⟩ :=
    exists_raise_of_scriptRaises holds
  obtain ⟨opening, after, closing, _, ddl, _, _, exactly⟩ :=
    raised_message_read_back compiled script body raises
  have tidied : IsTidy "don't, please".toList := by decide +kernel
  exact ⟨result, compiled, _, after, closing.toList, ddl, exactly.2 tidied⟩

/-- A plus in front of a comparison is gone from the message. -/
theorem totalPair_message_changed :
    ∃ result, compile { violationMessage := "total + < 1" } totalPair = .ok result ∧
      ∃ earlier trigger later above line below,
        result.statements = earlier ++ .createTrigger trigger :: later ∧
          trigger.body = above ++ line :: below ∧ raised? line = some "20000" ∧
          ∃ front after closing, result.ddl = front ++ raiseCall "20000" ++ after ∧
            readLiteral after.toList = some ("total < 1".toList, closing) := by
  have found : compilesTo { violationMessage := "total + < 1" } totalPair
      (scriptRaises "20000") = true := by decide +kernel
  obtain ⟨result, compiled, holds⟩ := exists_of_compilesTo found
  obtain ⟨earlier, trigger, later, above, line, below, script, body, raises⟩ :=
    exists_raise_of_scriptRaises holds
  obtain ⟨opening, _, ddl⟩ := ddl_around_raise compiled script body raises
  have tidied : tidy "total + < 1" = "total < 1" := by decide +kernel
  rw [tidied] at ddl
  exact ⟨result, compiled, earlier, trigger, later, above, line, below, script, body, raises, _, _,
    _, ddl, readLiteral_doubleQuotes "total < 1" _⟩

end Scripts

end EntitySchema
