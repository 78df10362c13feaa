/-
# EntitySchema.Proofs.FirmStatements -- statements that are rendered firm

A statement is well named if the columns it lists are names and the other texts in it are
harmless (`Statement.WellNamed`), and a rule of a trigger if what its lines are made of is
(`TriggerRule.WellNamed`).  Rendering puts generated separators between these parts: commas
between columns, pluses in sums of variables, and a comma in front of the literal of a raise.
Each is firm with what stands behind it, so a well-named statement is rendered firm
(`Statement.WellNamed.firm_render`, `TriggerPlan.WellNamed.firm_render`).
-/
import EntitySchema.Proofs.HarmlessText

namespace EntitySchema

open EntitySchema.Text EntitySchema.Ddl

set_option autoImplicit false

/-! ## Parts of statements -/

structure Column.WellNamed (column : Column) : Prop where
  name : IsName column.name
  sqlType : ∀ sqlType ∈ column.sqlType, Harmless sqlType

theorem IsName.intercalate {separator text : String} {rest : List String} (isName : IsName text)
    (between : Harmless separator) (each : ∀ other ∈ rest, Harmless other) :
    IsName (String.intercalate separator (text :: rest)) := by
  cases rest with
  | nil => simpa using isName
  | cons next others =>
      rw [String.intercalate_cons_cons]
      exact (isName.append between).append (.intercalate between each)

/-- A column is written like a name: its type stands behind its own. -/
theorem Column.WellNamed.isName_render {column : Column} (named : column.WellNamed) :
    IsName column.render := by
  have blank : Harmless " " := by decide
  have notNull : Harmless "NOT NULL" := by decide
  refine named.name.intercalate blank fun text mem => ?_
  rcases List.mem_append.1 mem with inType | inNotNull
  · have found : nonEmpty column.sqlType = some text := by simpa using inType
    exact named.sqlType text (Option.filter_eq_some_iff.1 found).1
  · split at inNotNull
    · exact List.mem_singleton.1 inNotNull ▸ notNull
    · exact absurd inNotNull List.not_mem_nil

/-- A list of names is firm with its closing bracket. -/
theorem firm_nameList {names : List String} {closing : String}
    (each : ∀ name ∈ names, IsName name) (firm : Firm closing)
    (ends : closing.toList.head? = some ')') : Firm (Statement.nameList names ++ closing) := by
  show Firm (String.intercalate ("," ++ " ") names ++ closing)
  exact firm_list (by simp [isBlank]) (fun name mem => ⟨(each name mem).firm, (each name mem).isItem⟩)
    firm ends (by decide)

/-- The body of a table is firm with the line break behind it. -/
theorem firm_tableBody {columns : List Column} {closing : String}
    (each : ∀ column ∈ columns, column.WellNamed) (firm : Firm closing)
    (ends : closing.toList.head? = some '\n') : Firm (Statement.tableBody columns ++ closing) := by
  show Firm (String.intercalate ("," ++ "\n") (columns.map fun column => "\t" ++ column.render)
    ++ closing)
  refine firm_list (by simp [isBlank]) (fun item mem => ?_) firm ends (by decide)
  obtain ⟨column, inColumns, rfl⟩ := List.mem_map.1 mem
  have isName := (each column inColumns).isName_render
  have tab : Harmless "\t" := by decide
  exact ⟨(tab.append isName.toHarmless).firm, isName.isItem.append (by simp [isBlank])⟩

/-! ## Statements -/

/-- The columns of the foreign key are names, and its other texts are harmless. -/
structure ForeignKey.WellNamed (key : ForeignKey) : Prop where
  table : Harmless key.table
  constraint : Harmless key.constraint
  columns : ∀ name ∈ key.columns, IsName name
  refTable : Harmless key.refTable
  refColumns : ∀ name ∈ key.refColumns, IsName name
  onDelete : ∀ action ∈ key.onDelete, Harmless action

/-- The columns of the statement are names, and its other texts are harmless.  Views, which
are not tidied, and triggers are left aside. -/
def Statement.WellNamed : Statement → Prop
  | .createTable table columns => Harmless table ∧ ∀ column ∈ columns, column.WellNamed
  | .addColumn table column => Harmless table ∧ column.WellNamed
  | .addPrimaryKey table constraint columns =>
      Harmless table ∧ Harmless constraint ∧ ∀ name ∈ columns, IsName name
  | .addForeignKey key => key.WellNamed
  | .createView .. | .createTrigger _ => True

/-- A foreign key reads as it was written: its lists of names lie between brackets with a word
behind each, so that no comma of theirs comes before a closing bracket. -/
theorem ForeignKey.WellNamed.firm_render {key : ForeignKey} (named : key.WellNamed) :
    Firm key.render := by
  have around : ∀ action deferral : String, Firm action → Firm deferral →
      Firm ("ALTER TABLE " ++ key.table ++ " ADD CONSTRAINT " ++ key.constraint ++ " FOREIGN KEY ("
        ++ Statement.nameList key.columns ++ ") REFERENCES " ++ key.refTable ++ " ("
        ++ Statement.nameList key.refColumns ++ ")" ++ action ++ deferral ++ ";") := by
    intro action deferral actionFirm deferralFirm
    -- each list of columns is firm with all that stands behind it
    have ending : Firm (")" ++ (action ++ (deferral ++ ";"))) :=
      .append (.of_isPlain rfl) (actionFirm.append (deferralFirm.append (.of_isPlain rfl)))
    have referring := firm_nameList named.refColumns ending (by simp)
    have middle : Firm (") REFERENCES " ++ (key.refTable ++ (" (" ++
        (Statement.nameList key.refColumns ++ (")" ++ (action ++ (deferral ++ ";"))))))) :=
      .append (.of_isPlain rfl) (named.refTable.firm.append (.append (.of_isPlain rfl) referring))
    have columns := firm_nameList named.columns middle (by simp)
    simp only [String.append_assoc]
    exact .append (.of_isPlain rfl) (named.table.firm.append
      (.append (.of_isPlain rfl) (named.constraint.firm.append
        (.append (.of_isPlain rfl) columns))))
  refine around _ _ ?_ ?_
  · split
    · rename_i action found
      exact .append (.of_isPlain rfl)
        (named.onDelete action (Option.filter_eq_some_iff.1 found).1).firm
    · exact .empty
  · split
    · exact .of_isPlain rfl
    · exact .empty

/-- A well-named statement that is no view and no trigger is rendered firm. -/
theorem Statement.WellNamed.firm_render {statement : Statement} (named : statement.WellNamed)
    (noView : statement.form ≠ "CreateView") (noTrigger : statement.form ≠ "CreateTrigger") :
    Firm statement.render := by
  cases statement with
  | createTable table columns =>
      obtain ⟨tableNamed, columnsNamed⟩ := named
      unfold Statement.render
      dsimp only
      split
      · exact .append (.append (.of_isPlain rfl) tableNamed.firm) (.of_isPlain rfl)
      · have body := firm_tableBody columnsNamed (.of_isPlain rfl : Firm "\n);") (by simp)
        rw [String.append_assoc]
        exact .append (.append (.append (.of_isPlain rfl) tableNamed.firm) (.of_isPlain rfl)) body
  | addColumn table column =>
      exact .append (.append (.append (.append (.of_isPlain rfl) named.1.firm) (.of_isPlain rfl))
        named.2.isName_render.firm) (.of_isPlain rfl)
  | addPrimaryKey table constraint columns =>
      obtain ⟨tableNamed, constraintNamed, columnsNamed⟩ := named
      have list := firm_nameList columnsNamed (.of_isPlain rfl : Firm ");") (by simp)
      unfold Statement.render
      dsimp only
      rw [String.append_assoc]
      exact .append (.append (.append (.append (.append (.of_isPlain rfl) tableNamed.firm)
        (.of_isPlain rfl)) constraintNamed.firm) (.of_isPlain rfl)) list
  | addForeignKey key => exact ForeignKey.WellNamed.firm_render named
  | createView => exact absurd rfl noView
  | createTrigger => exact absurd rfl noTrigger

/-! ## Lines of triggers -/

theorem harmless_variableName (position : Nat) : Harmless (TriggerDraft.variableName position) :=
  .append (by decide) (.toString_nat position)

/-- A plus in a sum stands in front of a variable. -/
theorem firm_sum {names : List String}
    (each : ∀ name ∈ names, Firm name ∧ name.toList.head? = some 'X') :
    Firm (String.intercalate " + " names) := by
  induction names with
  | nil => simpa using Firm.empty
  | cons name rest ih =>
      have here := (each name List.mem_cons_self).1
      have there := ih fun other mem => each other (List.mem_cons_of_mem name mem)
      cases rest with
      | nil => simpa using here
      | cons next others =>
          have begins : (String.intercalate " + " (next :: others)).toList.head? = some 'X' := by
            have first := (each next (by simp)).2
            cases others with
            | nil => simpa using first
            | cons => simp [String.intercalate_cons_cons, List.head?_append, first]
          rw [String.intercalate_cons_cons, String.append_assoc]
          exact here.append (there.plus begins (by decide) (by decide))

theorem firm_sumOf (count : Nat) : Firm (sumOf (firstVariables count)) := by
  unfold sumOf
  split
  · exact .of_isPlain rfl
  · refine firm_sum fun name mem => ?_
    obtain ⟨position, _, rfl⟩ := List.mem_map.1 mem
    exact ⟨(harmless_variableName position).firm, by simp [TriggerDraft.variableName]⟩

structure RowCount.WellNamed (count : RowCount) : Prop where
  variableName : Harmless count.variableName
  table : Harmless count.table
  columns : ∀ column ∈ count.columns, Harmless column
  references : ∀ reference ∈ count.references, Harmless reference

structure TriggerRule.WellNamed (rule : TriggerRule) : Prop where
  event : Harmless rule.event
  counts : ∀ count ∈ rule.counts, count.WellNamed
  violation : Firm rule.violation

structure TriggerPlan.WellNamed (plan : TriggerPlan) : Prop where
  name : Harmless plan.name
  table : Harmless plan.table
  rules : ∀ rule ∈ plan.rules, rule.WellNamed

/-- A count compares columns with references and adds nothing up, so there is no plus for a
comparison to follow. -/
theorem RowCount.WellNamed.firm_line {count : RowCount} (named : count.WellNamed) :
    Firm count.line := by
  have pairs : Firm (String.intercalate " AND " ((count.columns.zip count.references).map
      fun pair => "c." ++ pair.1 ++ " = " ++ pair.2)) := by
    refine firm_intercalate (.of_isPlain rfl) fun text mem => ?_
    obtain ⟨pair, inPairs, rfl⟩ := List.mem_map.1 mem
    obtain ⟨inColumns, inReferences⟩ := List.of_mem_zip inPairs
    have column := (named.columns pair.1 inColumns).firm
    have reference := (named.references pair.2 inReferences).firm
    exact .append (.append (.append (.of_isPlain rfl) column) (.of_isPlain rfl)) reference
  have variableName := named.variableName.firm
  have table := named.table.firm
  exact .append (.append (.append (.append (.append (.append (.of_isPlain rfl) variableName)
    (.of_isPlain rfl)) table) (.of_isPlain rfl)) pairs) (.of_isPlain rfl)

/-- The comma of a raise stands in front of its literal. -/
theorem firm_raiseLine {condition message : String} (conditionFirm : Firm condition) (code : Int)
    (messageFirm : Firm message) : Firm (raiseLine condition code message) := by
  have quote : Firm (", '") := by
    show Firm ("," ++ " " ++ "'")
    exact .comma (by simp [isBlank]) (.of_isPlain rfl) fun behind => rfl
  have number := (Harmless.toString_int code).firm
  exact .append (.append (.append (.append (.append (.append (.of_isPlain rfl) conditionFirm)
    (.of_isPlain rfl)) number) quote) messageFirm) (.of_isPlain rfl)

theorem TriggerRule.WellNamed.firm_of_mem_lines {rule : TriggerRule} (named : rule.WellNamed)
    {message line : String} (messageFirm : Firm message) {code : Int}
    (mem : line ∈ rule.lines message code) : Firm line := by
  have tab : Firm "\t" := .of_isPlain rfl
  simp only [TriggerRule.lines, List.mem_append, List.mem_singleton, List.map_append, List.map_map,
    List.map_cons, List.map_nil, List.mem_map] at mem
  obtain (rfl | ⟨count, inCounts, rfl⟩ | rfl) | rfl := mem
  · exact .append (.append (.of_isPlain rfl) named.event.firm) (.of_isPlain rfl)
  · exact tab.append (named.counts count inCounts).firm_line
  · exact tab.append (firm_raiseLine named.violation code messageFirm)
  · exact .of_isPlain rfl

/-! ## Triggers -/

/-- The declaration of variables is made of letters, digits, blanks and semicolons. -/
theorem notMem_declaration {c : Char} (notDigit : c.isDigit = false)
    (other : c ∉ "DECLARE X number;".toList) (count : Nat) :
    c ∉ (Trigger.declaration (firstVariables count)).toList := by
  have letters : c ≠ 'X' ∧ c ∉ " ".toList ∧ c ∉ "DECLARE ".toList ∧ c ∉ " number;".toList := by
    simp_all
  obtain ⟨noX, noBlank, noKeyword, noType⟩ := letters
  have list : c ∉ (String.intercalate " "
      ((firstVariables count).map fun name => name ++ " number;")).toList := by
    refine notMem_intercalate noBlank fun text mem => ?_
    obtain ⟨_, inNames, rfl⟩ := List.mem_map.1 mem
    obtain ⟨position, _, rfl⟩ := List.mem_map.1 inNames
    rw [String.toList_append, List.mem_append, not_or]
    exact ⟨notMem_variableName notDigit noX position, noType⟩
  intro mem
  rw [Trigger.declaration, String.toList_ofList] at mem
  have inLine := mem_of_mem_dropBlanksEnd mem
  rw [String.toList_append, List.mem_append] at inLine
  exact inLine.elim noKeyword list

/-- The trigger of a well-named plan is rendered firm. -/
theorem TriggerPlan.WellNamed.firm_render {plan : TriggerPlan} (named : plan.WellNamed)
    {message : String} (harmless : Harmless message) (first : Int) :
    Firm (plan.numbered message first).render := by
  have declaration : Firm (Trigger.declaration (firstVariables plan.arity)) :=
    .of_notMem (notMem_declaration rfl (by simp) plan.arity)
      (notMem_declaration rfl (by simp) plan.arity)
  refine firm_intercalate (.of_isPlain rfl) fun line mem => ?_
  simp only [List.mem_append, List.mem_cons, List.not_mem_nil, or_false, List.mem_map] at mem
  obtain ((((rfl | rfl) | declared) | rfl) | ⟨body, inBody, rfl⟩) | rfl := mem
  · exact .append (.append (.append (.of_isPlain rfl) named.name.firm) (.of_isPlain rfl))
      named.table.firm
  · exact .of_isPlain rfl
  · unfold Trigger.declarations at declared
    split at declared
    · exact absurd declared List.not_mem_nil
    · rcases List.mem_cons.1 declared with rfl | inPragma
      · exact declaration
      · split at inPragma
        · obtain rfl := List.mem_singleton.1 inPragma
          exact .of_isPlain rfl
        · exact absurd inPragma List.not_mem_nil
  · exact .of_isPlain rfl
  · obtain ⟨lines, inBlocks, inLines⟩ := List.mem_flatten.1 inBody
    obtain ⟨rule, inRules, number, rfl⟩ := mem_numberedFrom inBlocks
    exact .append (.of_isPlain rfl)
      ((named.rules rule inRules).firm_of_mem_lines harmless.doubleQuotes.firm inLines)
  · exact .of_isPlain rfl

end EntitySchema
