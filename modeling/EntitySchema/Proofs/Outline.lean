/-
# EntitySchema.Proofs.Outline -- what a run emits, as a function of the keys

Once the key of every entity is known (`KeyTable`), what a run emits no longer
depends on the order of its questions.  A `Sketch` is the contribution of one
construct: its issues, and its parts in the order of the script.  A part is a
statement, a foreign key together with the construct that makes it and the
entity it refers to, or a trigger whose raises have no numbers yet.

`Phase.sketch` puts the sketches of a phase together and `outline` those of a
run.  `Sketch.number` hands out the numbers; `Part.Fits` says what that leaves of
a part.  That a run has the outcome of its outline is proved in
`EntitySchema.Proofs.Following`.
-/
import EntitySchema.Compile.Basic
import EntitySchema.Proofs.KeyTable

namespace EntitySchema

set_option autoImplicit false

/-! ## Parts -/

/-- The construct that a foreign key is made for. -/
inductive Site where
  | weakEntity (weak : Construct)
  | subtype (generalization subtype : Construct)
  | relationship (node : Construct)
  | associativeEntity (entity : Construct)
  | multivaluedAttribute (item : Construct)
  deriving DecidableEq, Repr

/-- A part of an outline. -/
inductive Part where
  | plain (statement : Statement)
  | reference (site : Site) (target : Construct) (key : ForeignKey)
  | trigger (plan : TriggerPlan)
  deriving DecidableEq, Repr

namespace Part

/-- A statement other than a trigger as a part; if it is a foreign key, it is
made at the site and refers to the target. -/
def of (site : Site) (target : Construct) : Statement → Part
  | .addForeignKey key => .reference site target key
  | statement => .plain statement

/-- The statement that a part stands for, unless it is a trigger. -/
def statement? : Part → Option Statement
  | .plain statement => some statement
  | .reference _ _ key => some (.addForeignKey key)
  | .trigger _ => none

@[simp] theorem statement?_of (site : Site) (target : Construct) (statement : Statement) :
    (of site target statement).statement? = some statement := by
  cases statement <;> rfl

/-- A statement that a part may become. -/
def Fits : Part → Statement → Prop
  | .trigger plan, statement =>
      ∃ trigger, statement = .createTrigger trigger ∧ trigger.name = plan.name ∧
        trigger.table = plan.table
  | part, statement => part.statement? = some statement

end Part

/-! ## Sketches -/

/-- What a construct contributes. -/
structure Sketch where
  parts : List Part := []
  issues : List Issue := []
  deriving DecidableEq, Repr

def Sketch.concat (sketches : List Sketch) : Sketch :=
  { parts := sketches.flatMap (·.parts), issues := sketches.flatMap (·.issues) }

/-- A construct that is left out. -/
def Omission.sketch (omission : Omission) : Sketch := { issues := [omission.issue] }

namespace Classified

/-- A strong subtype with the key that it inherits. -/
def heirOf (rootKeys : List Key) (neighbour : Link × Construct) : KeyedEnd :=
  { node := neighbour.2, link := neighbour.1
    keys := rootKeys.map (·.carriedTo (tableName neighbour.2.label)) }

@[simp] theorem heirOf_table (rootKeys : List Key) (neighbour : Link × Construct) :
    (heirOf rootKeys neighbour).table = tableName neighbour.2.label := rfl

@[simp] theorem heirOf_columns (rootKeys : List Key) (neighbour : Link × Construct) :
    (heirOf rootKeys neighbour).columns = rootKeys.map (·.foreignColumn) := by
  simp [heirOf, KeyedEnd.columns, Key.carriedTo, Function.comp_def]

variable (d : Classified) (keys : KeyTable)

/-! ### Entities -/

def tableSketch (entity : Construct) : Sketch := { parts := [.plain (d.tableStatement entity)] }

def strongKeySketch (entity : Construct) : Sketch :=
  if (d.generalizationOf? entity).isSome then {}
  else if (keys entity).isEmpty then (Omission.strongWithoutKey entity).sketch
  else
    { parts := [.plain (primaryKey (tableName entity.label) ((keys entity).map (·.column)))] }

def weakKeySketch (weak : Construct) : Sketch :=
  match d.partialKey? weak with
  | none => (Omission.weakWithoutPartialKey weak).sketch
  | some partialKey =>
      match d.ownerIn keys weak with
      | none => (Omission.weakWithoutOwner weak).sketch
      | some owner =>
          { parts :=
              (weakKeyStatements (tableName weak.label) partialKey ((keys weak).drop 1) owner).map
                (.of (.weakEntity weak) owner.node) }

/-! ### Generalizations -/

def strongSubtypes (generalization : Construct) : List KeyedEnd :=
  ((d.subtypeEnds generalization).filter (·.2.kind == .strongEntity)).map
    (heirOf (d.superclassKeys generalization))

/-- The issues about the other subtypes. -/
def otherSubtypeIssues (generalization : Construct) : List Issue :=
  ((d.subtypeEnds generalization).filter (·.2.kind != .strongEntity)).map fun (link, subtype) =>
    (Omission.subtypeNotStrong generalization subtype link).issue

/-- The keys of the strong subtypes, then the triggers. -/
def hierarchyParts (generalization : Construct) (superclass : KeyedEnd) : List Part :=
  let subtypes := d.strongSubtypes generalization
  (subtypes.flatMap fun subtype =>
      (subtypeKeyStatements superclass subtype).map
        (.of (.subtype generalization subtype.node) superclass.node))
    ++ (hierarchyPlans superclass subtypes (generalization.kind == .generalizationDisjoint)
          (d.isTotal generalization)).map .trigger

def generalizationSketch (generalization : Construct) : Sketch :=
  match d.superclassEnd? generalization with
  | none => (Omission.noSuperclass generalization).sketch
  | some above =>
      let rootKeys := d.superclassKeys generalization
      if (d.subtypeEnds generalization).isEmpty then (Omission.noSubtypes generalization).sketch
      else if rootKeys.isEmpty then
        (Omission.superclassWithoutKey generalization above.2).sketch
      else if (keys above.2).length = rootKeys.length then
        { parts :=
            if (d.strongSubtypes generalization).isEmpty then []
            else d.hierarchyParts generalization (keys.endAt above)
          issues := d.otherSubtypeIssues generalization }
      else
        { issues := d.otherSubtypeIssues generalization
            ++ [(Omission.superclassKeyUnusable generalization).issue] }

/-! ### Relationships -/

def takenIn (reserved : Reservations) (entity : Construct) : List String :=
  match reserved.lookup entity.id with
  | some taken => taken
  | none => d.attributeColumns entity ++ (keys entity).map (·.column)

/-- The foreign keys of a table that is nothing but references, and its primary key. -/
def junctionParts (site : Site) (table : String) (references : List Reference) : List Part :=
  (references.mapIdx fun position reference =>
      .reference site reference.target.node
        { table, constraint := foreignKeyName table position, columns := reference.columns,
          refTable := reference.refTable, refColumns := reference.refColumns })
    ++ [.plain (primaryKey table (references.flatMap (·.columns)))]

def junctionTable (ends : List KeyedEnd) : String :=
  String.intercalate "_" (ends.map (·.table))

def junctionSketch (node : Construct) (ends : List KeyedEnd) : Sketch :=
  let references := planReferences [] ends
  { parts :=
      .plain (.createTable (junctionTable ends)
          (referenceColumns references ++ d.storedColumns node))
        :: junctionParts (.relationship node) (junctionTable ends) references }

/-- The reference that an embedding makes while some column names are taken. -/
def embeddedReference (taken : List String) (how : Embedding) : Reference :=
  { target := how.target, columns := foreignColumns taken how.target.keys }

/-- The columns, the foreign key and the triggers of an embedding. -/
def embeddingSketch (node : Construct) (how : Embedding) (reference : Reference) : Sketch :=
  { parts :=
      (embeddingStatements d node how reference).map (.of (.relationship node) how.target.node)
        ++ (embeddingPlans node how reference).map .trigger }

/-- The participants of a relationship whose links carry a cardinality. -/
def relationshipEnds (node : Construct) : List KeyedEnd :=
  (d.participantsIn keys node).filter (·.link.kind.isCardinality)

def relationshipSketch (reserved : Reservations) (node : Construct) : Sketch × Reservations :=
  let ends := d.relationshipEnds keys node
  let kinds := ends.map (·.link.kind)
  match Cardinality.ofEnds? kinds with
  | none => ((Omission.unsupportedCardinality node kinds).sketch, reserved)
  | some cardinality =>
      let keyless := (ends.filter (·.keys.isEmpty)).map (·.table)
      if !keyless.isEmpty then ((Omission.participantsWithoutKey node keyless).sketch, reserved)
      else if cardinality = .manyToMany then (d.junctionSketch node ends, reserved)
      else
        match ends with
        | [first, second] =>
            let how := Embedding.ofPair first second cardinality
            let taken := d.takenIn keys reserved how.holder.node
            let reference := embeddedReference taken how
            (d.embeddingSketch node how reference,
              (how.holder.node.id, reference.columns ++ taken) :: reserved)
        -- the other cardinalities have two ends
        | _ => ({}, reserved)

def relationshipSketches (reserved : Reservations) : List Construct → List Sketch
  | [] => []
  | node :: rest =>
      (d.relationshipSketch keys reserved node).1
        :: relationshipSketches (d.relationshipSketch keys reserved node).2 rest

def associativeSketch (entity : Construct) : Sketch :=
  let references := d.referencesIn keys entity
  if references.isEmpty then (Omission.associativeWithoutKey entity).sketch
  else
    { parts :=
        (referenceColumns references).map (.plain ∘ .addColumn (tableName entity.label))
          ++ junctionParts (.associativeEntity entity) (tableName entity.label) references }

/-! ### Attributes -/

def multivaluedSketch (surrogateType : String) (item : Construct) : Sketch :=
  match d.ownerOf? item with
  | none => (Omission.orphanMultivalued item).sketch
  | some owner =>
      if (keys owner).isEmpty then (Omission.ownerWithoutKey item owner).sketch
      else
        { parts :=
            (childTableStatements surrogateType item owner (keys owner)).map
              (.of (.multivaluedAttribute item) owner) }

def viewSketches (used : List String) : List Construct → List Sketch
  | [] => []
  | item :: rest =>
      match d.ownerOf? item with
      | none => (Omission.orphanDerived item).sketch :: viewSketches used rest
      | some owner =>
          match queryOf? item with
          | none => (Omission.noExpression item).sketch :: viewSketches used rest
          | some query =>
              { parts := [.plain (.createView (viewName used item owner) query)] }
                :: viewSketches (viewName used item owner :: used) rest

end Classified

/-! ## Phases and runs -/

/-- What the constructs of a phase contribute, in order. -/
def Phase.sketches (settings : Settings) (d : Classified) (keys : KeyTable) : Phase → List Sketch
  | .tables => (d.ofKinds ownedKinds.contains).map d.tableSketch
  | .primaryKeys => (d.ofKind .strongEntity).map (d.strongKeySketch keys)
  | .partialKeys => (d.ofKind .weakEntity).map (d.weakKeySketch keys)
  | .associativeEntities =>
      (d.ofKinds ([NodeKind.associativeEntity].contains ·)).map d.tableSketch
  | .generalizations => (d.ofKinds (·.isGeneralization)).map (d.generalizationSketch keys)
  | .relationships =>
      d.relationshipSketches keys [] (d.ofKind .relationship)
        ++ (d.ofKind .associativeEntity).map (d.associativeSketch keys)
  | .multivaluedAttributes =>
      (d.ofKind .multivaluedAttribute).map (d.multivaluedSketch keys settings.surrogateKeyType)
  | .derivedAttributes => d.viewSketches [] (d.ofKind .derivedAttribute)

def Phase.sketch (settings : Settings) (d : Classified) (keys : KeyTable) (phase : Phase) : Sketch :=
  .concat (phase.sketches settings d keys)

/-- The phase in which a foreign key is made. -/
def Site.phase : Site → Phase
  | .weakEntity _ => .partialKeys
  | .subtype _ _ => .generalizations
  | .relationship _ | .associativeEntity _ => .relationships
  | .multivaluedAttribute _ => .multivaluedAttributes

/-- The parts of the script of a run. -/
def outline (settings : Settings) (d : Classified) (keys : KeyTable) : List Part :=
  Phase.all.flatMap fun phase => (phase.sketch settings d keys).parts

/-! ## Numbering -/

/-- A computation that only hands out numbers. -/
abbrev Numbering := ExceptT CompileError (StateM ErrorCodes)

def TriggerRule.number (draft : TriggerDraft) (rule : TriggerRule) : Numbering TriggerDraft := do
  let codes ← getThe ErrorCodes
  match rule.addTo? draft codes with
  | some (draft, codes) =>
      set codes
      return draft
  | none => throw (.codesExhausted codes)

/-- The trigger of a plan, its raises numbered in the order of the rules. -/
def TriggerPlan.number (message : String) (plan : TriggerPlan) : Numbering Trigger := do
  let draft ← plan.rules.foldlM TriggerRule.number
    ((TriggerDraft.start message).declareMany plan.arity)
  return draft.build plan.name plan.table plan.autonomous

def Part.number (message : String) : Part → Numbering Statement
  | .plain statement => return statement
  | .reference _ _ key => return .addForeignKey key
  | .trigger plan => return .createTrigger (← plan.number message)

def Sketch.number (message : String) (sketch : Sketch) : Numbering Output := do
  let statements ← sketch.parts.mapM (Part.number message)
  return { statements, issues := sketch.issues }

end EntitySchema
