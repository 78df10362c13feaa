/-
# EntitySchema.Proofs.Rendition -- a run has the outcome of its outline

Relationships are matched with their sketches last, since each depends on the
columns that the ones before it have reserved.  With them every phase follows
the numbering of its sketch (`follows_synthesize`), and so does the whole run.

`keysAfter` is the table of all keys that a run has remembered at its end; the
statements of the run are the parts of the outline for that table, one by one
(`statements_fit_outline`).
-/
import EntitySchema.Proofs.Constructs

namespace EntitySchema

open Inquiry

set_option autoImplicit false

namespace Classified

variable {d : Classified} {P : Memo → Prop}

/-! ## Relationships -/

/-- A relationship that is embedded, its triggers numbered. -/
def numberEmbedding (d : Classified) (message : String) (keys : KeyTable) (reserved : Reservations)
    (node : Construct) (how : Embedding) : Numbering (List Statement × Reservations) :=
  match planReferences (d.takenIn keys reserved how.holder.node) [how.target] with
  | [] => throw (.unpaired node)
  | reference :: _ => do
      let triggers ← (embeddingPlans node how reference).mapM (·.number message)
      return (embeddingStatements d node how reference ++ triggers.map .createTrigger,
        (how.holder.node.id, reference.columns ++ d.takenIn keys reserved how.holder.node)
          :: reserved)

/-- Whether a link leads from a relationship to an entity that takes part. -/
def leadsToParticipant (link : Link) (other : Construct) : Bool :=
  link.kind.isCardinality && other.kind.isEntity

/-- A relationship whose participants are known, its triggers numbered. -/
def numberRelationship (d : Classified) (message : String) (keys : KeyTable)
    (reserved : Reservations) (node : Construct) (participants : List KeyedEnd) :
    Numbering (Output × Reservations) :=
  let ends := participants.filter (·.link.kind.isCardinality)
  let kinds := ends.map (·.link.kind)
  match Cardinality.ofEnds? kinds with
  | none => pure ({ issues := [(Omission.unsupportedCardinality node kinds).issue] }, reserved)
  | some cardinality =>
      let keyless := (ends.filter (·.keys.isEmpty)).map (·.table)
      if !keyless.isEmpty then
        pure ({ issues := [(Omission.participantsWithoutKey node keyless).issue] }, reserved)
      else if cardinality = .manyToMany then
        pure (.emit (junctionStatements d node ends), reserved)
      else
        match pairIn? keys node (d.linksOf node.id) leadsToParticipant with
        | none => throw (.unpaired node)
        | some (first, second) => do
            let (statements, reserved) ← d.numberEmbedding message keys reserved node
              (.ofPair first second cardinality)
            return (.emit statements, reserved)

/-- An embedding lets one of the ends refer to the other. -/
theorem mem_ofPair (first second : KeyedEnd) (cardinality : Cardinality) :
    (Embedding.ofPair first second cardinality).holder ∈ [first, second] ∧
      (Embedding.ofPair first second cardinality).target ∈ [first, second] := by
  cases cardinality with
  | oneToOne =>
      by_cases single : (first.isDouble && !second.isDouble) = true <;>
        simp [Embedding.ofPair, single]
  | oneToMany | manyToMany =>
      by_cases many : first.link.kind.isToMany = true <;> simp [Embedding.ofPair, many]

/-- Entities that are paired are at far ends. -/
theorem pairIn_spec {keys : KeyTable} {node : Construct} {links : List Link}
    {accepts : Link → Construct → Bool} {first second : KeyedEnd}
    (found : pairIn? keys node links accepts = some (first, second)) :
    ∀ place ∈ [first, second], ∃ neighbour ∈ farEnds node accepts links, neighbour.2 = place.node := by
  unfold pairIn? at found
  split at found
  · rename_i one other _ ends
    simp only [Option.some.injEq, Prod.mk.injEq] at found
    obtain ⟨rfl, rfl⟩ := found
    simp [ends, KeyTable.endAt]
  · simp at found

theorem reads_leaveOut (omission : Omission) :
    Reads P (leaveOut omission) fun _ => { issues := [omission.issue] } :=
  reads_of_silent fun _ => ⟨rfl, rfl⟩

/-! ### The ends of a relationship -/

/-- The far ends are found link by link; which of them are accepted can as well be decided
afterwards. -/
theorem farEnds_eq_filter (origin : Construct) (accepts : Link → Construct → Bool)
    (links : List Link) :
    farEnds origin accepts links =
      (links.filterMap fun link => (link.otherEnd? origin.id).map fun other => (link, other)).filter
        fun neighbour => accepts neighbour.1 neighbour.2 := by
  induction links with
  | nil => rfl
  | cons link rest ih =>
      rw [farEnds] at ih ⊢
      cases atEnd : link.otherEnd? origin.id with
      | none => simpa [atEnd] using ih
      | some other =>
          by_cases accepted : accepts link other = true
          · simpa [atEnd, accepted] using ih
          · simpa [atEnd, accepted] using ih

/-- The far ends of a relationship that may be paired are its participants over
links with a cardinality; a relationship is no entity, so it is not among them. -/
theorem farEnds_relationship {node : Construct} (inNodes : node ∈ d.nodes)
    (kind : node.kind = .relationship) :
    farEnds node leadsToParticipant (d.linksOf node.id) =
      (d.participantEnds node).filter (·.1.kind.isCardinality) := by
  rw [farEnds_eq_filter, participantEnds, neighboursOf, List.filter_filter, List.filter_filter]
  refine List.filter_congr fun neighbour mem => ?_
  have apart : neighbour.2.kind.isEntity = true → neighbour.2.id ≠ node.id := by
    intro entity same
    have itself := eq_of_id_eq (mem_nodes_of_mem_neighbours mem) inNodes same
    rw [itself, kind] at entity
    simp [NodeKind.isEntity] at entity
  by_cases entity : neighbour.2.kind.isEntity = true
  · simp [leadsToParticipant, entity, apart entity]
  · simp [leadsToParticipant, entity]

theorem reads_takenColumns (reserved : Reservations) {entity : Construct}
    (answered : d.AnsweredAt P entity) :
    Reads P (takenColumns d reserved entity) fun keys => d.takenIn keys reserved entity := by
  unfold takenColumns takenIn
  cases reserved.lookup entity.id with
  | some taken => exact reads_pure taken
  | none =>
      refine reads_bind (G := fun found _ => d.attributeColumns entity ++ found.map (·.column))
        answered.reads fun keys => ?_
      exact reads_pure _

/-- Before an embedding names its column it reads what is taken in the table of the holder, which
may ask for the key of the holder once more. -/
theorem follows_embed (message : String) (reserved : Reservations) (node : Construct)
    (how : Embedding) (answered : d.AnsweredAt P how.holder.node) :
    Follows P (embed d message reserved node how) fun keys =>
      d.numberEmbedding message keys reserved node how := by
  unfold embed numberEmbedding
  refine follows_ask (G := fun taken _ =>
    match planReferences taken [how.target] with
    | [] => throw (.unpaired node)
    | reference :: _ => do
        let triggers ← (embeddingPlans node how reference).mapM (·.number message)
        return (embeddingStatements d node how reference ++ triggers.map .createTrigger,
          (how.holder.node.id, reference.columns ++ taken) :: reserved))
    (reads_takenColumns reserved answered) fun keys => ?_
  cases planReferences (d.takenIn keys reserved how.holder.node) [how.target] with
  | nil => exact follows_throw _
  | cons reference rest =>
      exact follows_bind (follows_mapM fun plan _ => follows_issue message plan) fun _ =>
        follows_pure _

/-- A relationship asks for the keys of its participants and for no others. -/
theorem follows_relationship (message : String) (reserved : Reservations) {node : Construct}
    (inNodes : node ∈ d.nodes) (kind : node.kind = .relationship)
    (near : ∀ neighbour ∈ d.participantEnds node, d.AnsweredAt P neighbour.2) :
    Follows P (relationship d message reserved node) fun keys =>
      d.numberRelationship message keys reserved node (d.participantsIn keys node) := by
  have nearEnds : ∀ neighbour ∈ farEnds node leadsToParticipant (d.linksOf node.id),
      d.AnsweredAt P neighbour.2 := by
    rw [farEnds_relationship inNodes kind]
    exact fun neighbour mem => near neighbour (List.mem_filter.1 mem).1
  unfold relationship
  refine follows_ask (G := fun participants keys =>
    d.numberRelationship message keys reserved node participants)
    (reads_participants near) fun keys => ?_
  generalize d.participantsIn keys node = participants
  unfold numberRelationship
  dsimp only
  cases Cardinality.ofEnds?
      ((participants.filter (·.link.kind.isCardinality)).map (·.link.kind)) with
  | none =>
      exact follows_bind (follows_lift (reads_leaveOut _)) fun (output : Output) =>
        follows_pure (output, reserved)
  | some cardinality =>
      dsimp only
      split
      · exact follows_bind (follows_lift (reads_leaveOut _)) fun (output : Output) =>
          follows_pure (output, reserved)
      · refine follows_note ?_
        split
        · exact follows_pure _
        · have pairs : Reads P (d.keyedPair? node (d.linksOf node.id) leadsToParticipant) fun keys =>
              pairIn? keys node (d.linksOf node.id) leadsToParticipant :=
            reads_keyedPair nearEnds
          refine follows_ask (G := fun pair? keys =>
            match pair? with
            | none => throw (.unpaired node)
            | some (first, second) => do
                let (statements, reserved) ← d.numberEmbedding message keys reserved node
                  (.ofPair first second cardinality)
                return (Output.emit statements, reserved)) pairs fun keys => ?_
          cases pair : pairIn? keys node (d.linksOf node.id) leadsToParticipant with
          | none => exact follows_throw _
          | some ends =>
              obtain ⟨first, second⟩ := ends
              obtain ⟨neighbour, mem, atHolder⟩ :=
                pairIn_spec pair _ (mem_ofPair first second cardinality).1
              have holderNear := nearEnds neighbour mem
              rw [atHolder] at holderNear
              exact follows_bind (follows_embed message reserved node _ holderNear) fun made =>
                follows_pure (Output.emit made.1, made.2)

theorem relationshipEnds_eq (keys : KeyTable) (node : Construct) :
    d.relationshipEnds keys node =
      ((d.participantEnds node).filter (·.1.kind.isCardinality)).map keys.endAt := by
  rw [relationshipEnds, participantsIn, List.filter_map]
  rfl

/-- A relationship that is not many to many has two ends. -/
theorem Cardinality.length_of_ofEnds {kinds : List ConnectionKind} {cardinality : Cardinality}
    (found : Cardinality.ofEnds? kinds = some cardinality) (notMany : cardinality ≠ .manyToMany) :
    kinds.length = 2 := by
  unfold Cardinality.ofEnds? at found
  simp only at found
  split at found
  · rename_i two
    exact two.1
  · split at found
    · rename_i two
      exact two.1
    · split at found
      · exact absurd (Option.some.inj found).symm notMany
      · simp at found

theorem junctionSketch_yields (node : Construct) (ends : List KeyedEnd) :
    (d.junctionSketch node ends).Yields (.emit (junctionStatements d node ends)) := by
  refine ⟨?_, rfl⟩
  simp only [junctionSketch, List.map_cons, map_statement_junctionParts]
  rfl

/-- An embedding whose target has a key makes one reference. -/
theorem planReferences_singleton {taken : List String} {how : Embedding}
    (keyed : how.target.keys ≠ []) :
    planReferences taken [how.target] = [embeddedReference taken how] := by
  simp [planReferences, keyed, embeddedReference]

theorem numberEmbedding_eq (message : String) (keys : KeyTable) (reserved : Reservations)
    (node : Construct) {how : Embedding} (keyed : how.target.keys ≠ []) :
    d.numberEmbedding message keys reserved node how =
      let taken := d.takenIn keys reserved how.holder.node
      let reference := embeddedReference taken how
      do
        let output ← (d.embeddingSketch node how reference).number message
        return (output.statements, (how.holder.node.id, reference.columns ++ taken) :: reserved) := by
  simp only [numberEmbedding, planReferences_singleton keyed, embeddingSketch,
    Sketch.number_of_plans message (Part.map_statement_of _ _ _), bind_assoc, pure_bind]

/-- The ends of a relationship that is not many to many are the pair that is looked for. -/
theorem exists_pair (keys : KeyTable) {node : Construct} (inNodes : node ∈ d.nodes)
    (kind : node.kind = .relationship) {cardinality : Cardinality}
    (found : Cardinality.ofEnds? ((d.relationshipEnds keys node).map (·.link.kind)) =
      some cardinality)
    (notMany : cardinality ≠ .manyToMany) :
    ∃ first second, d.relationshipEnds keys node = [first, second] ∧
      pairIn? keys node (d.linksOf node.id) leadsToParticipant = some (first, second) := by
  have two := Cardinality.length_of_ofEnds found notMany
  rw [List.length_map, relationshipEnds_eq, List.length_map] at two
  obtain ⟨first, second, neighbours⟩ := List.length_eq_two.1 two
  refine ⟨keys.endAt first, keys.endAt second, ?_, ?_⟩
  · rw [relationshipEnds_eq, neighbours]
    rfl
  · rw [pairIn?, farEnds_relationship inNodes kind, neighbours]

/-- A relationship is told apart from its participants: left out, a junction table or an embedding.
Its sketch comes to the same with the participants read off the table of keys. -/
theorem numberRelationship_eq (message : String) (keys : KeyTable) (reserved : Reservations)
    {node : Construct} (inNodes : node ∈ d.nodes) (kind : node.kind = .relationship) :
    d.numberRelationship message keys reserved node (d.participantsIn keys node) = do
      let output ← (d.relationshipSketch keys reserved node).1.number message
      return (output, (d.relationshipSketch keys reserved node).2) := by
  unfold numberRelationship relationshipSketch
  have ends : (d.participantsIn keys node).filter (·.link.kind.isCardinality) =
      d.relationshipEnds keys node := rfl
  simp only [ends]
  cases cardinalityFound :
      Cardinality.ofEnds? ((d.relationshipEnds keys node).map (·.link.kind)) with
  | none => rfl
  | some cardinality =>
      simp only
      split
      · rfl
      · rename_i keyed
        split
        · simp only [(junctionSketch_yields node _).number_eq, pure_bind]
        · rename_i notMany
          obtain ⟨first, second, listed, paired⟩ :=
            exists_pair keys inNodes kind cardinalityFound notMany
          have allKeyed : ∀ place ∈ d.relationshipEnds keys node, place.keys ≠ [] := by
            simpa using keyed
          have targetKeyed : (Embedding.ofPair first second cardinality).target.keys ≠ [] := by
            refine allKeyed _ ?_
            rw [listed]
            exact (mem_ofPair first second cardinality).2
          simp only [paired, listed, numberEmbedding_eq message keys reserved node targetKeyed,
            Sketch.number, bind_assoc, pure_bind]
          rfl

variable (answered : d.Answered P)

include answered

/-- The induction is over the relationships, with the reserved names from one to the next. -/
theorem follows_relationshipsFrom (message : String) (reserved : Reservations)
    (nodes : List Construct) (known : ∀ node ∈ nodes, node ∈ d.ofKind .relationship) :
    Follows P (relationshipsFrom d message reserved nodes) fun keys =>
      (d.relationshipSketches keys reserved nodes).mapM (·.number message) := by
  induction nodes generalizing reserved with
  | nil => exact follows_pure []
  | cons node rest ih =>
      obtain ⟨inNodes, kind⟩ := mem_ofKind_iff.1 (known node List.mem_cons_self)
      have others := fun reserved => ih reserved fun other mem =>
        known other (List.mem_cons_of_mem node mem)
      refine (follows_bind (follows_relationship message reserved inNodes kind
          (answered.participants node)) fun made =>
        follows_bind (others made.2) fun outputs => follows_pure (made.1 :: outputs)).of_eq
          fun keys => ?_
      simp only [numberRelationship_eq message keys reserved inNodes kind, relationshipSketches,
        List.mapM_cons, bind_assoc, pure_bind]

end Classified

/-! ## Phases -/

section Phases

open Classified

variable {d : Classified} {P : Memo → Prop}

theorem meets_reported {level : Level} {component : Component} {text : String} (output : Output) :
    Meets P (do note level component text; return output) fun said _ => said = output :=
  fun _ kept => ⟨.refl _, kept, fun _ _ => rfl⟩

theorem draws_entityTables (kinds : List NodeKind) :
    Draws P (entityTables d kinds) fun _ =>
      .concat ((d.ofKinds kinds.contains).map d.tableSketch) :=
  draws_note (draws_concat (fun entity _ => draws_entityTable entity) fun _ => meets_reported _)

theorem draws_derivedAttributes :
    Draws P (derivedAttributes d) fun _ =>
      .concat (d.viewSketches [] (d.ofKind .derivedAttribute)) := by
  refine draws_note ((meets_bind (meets_viewsFrom [] (d.ofKind .derivedAttribute))
    fun outputs _ _ => meets_reported (Output.concat outputs)).mono ?_)
  rintro output later ⟨outputs, drawn, rfl⟩ keys _
  have yields := @Sketch.yields_concat _ id _ _ drawn
  rwa [List.map_id] at yields

variable (answered : d.Answered P)

include answered

theorem draws_strongKeys :
    Draws P (strongKeys d) fun keys =>
      .concat ((d.ofKind .strongEntity).map (d.strongKeySketch keys)) :=
  draws_note (draws_concat (fun _ mem => draws_strongKey answered (mem_ofKind_iff.1 mem).1)
    fun _ => meets_reported _)

theorem draws_weakKeys :
    Draws P (weakKeys d) fun keys =>
      .concat ((d.ofKind .weakEntity).map (d.weakKeySketch keys)) :=
  draws_note (draws_concat (fun _ mem => draws_weakKey answered (mem_ofKind_iff.1 mem).1)
    fun _ => meets_reported _)

theorem draws_multivaluedAttributes (surrogateType : String) :
    Draws P (multivaluedAttributes d surrogateType) fun keys =>
      .concat ((d.ofKind .multivaluedAttribute).map (d.multivaluedSketch keys surrogateType)) :=
  draws_note (draws_concat (fun item _ => draws_multivaluedAttribute answered surrogateType item)
    fun _ => meets_reported _)

theorem follows_generalizations (message : String) :
    Follows P (generalizations d message) fun keys =>
      (Sketch.concat ((d.ofKinds (·.isGeneralization)).map
        (d.generalizationSketch keys))).number message := by
  have rules : Follows P ((d.ofKinds (·.isGeneralization)).mapM (generalizationRules d message))
      fun keys => (d.ofKinds (·.isGeneralization)).mapM fun generalization =>
        (d.generalizationSketch keys generalization).number message :=
    follows_mapM fun generalization _ => follows_generalizationRules answered message generalization
  refine (follows_note (follows_bind rules fun outputs =>
    follows_note (follows_pure (Output.concat outputs)))).of_eq fun keys => ?_
  rw [Sketch.number_concat, List.mapM_map]
  rfl

/-- Relationships hand their reservations on to one another and not to the associative entities
behind them, which name columns beside their own attributes alone. -/
theorem follows_relationships (message : String) :
    Follows P (relationships d message) fun keys =>
      (Sketch.concat (d.relationshipSketches keys [] (d.ofKind .relationship)
        ++ (d.ofKind .associativeEntity).map (d.associativeSketch keys))).number message := by
  have encodings : Follows P (relationshipsFrom d message [] (d.ofKind .relationship)) fun keys =>
      (d.relationshipSketches keys [] (d.ofKind .relationship)).mapM (·.number message) :=
    follows_relationshipsFrom answered message [] _ fun _ mem => mem
  have others : Follows P
      (liftM ((d.ofKind .associativeEntity).mapM (associativeEntity d)) : Issuing (List Output))
      fun keys => ((d.ofKind .associativeEntity).map (d.associativeSketch keys)).mapM
        (·.number message) :=
    follows_of_draws_mapM message fun entity _ => draws_associativeEntity answered entity
  refine (follows_note (follows_bind encodings fun encoded => follows_bind others fun associative =>
    follows_note (follows_pure (Output.concat (encoded ++ associative))))).of_eq fun keys => ?_
  simp only [Sketch.number_concat, List.mapM_append, bind_assoc, pure_bind]

/-- Every phase has the outcome of its sketch. -/
theorem follows_synthesize (settings : Settings) (phase : Phase) :
    Follows P (phase.synthesize settings d) fun keys =>
      (phase.sketch settings d keys).number settings.violationMessage := by
  cases phase with
  | tables => exact follows_of_draws _ (draws_entityTables ownedKinds)
  | primaryKeys => exact follows_of_draws _ (draws_strongKeys answered)
  | partialKeys => exact follows_of_draws _ (draws_weakKeys answered)
  | associativeEntities => exact follows_of_draws _ (draws_entityTables [.associativeEntity])
  | generalizations => exact follows_generalizations answered _
  | relationships => exact follows_relationships answered _
  | multivaluedAttributes => exact follows_of_draws _ (draws_multivaluedAttributes answered _)
  | derivedAttributes => exact follows_of_draws _ draws_derivedAttributes

/-- The phases of a run, their triggers numbered. -/
theorem follows_phases (settings : Settings) (phases : List Phase) :
    Follows P (phases.mapM (runPhase settings d)) fun keys =>
      phases.mapM fun phase => do
        return (phase, ← (phase.sketch settings d keys).number settings.violationMessage) :=
  follows_mapM fun phase _ => follows_bind (follows_synthesize answered settings phase)
    fun output => follows_note (follows_pure (phase, output))

end Phases

/-! ## Runs -/

section Runs

open Classified

variable {settings : Settings} {diagram : Diagram} {d : Classified}

/-- The outcome of a run and the run at its end. -/
def ran (settings : Settings) (diagram : Diagram) : Except CompileError CompileResult × Run :=
  outcome (runPhases settings diagram) (Run.start settings.errorCodeBase)

theorem compile_eq (settings : Settings) (diagram : Diagram) :
    compile settings diagram = (ran settings diagram).1 := by
  unfold compile compileNoted
  split
  · rename_i ended
    exact congrArg Prod.fst ended.symm
  · rename_i ended
    exact congrArg Prod.fst ended.symm

/-- A note is all that an inquiry into nothing changes. -/
def Run.noted (run : Run) (level : Level) (component : Component) (text : String) : Run :=
  { run with
    session :=
      { run.session with
        journal := run.session.journal.push { level, component, message := text } } }

theorem outcome_note (level : Level) (component : Component) (text : String) (run : Run) :
    outcome (liftM (note level component text) : Issuing Unit) run =
      (.ok (), run.noted level component text) := rfl

theorem outcome_classifyNoted (read : diagram.classify = .ok d) (run : Run) :
    ∃ after : Run, outcome (classifyNoted diagram) run = (.ok d, after) ∧
      after.session.resolved = run.session.resolved ∧ after.codes = run.codes := by
  unfold classifyNoted
  simp only [read, outcome_bind_of_ok (outcome_note _ _ _ _)]
  exact ⟨_, rfl, rfl, rfl⟩

theorem outcome_classifyNoted_of_refused {cause : ClassificationError}
    (refused : diagram.classify = .error cause) (run : Run) :
    ∃ after, outcome (classifyNoted diagram) run = (.error (.classification cause), after) := by
  unfold classifyNoted
  simp only [refused, outcome_bind_of_ok (outcome_note _ _ _ _)]
  exact ⟨_, rfl⟩

/-- A diagram that compiles can be classified. -/
theorem exists_classified {result : CompileResult}
    (compiled : compile settings diagram = .ok result) : ∃ d, diagram.classify = .ok d := by
  cases read : diagram.classify with
  | ok d => exact ⟨d, rfl⟩
  | error cause =>
      rw [compile_eq, ran, runPhases] at compiled
      simp only [outcome_bind_of_ok (outcome_note _ _ _ _)] at compiled
      obtain ⟨after, stopped⟩ := outcome_classifyNoted_of_refused read
        ((Run.start settings.errorCodeBase).noted .info .compilation
          ("Starting compilation: " ++ sizeText diagram.nodes.length diagram.connections.length))
      rw [outcome_bind_of_error stopped] at compiled
      simp at compiled

/-- A run of a diagram that can be classified is that of its phases: they start
with nothing remembered and no number handed out, and only notes are made after them. -/
theorem ran_of_classified (settings : Settings) (read : diagram.classify = .ok d) :
    ∃ before : Run, before.session.resolved = [] ∧
      before.codes = (Run.start settings.errorCodeBase).codes ∧
      ∀ said after, outcome (Phase.all.mapM (runPhase settings d)) before = (said, after) →
        (ran settings diagram).1 =
            said.map (fun outputs => CompileResult.ofOutputs outputs after.codes) ∧
          (ran settings diagram).2.session.resolved = after.session.resolved := by
  unfold ran runPhases
  simp only [outcome_bind_of_ok (outcome_note _ _ _ _)]
  obtain ⟨before, classified, forgot, unnumbered⟩ := outcome_classifyNoted read
    ((Run.start settings.errorCodeBase).noted .info .compilation
      ("Starting compilation: " ++ sizeText diagram.nodes.length diagram.connections.length))
  simp only [outcome_bind_of_ok classified]
  refine ⟨before, forgot, unnumbered, fun said after phasesRan => ?_⟩
  cases said with
  | error cause => simp only [outcome_bind_of_error phasesRan, Except.map, true_and]
  | ok outputs =>
      have got : outcome (getThe Run : Issuing Run) after = (.ok after, after) := rfl
      simp only [outcome_bind_of_ok phasesRan, outcome_bind_of_ok got, Except.map]
      split
      · exact ⟨rfl, rfl⟩
      · exact ⟨rfl, rfl⟩

/-! ### The keys of a run -/

/-- What is remembered once every key has been asked for at the end of a run. -/
def closingMemo (settings : Settings) (diagram : Diagram) (d : Classified) : Memo :=
  (d.nodes.mapM d.tableKey).memoAfter (ran settings diagram).2.session

/-- The keys of all entities as the resolver of a run knows them at its end. -/
def keysAfter (settings : Settings) (diagram : Diagram) (d : Classified) : KeyTable :=
  .ofMemo (closingMemo settings diagram d)

variable {P : Memo → Prop}

/-- What holds of an empty memo and is kept by questions holds when a run ends,
and the run has the outcome of its outline. -/
theorem run_spec (settings : Settings) (read : diagram.classify = .ok d) (answered : d.Answered P)
    (start : P []) :
    P (ran settings diagram).2.session.resolved ∧
      ∀ later, Memo.Grows (ran settings diagram).2.session.resolved later →
        ∀ keys : KeyTable, keys.Holds later →
          ∀ result, compile settings diagram = .ok result →
            List.Forall₂ Part.Fits (outline settings d keys) result.statements := by
  obtain ⟨before, forgot, _, same⟩ := ran_of_classified settings read
  cases phasesRan : outcome (Phase.all.mapM (runPhase settings d)) before with
  | mk said after =>
      obtain ⟨ended, remembers⟩ := same said after phasesRan
      obtain ⟨_, kept, follow⟩ := follows_phases answered settings Phase.all before said after
        phasesRan (forgot ▸ start)
      refine ⟨remembers ▸ kept, fun later reached keys holds result compiled => ?_⟩
      have numbered := follow later (remembers ▸ reached) keys holds
      rw [compile_eq, ended] at compiled
      cases said with
      | error cause => simp [Except.map] at compiled
      | ok outputs =>
          obtain rfl : CompileResult.ofOutputs outputs after.codes = result := by
            simpa [Except.map] using compiled
          refine List.rel_flatMap (outcome_mapM_inv numbered) ?_
          rintro phase ⟨_, output⟩ ⟨_, _, phaseRan⟩
          obtain ⟨_, _, sketched, ended⟩ := outcome_bind_inv phaseRan
          simp only [outcome_pure, Prod.mk.injEq, Except.ok.injEq] at ended
          exact ended.1.2 ▸ (Sketch.fits_of_number sketched).1

/-- What may be told of an entity: nothing, while its own key is being computed,
or what is remembered. -/
def Told (entity : Construct) (keys : List Key) (memo : Memo) : Prop :=
  keys = [] ∨ memo.lookup entity.id = some keys

/-- What was told may be told later. -/
theorem Told.mono {entity : Construct} {keys : List Key} {memo later : Memo}
    (told : Told entity keys memo) (grows : Memo.Grows memo later) : Told entity keys later :=
  told.imp_right (grows _ _ ·)

theorem answered_told (d : Classified) : d.Answered (d.Founded Told d.ids) :=
  fun entity inNodes => @meets_tableKey d Told (fun _ _ _ => .inr) (fun _ _ => True)
    (fun _ _ _ _ _ _ => trivial) (fun _ _ _ _ _ _ => .inl rfl) (fun _ _ => trivial) entity inNodes

theorem founded_nil (T : Construct → List Key → Memo → Prop) : d.Founded T d.ids [] :=
  ⟨fun _ _ => rfl, .nil⟩

/-- What holds of an empty memo and is kept by questions holds when all keys have
been asked for, and they are remembered then. -/
theorem closingMemo_spec (settings : Settings) (read : diagram.classify = .ok d)
    (answered : d.Answered P) (start : P []) :
    Memo.Grows (ran settings diagram).2.session.resolved (closingMemo settings diagram d) ∧
      P (closingMemo settings diagram d) ∧
      ∀ entity ∈ d.nodes, (closingMemo settings diagram d).lookup entity.id =
        some (keysAfter settings diagram d entity) := by
  have asked : Meets P (d.nodes.mapM d.tableKey) fun found later =>
      List.Forall₂ (fun entity keys => later.lookup entity.id = some keys) d.nodes found :=
    meets_mapM fun entity inNodes => answered entity inNodes
  obtain ⟨grows, kept, said⟩ := asked (ran settings diagram).2.session
    (run_spec settings read answered start).1
  refine ⟨grows, kept, fun entity inNodes => ?_⟩
  obtain ⟨keys, _, known⟩ := exists_of_mem_left (said _ (.refl _)) inNodes
  rw [← closingMemo] at known
  rw [known, keysAfter, KeyTable.ofMemo, known, Option.getD_some]

/-- The statements of a run are the parts of its outline, one by one. -/
theorem statements_fit_outline {result : CompileResult} (read : diagram.classify = .ok d)
    (compiled : compile settings diagram = .ok result) :
    List.Forall₂ Part.Fits (outline settings d (keysAfter settings diagram d))
      result.statements := by
  have answered := answered_told d
  have start : d.Founded Told d.ids [] := founded_nil Told
  exact (run_spec settings read answered start).2 _ (closingMemo_spec settings read answered start).1
    _ (KeyTable.ofMemo_holds _) result compiled

/-- Every key at the end of a run is computed from the others: each of them is
taken as it is, or as if there were none. -/
theorem keysAfter_computed (settings : Settings) (read : diagram.classify = .ok d)
    {entity : Construct} (inNodes : entity ∈ d.nodes) :
    d.KeyComputed (fun other keys => keys = [] ∨ keysAfter settings diagram d other = keys) entity
      (keysAfter settings diagram d entity) := by
  obtain ⟨_, founded, known⟩ :=
    closingMemo_spec settings read (answered_told d) (founded_nil Told)
  have computed := founded.built.computed (fun _ _ _ _ told => told.mono) inNodes
    (known entity inNodes)
  refine computed.mono fun other keys told => ?_
  exact told.imp_right fun remembered => KeyTable.ofMemo_holds _ _ _ remembered

end Runs

end EntitySchema
