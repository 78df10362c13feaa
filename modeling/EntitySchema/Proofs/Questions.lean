/-
# EntitySchema.Proofs.Questions -- which keys a run asks for

What a run remembers does not depend on its settings: the questions it asks, and
their order, are those of its diagram (`Classified.questionsOf`), and a run that
stops early has asked the first of them.  `Asks` relates a computation to its
questions.  There is one lemma for each construct, since a construct asks first and
numbers its triggers last; what a relationship asks for again is remembered by then
(`asks_relationship`).

So there is one table of keys for all runs of a diagram (`Classified.keysAsked`),
and with the outline for that table a run has no more to do than to hand out
numbers (`compile_eq_numberPhases`).
-/
import EntitySchema.Proofs.Mirroring
import EntitySchema.Proofs.Numbering

namespace EntitySchema

open Inquiry

set_option autoImplicit false

/-! ## The questions of a diagram -/

namespace Classified

/-- The questions that the synthesis of a construct asks. -/
def questionsAbout (d : Classified) (node : Construct) : Inquiry Unit :=
  match node.kind with
  | .strongEntity =>
      if (d.generalizationOf? node).isSome then return ()
      else do
        let _ ← d.tableKey node
  | .weakEntity =>
      match d.partialKey? node with
      | none => return ()
      | some _ => do
          match ← d.weakOwner? node with
          | none => return ()
          | some _ => let _ ← d.tableKey node
  | .generalizationDisjoint | .generalizationOverlap =>
      match d.superclassEnd? node with
      | none => return ()
      | some above =>
          if (d.subtypeEnds node).isEmpty || (d.superclassKeys node).isEmpty then return ()
          else (d.subtypeEnds node).forM fun neighbour => do
            let _ ← d.tableKey above.2
            let _ ← d.tableKey neighbour.2
  | .relationship => do
      let _ ← d.participants node
  | .associativeEntity => do
      let _ ← d.participants node
      let _ ← d.associativeReferences node
  | .multivaluedAttribute =>
      match d.ownerOf? node with
      | none => return ()
      | some owner => do
          let _ ← d.tableKey owner
  | _ => return ()

end Classified

/-- The constructs that a phase asks questions about, in order. -/
def Phase.asksAbout (d : Classified) : Phase → List Construct
  | .primaryKeys => d.ofKind .strongEntity
  | .partialKeys => d.ofKind .weakEntity
  | .generalizations => d.ofKinds (·.isGeneralization)
  | .relationships => d.ofKind .relationship ++ d.ofKind .associativeEntity
  | .multivaluedAttributes => d.ofKind .multivaluedAttribute
  | .tables | .associativeEntities | .derivedAttributes => []

namespace Classified

def questionsOf (d : Classified) (phases : List Phase) : Inquiry Unit :=
  phases.forM fun phase => (phase.asksAbout d).forM d.questionsAbout

/-- The keys of all entities as they are known when every question of the diagram
has been asked. -/
def keysAsked (d : Classified) : KeyTable := .ofMemo ((d.questionsOf Phase.all).memoAfter {})

end Classified

/-! ## Questions that keep a property -/

section Proper

variable {α β : Type} {P : Memo → Prop}

/-- The memo grows and keeps `P`. -/
def Proper (P : Memo → Prop) (inquiry : Inquiry α) : Prop := Meets P inquiry fun _ _ => True

theorem Inquiry.Meets.proper {inquiry : Inquiry α} {post : α → Memo → Prop}
    (meets : Meets P inquiry post) : Proper P inquiry := meets.mono fun _ _ _ => trivial

theorem proper_pure (a : α) : Proper P (pure a) := meets_pure fun _ => trivial

theorem proper_bind {first : Inquiry α} {next : α → Inquiry β} (starts : Proper P first)
    (goesOn : ∀ a, Proper P (next a)) : Proper P (first >>= next) :=
  (meets_bind starts fun a _ _ => goesOn a).proper

theorem proper_forM {items : List α} {ask : α → Inquiry Unit}
    (each : ∀ item ∈ items, Proper P (ask item)) : Proper P (items.forM ask) := by
  induction items with
  | nil => exact proper_pure ()
  | cons item rest ih =>
      exact proper_bind (each item List.mem_cons_self) fun _ =>
        ih fun other mem => each other (List.mem_cons_of_mem item mem)

namespace Classified

variable {d : Classified} (answered : d.Answered P)

include answered

theorem proper_tableKey {entity : Construct} (inNodes : entity ∈ d.nodes) :
    Proper P (do let _ ← d.tableKey entity) :=
  proper_bind (answered entity inNodes).proper fun _ => proper_pure ()

/-- The questions about one subtype of a generalization. -/
theorem proper_pair {generalization : Construct} {above neighbour : Link × Construct}
    (found : d.superclassEnd? generalization = some above)
    (mem : neighbour ∈ d.subtypeEnds generalization) :
    Proper P (do
      let _ ← d.tableKey above.2
      let _ ← d.tableKey neighbour.2) := by
  have aboveIn := mem_nodes_of_mem_neighbours (superclassEnd_spec found).1
  have belowIn := mem_nodes_of_mem_neighbours (mem_subtypeEnds_iff.1 mem).1
  exact proper_bind (answered above.2 aboveIn).proper fun _ => proper_tableKey answered belowIn

/-- Questions about a construct change what is remembered only as the key questions do that they
consist of. -/
theorem proper_questionsAbout {node : Construct} (inNodes : node ∈ d.nodes) :
    Proper P (d.questionsAbout node) := by
  have participants : Proper P (d.participants node) :=
    (reads_participants (answered.participants node)).proper
  unfold questionsAbout
  cases node.kind with
  | strongEntity =>
      dsimp only
      split
      · exact proper_pure ()
      · exact proper_tableKey answered inNodes
  | weakEntity =>
      dsimp only
      cases d.partialKey? node with
      | none => exact proper_pure ()
      | some _ =>
          refine proper_bind (reads_weakOwner answered node).proper fun owner? => ?_
          cases owner? with
          | none => exact proper_pure ()
          | some _ => exact proper_tableKey answered inNodes
  | generalizationDisjoint | generalizationOverlap =>
      dsimp only
      cases found : d.superclassEnd? node with
      | none => exact proper_pure ()
      | some above =>
          dsimp only
          split
          · exact proper_pure ()
          · exact proper_forM fun neighbour mem => proper_pair answered found mem
  | relationship => exact proper_bind participants fun _ => proper_pure ()
  | associativeEntity =>
      exact proper_bind participants fun _ =>
        proper_bind (reads_associativeReferences answered node).proper fun _ => proper_pure ()
  | multivaluedAttribute =>
      dsimp only
      cases found : d.ownerOf? node with
      | none => exact proper_pure ()
      | some owner => exact proper_tableKey answered (ownerOf_mem_nodes found).1
  | _ => exact proper_pure ()

end Classified

end Proper

/-! ## Computations and their questions -/

section Asks

variable {α β : Type} {P R : Memo → Prop}

/-- A computation that succeeds remembers what is remembered after the questions, and
one that fails remembers no more. -/
def Asks (P : Memo → Prop) (m : Issuing α) (questions : Inquiry Unit) : Prop :=
  ∀ run session, run.session.resolved = session.resolved → P session.resolved →
    ∀ result after, outcome m run = (result, after) →
      Memo.Grows after.session.resolved (questions.memoAfter session) ∧
        ∀ a, result = .ok a → after.session.resolved = questions.memoAfter session

/-- A computation that leaves the memo as it is asks nothing. -/
theorem asks_nothing {m : Issuing α}
    (silent : ∀ run, (outcome m run).2.session.resolved = run.session.resolved) :
    Asks P m (pure ()) := by
  intro run session same _ result after ran
  have untouched := silent run
  rw [ran] at untouched
  have kept : after.session.resolved = session.resolved := untouched.trans same
  exact ⟨kept ▸ .refl _, fun _ _ => kept⟩

/-- A computation that is followed whatever is kept does not touch the memo. -/
theorem silent_of_follows {m : Issuing α} {numbering : KeyTable → Numbering α}
    (follows : ∀ memo, Follows (· = memo) m numbering) (run : Run) :
    (outcome m run).2.session.resolved = run.session.resolved :=
  (follows run.session.resolved run _ _ rfl rfl).2.1

/-- The questions of two computations are asked one after the other.  If the first fails those of
the second are not asked, and no more is remembered than would have been. -/
theorem asks_bind {first : Issuing α} {next : α → Issuing β} {early late : Inquiry Unit}
    (starts : Asks P first early) (goesOn : ∀ a, Asks P (next a) late)
    (earlyProper : Proper P early) (lateProper : Proper P late) :
    Asks P (first >>= next) (early >>= fun _ => late) := by
  intro run session same kept result last ran
  obtain ⟨_, keptOn, _⟩ := earlyProper session kept
  obtain ⟨growsOn, _, _⟩ := lateProper (StateT.run early session).2 keptOn
  cases firstRan : outcome first run with
  | mk said middle =>
      obtain ⟨grows, asked⟩ := starts run session same kept said middle firstRan
      cases said with
      | ok a =>
          rw [outcome_bind_of_ok firstRan] at ran
          exact goesOn a middle (StateT.run early session).2 (asked a rfl) keptOn result last ran
      | error cause =>
          rw [outcome_bind_of_error firstRan] at ran
          obtain ⟨rfl, rfl⟩ := Prod.mk.inj ran
          exact ⟨grows.trans growsOn, fun _ failed => by simp at failed⟩

/-- What is done after the last question leaves the memo as it is. -/
theorem asks_ending {m : Issuing α} {F : α → Issuing β} {questions : Inquiry Unit}
    (asks : Asks P m questions)
    (silent : ∀ a run, (outcome (F a) run).2.session.resolved = run.session.resolved) :
    Asks P (m >>= F) questions := by
  intro run session same kept result last ran
  cases firstRan : outcome m run with
  | mk said middle =>
      obtain ⟨grows, asked⟩ := asks run session same kept said middle firstRan
      cases said with
      | ok a =>
          rw [outcome_bind_of_ok firstRan] at ran
          have untouched := silent a middle
          rw [ran] at untouched
          exact ⟨untouched ▸ grows, fun _ _ => untouched.trans (asked a rfl)⟩
      | error cause =>
          rw [outcome_bind_of_error firstRan] at ran
          obtain ⟨rfl, rfl⟩ := Prod.mk.inj ran
          exact ⟨grows, fun _ failed => by simp at failed⟩

/-- A note before the first question. -/
theorem asks_note {level : Level} {component : Component} {text : String}
    {next : Unit → Issuing β} {questions : Inquiry Unit} (asks : Asks P (next ()) questions) :
    Asks P ((liftM (note level component text) : Issuing Unit) >>= next) questions := by
  intro run session same kept result last ran
  rw [outcome_bind_of_ok (outcome_note level component text run)] at ran
  exact asks (run.noted level component text) session same kept result last ran

theorem asks_mapM {items : List α} {step : α → Issuing β} {ask : α → Inquiry Unit}
    (each : ∀ item ∈ items, Asks P (step item) (ask item))
    (proper : ∀ item ∈ items, Proper P (ask item)) :
    Asks P (items.mapM step) (items.forM ask) := by
  induction items with
  | nil => exact asks_nothing fun _ => rfl
  | cons item rest ih =>
      have properRest := fun other mem => proper other (List.mem_cons_of_mem item mem)
      have others := ih (fun other mem => each other (List.mem_cons_of_mem item mem)) properRest
      rw [List.mapM_cons]
      exact asks_bind (each item List.mem_cons_self)
        (fun b => asks_ending (F := fun found => pure (b :: found)) others fun _ _ => rfl)
        (proper item List.mem_cons_self) (proper_forM properRest)

/-! ### Inquiries -/

theorem outcome_lift (inquiry : Inquiry α) (run : Run) :
    outcome (liftM inquiry : Issuing α) run =
      (.ok (inquiry.answer run.session),
        { run with session := (StateT.run inquiry run.session).2 }) :=
  rfl

theorem lift_bind (first : Inquiry α) (next : α → Inquiry β) :
    (liftM (first >>= next) : Issuing β) = liftM first >>= fun a => liftM (next a) := rfl

theorem lift_mapM (items : List α) (ask : α → Inquiry β) :
    (liftM (items.mapM ask) : Issuing (List β)) = items.mapM fun item => liftM (ask item) := by
  induction items with
  | nil => rfl
  | cons item rest ih =>
      rw [List.mapM_cons, List.mapM_cons, lift_bind, ← ih]
      rfl

/-- An inquiry whose answer depends on the memo alone, and what is done with it. -/
theorem asks_ask {inquiry : Inquiry α} {next : α → Inquiry β} {late : α → Inquiry Unit}
    (same : Mirrors Eq id inquiry inquiry) (proper : Proper P inquiry)
    (goesOn : ∀ a, Asks P (liftM (next a) : Issuing β) (late a)) :
    Asks P (liftM (inquiry >>= next) : Issuing β) (inquiry >>= late) := by
  intro run session related kept result last ran
  obtain ⟨answered, remembered⟩ := same session run.session related.symm
  obtain ⟨_, keptOn, _⟩ := proper session kept
  rw [lift_bind, outcome_bind_of_ok (outcome_lift inquiry run), answered] at ran
  exact goesOn _ _ _ remembered.symm keptOn result last ran

end Asks

namespace Classified

variable {d : Classified} {P : Memo → Prop}

/-! ## Answers that depend on the memo alone -/

theorem mirrors_tableKey_self {entity : Construct} (inNodes : entity ∈ d.nodes) :
    Mirrors Eq id (d.tableKey entity) (d.tableKey entity) :=
  Copy.mirrors_tableKey (Copy.tracks_eq d) inNodes

theorem mirrors_weakOwner_self {weak : Construct} (inNodes : weak ∈ d.nodes) :
    Mirrors Eq id (d.weakOwner? weak) (d.weakOwner? weak) := by
  have mirrors := Copy.mirrors_weakOwner inNodes (Copy.tracks_eq d)
  have same : Option.map (Copy.refl d).place = id := Option.map_id
  rwa [same] at mirrors

theorem mirrors_participants_self {node : Construct} (inNodes : node ∈ d.nodes) :
    Mirrors Eq id (d.participants node) (d.participants node) := by
  have mirrors := Copy.mirrors_participants inNodes (Copy.tracks_eq d)
  have same : List.map (Copy.refl d).place = id := List.map_id_fun
  rwa [same] at mirrors

theorem mirrors_associativeReferences_self {entity : Construct} (inNodes : entity ∈ d.nodes) :
    Mirrors Eq id (d.associativeReferences entity) (d.associativeReferences entity) := by
  have mirrors := Copy.mirrors_associativeReferences inNodes (Copy.tracks_eq d)
  have same : List.map (Copy.refl d).reference = id := List.map_id_fun
  rwa [same] at mirrors

/-! ## Entities and attributes -/

variable (answered : d.Answered P)

include answered

theorem asks_strongKey {entity : Construct} (inNodes : entity ∈ d.nodes)
    (kind : entity.kind = .strongEntity) :
    Asks P (liftM (strongKey d entity)) (d.questionsAbout entity) := by
  simp only [strongKey, questionsAbout, kind]
  split
  · exact asks_nothing fun _ => rfl
  · refine asks_ask (mirrors_tableKey_self inNodes) (answered entity inNodes).proper fun keys => ?_
    exact asks_nothing fun run => by split <;> rfl

/-- Nothing is asked about a weak entity without a partial key.  Otherwise its owner is looked for,
and its own key only if there is one. -/
theorem asks_weakKey {weak : Construct} (inNodes : weak ∈ d.nodes)
    (kind : weak.kind = .weakEntity) :
    Asks P (liftM (weakKey d weak)) (d.questionsAbout weak) := by
  simp only [weakKey, questionsAbout, kind]
  cases d.partialKey? weak with
  | none => exact asks_nothing fun _ => rfl
  | some partialKey =>
      refine asks_ask (mirrors_weakOwner_self inNodes) (reads_weakOwner answered weak).proper
        fun owner? => ?_
      cases owner? with
      | none => exact asks_nothing fun _ => rfl
      | some owner =>
          exact asks_ask (mirrors_tableKey_self inNodes) (answered weak inNodes).proper fun _ =>
            asks_nothing fun _ => rfl

theorem asks_associativeEntity {entity : Construct} (inNodes : entity ∈ d.nodes)
    (kind : entity.kind = .associativeEntity) :
    Asks P (liftM (associativeEntity d entity)) (d.questionsAbout entity) := by
  simp only [associativeEntity, questionsAbout, kind]
  refine asks_ask (mirrors_participants_self inNodes)
    (reads_participants (answered.participants entity)).proper fun ends => ?_
  rw [lift_bind]
  refine asks_note (asks_ask (mirrors_associativeReferences_self inNodes)
    (reads_associativeReferences answered entity).proper fun references => ?_)
  exact asks_nothing fun run => by split <;> rfl

theorem asks_multivaluedAttribute (surrogateType : String) {item : Construct}
    (kind : item.kind = .multivaluedAttribute) :
    Asks P (liftM (multivaluedAttribute d surrogateType item)) (d.questionsAbout item) := by
  simp only [multivaluedAttribute, questionsAbout, kind]
  cases found : d.ownerOf? item with
  | none => exact asks_nothing fun _ => rfl
  | some owner =>
      have ownerIn := (ownerOf_mem_nodes found).1
      refine asks_ask (mirrors_tableKey_self ownerIn) (answered owner ownerIn).proper fun keys => ?_
      exact asks_nothing fun run => by split <;> rfl

/-! ## Generalizations -/

theorem asks_addSubtype {generalization : Construct} {rootKeys : List Key}
    {above : Link × Construct} (found : d.superclassEnd? generalization = some above)
    {neighbour : Link × Construct} (mem : neighbour ∈ d.subtypeEnds generalization)
    (sides : HierarchySides) :
    Asks P (liftM (addSubtype d generalization rootKeys above.1 sides neighbour.1)) (do
      let _ ← d.tableKey above.2
      let _ ← d.tableKey neighbour.2) := by
  have aboveIn := mem_nodes_of_mem_neighbours (superclassEnd_spec found).1
  have belowIn := mem_nodes_of_mem_neighbours (mem_subtypeEnds_iff.1 mem).1
  simp only [addSubtype, keyedPair?, farEnds_subtype found mem, keyedEndWith, bind_assoc, pure_bind]
  refine asks_ask (mirrors_tableKey_self aboveIn) (answered _ aboveIn).proper fun rootward => ?_
  refine asks_ask (mirrors_tableKey_self belowIn) (answered _ belowIn).proper fun own => ?_
  exact asks_nothing fun run => by split <;> rfl

/-- Each link to a subtype asks for the superclass and then for the subtype. -/
theorem asks_addSubtypes {generalization : Construct} {rootKeys : List Key}
    {above : Link × Construct} (found : d.superclassEnd? generalization = some above)
    (ends : List (Link × Construct))
    (known : ∀ neighbour ∈ ends, neighbour ∈ d.subtypeEnds generalization)
    (sides : HierarchySides) :
    Asks P
      (liftM ((ends.map (·.1)).foldlM (addSubtype d generalization rootKeys above.1) sides))
      (ends.forM fun neighbour => do
        let _ ← d.tableKey above.2
        let _ ← d.tableKey neighbour.2) := by
  induction ends generalizing sides with
  | nil => exact asks_nothing fun _ => rfl
  | cons neighbour rest ih =>
      simp only [List.map_cons, List.foldlM_cons, lift_bind]
      have mem := known neighbour List.mem_cons_self
      have knownRest := fun other mem => known other (List.mem_cons_of_mem neighbour mem)
      exact asks_bind (asks_addSubtype answered found mem sides) (ih knownRest)
        (proper_pair answered found mem)
        (proper_forM fun other mem => proper_pair answered found (knownRest other mem))

/-- A generalization asks only once its root is known to have a key, and then about all its links.
-/
theorem asks_generalizationRules (message : String) {generalization : Construct}
    (kind : generalization.kind.isGeneralization = true) :
    Asks P (generalizationRules d message generalization) (d.questionsAbout generalization) := by
  have asks : Asks P (generalizationRules d message generalization)
      (match d.superclassEnd? generalization with
        | none => return ()
        | some above =>
            if (d.subtypeEnds generalization).isEmpty || (d.superclassKeys generalization).isEmpty
            then return ()
            else (d.subtypeEnds generalization).forM fun neighbour => do
              let _ ← d.tableKey above.2
              let _ ← d.tableKey neighbour.2) := by
    unfold generalizationRules
    cases found : d.superclassEnd? generalization with
    | none => exact asks_nothing fun _ => rfl
    | some above =>
        by_cases childless : (d.subtypeEnds generalization).isEmpty = true
        · simp only [List.isEmpty_map, childless, Bool.true_or, if_true]
          exact asks_nothing fun _ => rfl
        by_cases keyless : (d.superclassKeys generalization).isEmpty = true
        · simp only [List.isEmpty_map, keyless, Bool.or_true, if_true, if_neg childless]
          exact asks_nothing fun _ => rfl
        have asked : ((d.subtypeEnds generalization).isEmpty
            || (d.superclassKeys generalization).isEmpty) = false := by
          simp only [childless, keyless, Bool.or_self]
        simp only [List.isEmpty_map, if_neg childless, if_neg keyless, asked, Bool.false_eq_true,
          if_false]
        refine asks_ending (asks_addSubtypes answered found (d.subtypeEnds generalization)
          (fun _ mem => mem) {}) fun sides run => ?_
        cases sides.superclass.filter
            (·.keys.length == (d.superclassKeys generalization).length) with
        | none => rfl
        | some superclass =>
            dsimp only
            split
            · rfl
            · exact silent_of_follows (fun _ => follows_bind (follows_hierarchyStatements message
                generalization superclass sides.subtypes) fun statements =>
                  follows_pure (Output.mk statements sides.issues)) run
  unfold questionsAbout
  cases known : generalization.kind with
  | generalizationDisjoint | generalizationOverlap => exact asks
  | _ =>
      rw [known] at kind
      simp [NodeKind.isGeneralization] at kind

/-! ## Relationships -/

omit answered in
/-- What is remembered is answered without being asked for again. -/
theorem answeredAt_of_known {entity : Construct} {memo : Memo} {keys : List Key}
    (known : memo.lookup entity.id = some keys) : d.AnsweredAt (· = memo) entity := by
  rintro session rfl
  simp only [answer, memoAfter, tableKey, keyAmong_of_known known]
  exact ⟨.refl _, trivial, fun later grows => grows _ _ known⟩

omit answered in
/-- Participants whose keys are remembered are found without asking. -/
theorem run_participants_of_known {keys : KeyTable} {session : Session} {node : Construct}
    (known : ∀ neighbour ∈ d.participantEnds node,
      session.resolved.lookup neighbour.2.id = some (keys neighbour.2)) :
    StateT.run (d.participants node) session = (d.participantsIn keys node, session) := by
  have each : ∀ neighbour ∈ d.participantEnds node,
      StateT.run (keyedEndWith d.tableKey neighbour) session = (keys.endAt neighbour, session) := by
    intro neighbour mem
    rw [keyedEndWith, StateT.run_bind, tableKey, keyAmong_of_known (known neighbour mem)]
    rfl
  unfold participants participantsWith participantsIn
  generalize d.participantEnds node = ends at each
  clear known
  induction ends with
  | nil => rfl
  | cons neighbour rest ih =>
      have others := ih fun other mem => each other (List.mem_cons_of_mem neighbour mem)
      rw [List.mapM_cons, StateT.run_bind, each neighbour List.mem_cons_self]
      show StateT.run (rest.mapM (keyedEndWith d.tableKey) >>= fun found =>
        pure (keys.endAt neighbour :: found)) session = _
      rw [StateT.run_bind, others]
      rfl

/-- After the keys of its participants a relationship asks for nothing new: it might as
well start when they are remembered, and then the memo stays as it is. -/
theorem memo_relationship (message : String) (reserved : Reservations) {node : Construct}
    (inNodes : node ∈ d.nodes) (kind : node.kind = .relationship) {run last : Run}
    {result : Except CompileError (Output × Reservations)}
    (ran : outcome (relationship d message reserved node) run = (result, last))
    (kept : P run.session.resolved) :
    last.session.resolved = (d.participants node).memoAfter run.session := by
  have told : Meets P (d.participants node) fun ends later =>
      List.Forall₂ (EndTells fun entity keys => later.lookup entity.id = some keys)
        (d.participantEnds node) ends :=
    meets_participantsWith (answered.participants node)
  obtain ⟨_, _, said⟩ := told run.session kept
  let middle := (StateT.run (d.participants node) run.session).2
  have known : ∀ neighbour ∈ d.participantEnds node, middle.resolved.lookup neighbour.2.id =
      some (KeyTable.ofMemo middle.resolved neighbour.2) := by
    intro neighbour mem
    obtain ⟨place, _, _, _, found⟩ := exists_of_mem_left (said _ (.refl _)) mem
    have remembered : middle.resolved.lookup neighbour.2.id = some place.keys := found
    rw [KeyTable.ofMemo, remembered, Option.getD_some]
  have ends : (d.participants node).answer run.session =
      d.participantsIn (.ofMemo middle.resolved) node :=
    (reads_participants (answered.participants node) run.session kept).2.2 _ (.refl _) _
      (KeyTable.ofMemo_holds _)
  have early : outcome (liftM (d.participants node) : Issuing (List KeyedEnd)) run =
      (.ok (d.participantsIn (.ofMemo middle.resolved) node), { run with session := middle }) := by
    rw [← ends]
    rfl
  have late : outcome (liftM (d.participants node) : Issuing (List KeyedEnd))
      { run with session := middle } =
        (.ok (d.participantsIn (.ofMemo middle.resolved) node),
          { run with session := middle }) := by
    rw [outcome_lift, answer, run_participants_of_known known]
  have again : outcome (relationship d message reserved node) { run with session := middle } =
      (result, last) := by
    rw [← ran, relationship, outcome_bind_of_ok early, outcome_bind_of_ok late]
  exact (follows_relationship message reserved inNodes kind
    (fun neighbour mem => answeredAt_of_known (known neighbour mem))
    { run with session := middle } result last again rfl).2.1

theorem asks_relationship (message : String) (reserved : Reservations) {node : Construct}
    (inNodes : node ∈ d.nodes) (kind : node.kind = .relationship) :
    Asks P (relationship d message reserved node) (d.questionsAbout node) := by
  simp only [questionsAbout, kind]
  intro run session same kept result last ran
  rw [← same] at kept
  have asked := (mirrors_participants_self inNodes run.session session same).2
  have remembers : last.session.resolved = memoAfter (d.participants node) session :=
    (memo_relationship answered message reserved inNodes kind ran kept).trans asked
  exact ⟨remembers ▸ .refl _, fun _ _ => remembers⟩

/-- The names that are reserved go from one relationship to the next and have no part in what is
asked. -/
theorem asks_relationshipsFrom (message : String) (reserved : Reservations)
    (nodes : List Construct) (known : ∀ node ∈ nodes, node ∈ d.ofKind .relationship) :
    Asks P (relationshipsFrom d message reserved nodes) (nodes.forM d.questionsAbout) := by
  induction nodes generalizing reserved with
  | nil => exact asks_nothing fun _ => rfl
  | cons node rest ih =>
      obtain ⟨inNodes, kind⟩ := mem_ofKind_iff.1 (known node List.mem_cons_self)
      have knownRest := fun other mem => known other (List.mem_cons_of_mem node mem)
      exact asks_bind (asks_relationship answered message reserved inNodes kind)
        (fun made => asks_ending (F := fun outputs => pure (made.1 :: outputs))
          (ih made.2 knownRest) fun _ _ => rfl)
        (proper_questionsAbout answered inNodes)
        (proper_forM fun other mem =>
          proper_questionsAbout answered (mem_ofKind_iff.1 (knownRest other mem)).1)

/-! ## Phases -/

/-- A phase that goes through some constructs with notes around them. -/
theorem asks_constructs {α : Type} {nodes : List Construct} {step : Construct → Inquiry Output}
    {level : Level} {component : Component} {text : String} {next : List Output → Inquiry α}
    (inNodes : ∀ node ∈ nodes, node ∈ d.nodes)
    (each : ∀ node ∈ nodes, Asks P (liftM (step node)) (d.questionsAbout node))
    (silent : ∀ outputs session, (next outputs).memoAfter session = session.resolved) :
    Asks P
      (liftM (note level component text >>= fun _ => nodes.mapM step >>= next) : Issuing α)
      (nodes.forM d.questionsAbout) := by
  rw [lift_bind]
  refine asks_note ?_
  rw [lift_bind, lift_mapM]
  exact asks_ending (asks_mapM each fun node mem =>
    proper_questionsAbout answered (inNodes node mem)) fun outputs run => silent outputs run.session

theorem asks_generalizations (message : String) :
    Asks P (generalizations d message) ((d.ofKinds (·.isGeneralization)).forM d.questionsAbout) :=
  asks_note (asks_ending
    (asks_mapM
      (fun _ mem => asks_generalizationRules answered message (mem_ofKinds_iff.1 mem).2)
      fun _ mem => proper_questionsAbout answered (mem_ofKinds_iff.1 mem).1)
    fun _ _ => rfl)

/-- Relationships come before associative entities, in the questions as in the script. -/
theorem asks_relationships (message : String) :
    Asks P (relationships d message)
      ((d.ofKind .relationship ++ d.ofKind .associativeEntity).forM d.questionsAbout) := by
  have proper : ∀ kind, Proper P ((d.ofKind kind).forM d.questionsAbout) := fun kind =>
    proper_forM fun _ mem => proper_questionsAbout answered (mem_ofKind_iff.1 mem).1
  have associative : Asks P (liftM ((d.ofKind .associativeEntity).mapM (associativeEntity d)))
      ((d.ofKind .associativeEntity).forM d.questionsAbout) := by
    rw [lift_mapM]
    refine asks_mapM (fun entity mem => ?_) fun _ mem =>
      proper_questionsAbout answered (mem_ofKind_iff.1 mem).1
    obtain ⟨inNodes, kind⟩ := mem_ofKind_iff.1 mem
    exact asks_associativeEntity answered inNodes kind
  have joined : (d.ofKind .relationship ++ d.ofKind .associativeEntity).forM d.questionsAbout =
      (do
        (d.ofKind .relationship).forM d.questionsAbout
        (d.ofKind .associativeEntity).forM d.questionsAbout) := List.forM_append
  rw [joined]
  exact asks_note (asks_bind
    (asks_relationshipsFrom answered message [] (d.ofKind .relationship) fun _ mem => mem)
    (fun _ => asks_ending associative fun _ _ => rfl) (proper _) (proper _))

omit answered in
theorem mem_nodes_of_mem_asksAbout {phase : Phase} {node : Construct}
    (mem : node ∈ phase.asksAbout d) : node ∈ d.nodes := by
  cases phase with
  | primaryKeys | partialKeys | multivaluedAttributes => exact (mem_ofKind_iff.1 mem).1
  | generalizations => exact (mem_ofKinds_iff.1 mem).1
  | relationships =>
      obtain related | associative := List.mem_append.1 mem
      · exact (mem_ofKind_iff.1 related).1
      · exact (mem_ofKind_iff.1 associative).1
  | tables | associativeEntities | derivedAttributes => exact absurd mem List.not_mem_nil

/-- What a phase remembers is told by its constructs alone: neither the settings nor the numbers
matter to it. -/
theorem asks_synthesize (settings : Settings) (phase : Phase) :
    Asks P (phase.synthesize settings d) ((phase.asksAbout d).forM d.questionsAbout) := by
  have inNodes : ∀ kind, ∀ node ∈ d.ofKind kind, node ∈ d.nodes :=
    fun _ node mem => (mem_ofKind_iff.1 mem).1
  have ofKind : ∀ {kind node}, node ∈ d.ofKind kind → node.kind = kind :=
    fun mem => (mem_ofKind_iff.1 mem).2
  cases phase with
  | tables =>
      exact asks_nothing (silent_of_follows fun _ => follows_of_draws "" (draws_entityTables _))
  | primaryKeys =>
      exact asks_constructs answered (inNodes _)
        (fun node mem => asks_strongKey answered (inNodes _ node mem) (ofKind mem)) fun _ _ => rfl
  | partialKeys =>
      exact asks_constructs answered (inNodes _)
        (fun node mem => asks_weakKey answered (inNodes _ node mem) (ofKind mem)) fun _ _ => rfl
  | associativeEntities =>
      exact asks_nothing (silent_of_follows fun _ => follows_of_draws "" (draws_entityTables _))
  | generalizations => exact asks_generalizations answered settings.violationMessage
  | relationships => exact asks_relationships answered settings.violationMessage
  | multivaluedAttributes =>
      exact asks_constructs answered (inNodes _)
        (fun node mem => asks_multivaluedAttribute answered _ (ofKind mem)) fun _ _ => rfl
  | derivedAttributes =>
      exact asks_nothing (silent_of_follows fun _ => follows_of_draws "" draws_derivedAttributes)

theorem asks_phases (settings : Settings) (phases : List Phase) :
    Asks P (phases.mapM (runPhase settings d)) (d.questionsOf phases) := by
  refine asks_mapM (fun phase _ => asks_ending (asks_synthesize answered settings phase)
    fun _ _ => rfl) fun phase _ => proper_forM fun node mem => ?_
  exact proper_questionsAbout answered (mem_nodes_of_mem_asksAbout mem)

end Classified

/-! ## Questions about copies -/

namespace Classified.Copy

variable {d e : Classified} {copy : Copy d e} {S : Memo → Memo → Prop} (tracks : copy.Tracks S)

include tracks

theorem mirrors_asked {item : Construct} (inNodes : item ∈ d.nodes) :
    Mirrors S id (do let _ ← d.tableKey item) (do let _ ← e.tableKey (copy.node item)) :=
  mirrors_bind (mirrors_tableKey tracks inNodes) fun _ => mirrors_pure rfl

/-- The questions about a copy are those about the original. -/
theorem mirrors_questionsAbout {item : Construct} (inNodes : item ∈ d.nodes) :
    Mirrors S id (d.questionsAbout item) (e.questionsAbout (copy.node item)) := by
  have nothing : Mirrors S id (pure ()) (pure ()) := mirrors_pure rfl
  have participants := mirrors_participants inNodes tracks
  simp only [questionsAbout, node_kind, copy.generalizationOf_node inNodes,
    copy.partialKey_node inNodes, copy.superclassEnd_node inNodes, copy.subtypeEnds_node inNodes,
    copy.superclassKeys_node inNodes, copy.ownerOf_node inNodes, Option.isSome_map,
    List.isEmpty_map]
  cases item.kind with
  | strongEntity =>
      dsimp only
      split
      · exact nothing
      · exact mirrors_asked tracks inNodes
  | weakEntity =>
      dsimp only
      cases d.partialKey? item with
      | none => exact nothing
      | some _ =>
          refine mirrors_bind (mirrors_weakOwner inNodes tracks) fun owner? => ?_
          cases owner? with
          | none => exact nothing
          | some _ => exact mirrors_asked tracks inNodes
  | generalizationDisjoint | generalizationOverlap =>
      dsimp only
      cases found : d.superclassEnd? item with
      | none => exact nothing
      | some above =>
          have aboveIn := mem_nodes_of_mem_neighbours (superclassEnd_spec found).1
          dsimp only [Option.map_some]
          split
          · exact nothing
          · refine mirrors_forM fun neighbour mem => ?_
            have belowIn := mem_nodes_of_mem_neighbours (mem_subtypeEnds_iff.1 mem).1
            exact mirrors_bind (mirrors_tableKey tracks aboveIn) fun _ =>
              mirrors_asked tracks belowIn
  | relationship => exact mirrors_bind participants fun _ => nothing
  | associativeEntity =>
      exact mirrors_bind participants fun _ =>
        mirrors_bind (mirrors_associativeReferences inNodes tracks) fun _ => nothing
  | multivaluedAttribute =>
      dsimp only
      cases found : d.ownerOf? item with
      | none => exact nothing
      | some owner => exact mirrors_asked tracks (ownerOf_mem_nodes found).1
  | _ => exact nothing

end Classified.Copy

/-! ## Runs -/

open Classified

variable {settings : Settings} {diagram : Diagram} {d : Classified}

/-- A run has the outcome of the phases of its outline for the keys that its diagram
asks for. -/
theorem compile_eq_numberPhases (settings : Settings) (read : diagram.classify = .ok d) :
    ∃ said after, outcome (numberPhases settings d d.keysAsked Phase.all)
        (Run.start settings.errorCodeBase).codes = (said, after) ∧
      compile settings diagram = said.map (CompileResult.ofOutputs · after) := by
  obtain ⟨before, forgot, unnumbered, same⟩ := ran_of_classified settings read
  cases phasesRan : outcome (Phase.all.mapM (runPhase settings d)) before with
  | mk said after =>
      obtain ⟨_, _, follow⟩ := follows_phases (answered_told d) settings Phase.all before said after
        phasesRan (forgot ▸ founded_nil Told)
      obtain ⟨grows, _⟩ := asks_phases (answered_told d) settings Phase.all before {} forgot
        (founded_nil Told) said after phasesRan
      have ended := (compile_eq settings diagram).trans (same said after phasesRan).1
      refine ⟨said, after.codes, ?_, ended⟩
      rw [← unnumbered]
      exact follow _ grows _ (KeyTable.ofMemo_holds _)

/-- A diagram compiles as long as there are numbers for all raises, and the result is
its outline, numbered from the base. -/
theorem compile_eq_ok_iff {result : CompileResult} (read : diagram.classify = .ok d) :
    compile settings diagram = .ok result ↔
      (Run.start settings.errorCodeBase).codes.Room (raisesOf settings d d.keysAsked Phase.all) ∧
        result = .ofOutputs
          (numberedPhases settings d d.keysAsked Phase.all settings.errorCodeBase)
          ((Run.start settings.errorCodeBase).codes.advance
            (raisesOf settings d d.keysAsked Phase.all)) := by
  obtain ⟨said, after, ended, same⟩ := compile_eq_numberPhases settings read
  constructor
  · exact fun made => eq_ofOutputs_of_outcome ended (same.symm.trans made)
  · rintro ⟨room, rfl⟩
    have numbers := numbers_phases settings d d.keysAsked Phase.all
    obtain ⟨rfl, rfl⟩ := Prod.mk.inj ((numbers.enough _ room).symm.trans ended)
    rw [same, next_start]
    rfl

end EntitySchema
