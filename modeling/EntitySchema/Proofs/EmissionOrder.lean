/-
# EntitySchema.Proofs.EmissionOrder -- what a foreign key finds above it

A script is written phase by phase, and each phase in the order of the diagram;
nothing is sorted by what refers to what.  Still most foreign keys find the table
that they refer to above them, and its key columns.  `Late` lists those that may
not, and `reference_ready` says that the others do.  `unordered` has a late foreign
key of each sort.

Where a part stands in an outline says what stands above it (`Stands`): all phases
before its own, all sketches before its own and the head of its own.
-/
import EntitySchema.Proofs.PrimaryKeys

namespace EntitySchema

set_option autoImplicit false

/-! ## Lists cut at an element -/

section Cuts

variable {α β : Type}

/-- A cut in the contributions of items falls into the contribution of one item, so that what stands
before it is that of all earlier items and a part of this one. -/
theorem exists_of_flatMap_eq {items : List α} {contribution : α → List β}
    {before after : List β} {b : β} (cut : items.flatMap contribution = before ++ b :: after) :
    ∃ earlier item later front back, items = earlier ++ item :: later ∧
      contribution item = front ++ b :: back ∧
      before = earlier.flatMap contribution ++ front := by
  induction items generalizing before with
  | nil => simp at cut
  | cons item rest ih =>
      rw [List.flatMap_cons, List.append_eq_append_iff] at cut
      have inRest : ∀ {more : List β}, rest.flatMap contribution = more ++ b :: after →
          before = contribution item ++ more →
          ∃ earlier other later front back, item :: rest = earlier ++ other :: later ∧
            contribution other = front ++ b :: back ∧
            before = earlier.flatMap contribution ++ front := by
        intro more cut same
        obtain ⟨earlier, other, later, front, back, rfl, found, rfl⟩ := ih cut
        exact ⟨item :: earlier, other, later, front, back, rfl, found, by simp [same]⟩
      obtain ⟨more, same, cut⟩ | ⟨back, same, cut⟩ := cut
      · exact inRest cut same
      · cases back with
        | nil =>
            refine inRest ?_ (by simpa using same.symm : before = contribution item ++ [])
            simpa using cut.symm
        | cons first back =>
            obtain ⟨rfl, _⟩ := List.cons.inj cut
            exact ⟨[], item, rest, before, back, rfl, same, rfl⟩

/-- What is appended before the element stands before the cut. -/
theorem subset_of_append_eq {first second before after : List α} {a : α}
    (cut : first ++ second = before ++ a :: after) (absent : a ∉ first) : first ⊆ before := by
  obtain ⟨more, rfl, _⟩ | ⟨more, rfl, rest⟩ := List.append_eq_append_iff.1 cut
  · exact List.subset_append_left first more
  · cases more with
    | nil => simp
    | cons other more =>
        obtain ⟨rfl, _⟩ := List.cons.inj rest
        simp at absent

/-- A cut in the first of two lists. -/
theorem exists_of_append_eq {first second before after : List α} {a : α}
    (cut : first ++ second = before ++ a :: after) (absent : a ∉ second) :
    ∃ back, first = before ++ a :: back := by
  obtain ⟨more, rfl, found⟩ | ⟨more, rfl, rest⟩ := List.append_eq_append_iff.1 cut
  · simp [found] at absent
  · cases more with
    | nil =>
        obtain rfl : a :: after = second := by simpa using rest
        simp at absent
    | cons other more =>
        obtain ⟨rfl, _⟩ := List.cons.inj rest
        exact ⟨more, rfl⟩

variable [DecidableEq α]

theorem mem_of_idxOf_lt {items before after : List α} {a b : α}
    (cut : items = before ++ a :: after) (ahead : items.idxOf b < items.idxOf a) : b ∈ before := by
  by_contra absent
  have late : before.length ≤ items.idxOf b := by
    rw [cut, List.idxOf_append_of_notMem absent]
    omega
  have soon : items.idxOf a ≤ before.length := by
    by_cases inside : a ∈ before
    · rw [cut, List.idxOf_append_of_mem inside]
      exact Nat.le_of_lt (List.idxOf_lt_length_of_mem inside)
    · simp [cut, List.idxOf_append_of_notMem inside]
  omega

theorem mem_of_filter_eq {items before after : List α} {chosen : α → Bool} {a b : α}
    (cut : items.filter chosen = before ++ a :: after) (holds : chosen b = true)
    (ahead : items.idxOf b < items.idxOf a) : b ∈ before := by
  obtain ⟨first, second, rfl, rfl, next⟩ := List.filter_eq_append_iff.1 cut
  obtain ⟨skipped, rest, rfl, none, _, _⟩ := List.filter_eq_cons_iff.1 next
  have mem : b ∈ first ++ skipped :=
    mem_of_idxOf_lt (List.append_assoc first skipped (a :: rest)).symm ahead
  rcases List.mem_append.1 mem with inFirst | inSkipped
  · exact List.mem_filter.2 ⟨inFirst, holds⟩
  · exact absurd holds (none b inSkipped)

end Cuts

namespace Classified

variable {settings : Settings} {d : Classified} {keys : KeyTable}

/-! ## Places in an outline -/

/-- The part stands in a phase, there after the sketches `front` and after the
parts `head` of its own sketch; all that comes first is among the parts before it. -/
structure Stands (settings : Settings) (d : Classified) (keys : KeyTable) (before : List Part)
    (part : Part) (phase : Phase) (front : List Sketch) (sketch : Sketch) (head : List Part) :
    Prop where
  inPhase : ∃ back, phase.sketches settings d keys = front ++ sketch :: back
  inSketch : ∃ tail, sketch.parts = head ++ part :: tail
  phases_subset : ∀ earlier : Phase, Phase.all.idxOf earlier < Phase.all.idxOf phase →
    ∀ other ∈ earlier.sketches settings d keys, other.parts ⊆ before
  front_subset : ∀ other ∈ front, other.parts ⊆ before
  head_subset : head ⊆ before

/-- Every part of an outline stands somewhere.  The cut is made twice, first between phases and then
between the sketches of one. -/
theorem exists_stands {before after : List Part} {part : Part}
    (cut : outline settings d keys = before ++ part :: after) :
    ∃ phase front sketch head, Stands settings d keys before part phase front sketch head := by
  obtain ⟨phases, phase, laterPhases, inThis, _, allPhases, found, rfl⟩ := exists_of_flatMap_eq cut
  obtain ⟨front, sketch, back, head, tail, inPhase, inSketch, rfl⟩ := exists_of_flatMap_eq found
  refine ⟨phase, front, sketch, head, ⟨back, inPhase⟩, ⟨tail, inSketch⟩, ?_, ?_, ?_⟩
  · intro earlier ahead other inEarlier part mem
    refine List.mem_append_left _ (List.mem_flatMap.2 ⟨earlier, ?_, ?_⟩)
    · exact mem_of_idxOf_lt allPhases ahead
    · exact List.mem_flatMap.2 ⟨other, inEarlier, mem⟩
  · intro other inFront part mem
    exact List.mem_append_right _ (List.mem_append_left _
      (List.mem_flatMap.2 ⟨other, inFront, mem⟩))
  · intro part mem
    exact List.mem_append_right _ (List.mem_append_right _ mem)

variable {before after : List Part} {site : Site} {target : Construct} {key : ForeignKey}
  {phase : Phase} {front : List Sketch} {sketch : Sketch} {head : List Part}

theorem Stands.mem_sketches {part : Part}
    (stands : Stands settings d keys before part phase front sketch head) :
    sketch ∈ phase.sketches settings d keys := by
  obtain ⟨back, inPhase⟩ := stands.inPhase
  simp [inPhase]

/-- A foreign key stands in the phase of its site. -/
theorem Stands.refers
    (stands : Stands settings d keys before (.reference site target key) phase front sketch head) :
    site.phase = phase ∧ d.Refers keys sketch site target key := by
  obtain ⟨tail, inSketch⟩ := stands.inSketch
  have mem : Part.reference site target key ∈ sketch.parts := by simp [inSketch]
  have makes : (Part.reference site target key).MakesKey key := rfl
  obtain ⟨_, _, same, inPhase, refers⟩ := makes_of_mem_sketch stands.mem_sketches mem makes
  obtain ⟨rfl, rfl, _⟩ := Part.reference.inj same
  exact ⟨inPhase, refers⟩

theorem tables_before (site : Site) : Phase.all.idxOf .tables < Phase.all.idxOf site.phase := by
  cases site <;> rw [Site.phase] <;> decide

theorem associativeEntities_before (ordered : site.phase ≠ .partialKeys) :
    Phase.all.idxOf .associativeEntities < Phase.all.idxOf site.phase := by
  cases site with
  | weakEntity => exact absurd rfl ordered
  | _ => rw [Site.phase]; decide

/-- The tables of entities stand before the foreign keys, but those of associative
entities after the keys of weak entities. -/
theorem Stands.table_subset
    (stands : Stands settings d keys before (.reference site target key) phase front sketch head)
    {entity : Construct} (inNodes : entity ∈ d.nodes) (isEntity : entity.kind.isEntity = true)
    (ordered : entity.kind = .associativeEntity → site.phase ≠ .partialKeys) :
    (d.tableSketch entity).parts ⊆ before := by
  refine stands.phases_subset _ ?_ _ (tableSketch_mem_sketches inNodes isEntity)
  rw [← stands.refers.1]
  split
  · rename_i associative
    exact associativeEntities_before (ordered associative)
  · exact tables_before site

/-! ## Columns that stand before -/

theorem map_of_addKeyColumns (maker : Site) (referred : Construct) (table : String)
    (taken : List Key) :
    (addKeyColumns table taken).map (Part.of maker referred) =
      (addKeyColumns table taken).map .plain := by
  simp [addKeyColumns, Part.of]

/-- The columns of a key stand before the foreign key that follows them. -/
theorem columns_subset {table : String} {taken : List Key} {rest : List Statement}
    {maker : Site} {referred : Construct} {tail : List Part}
    (cut : (addKeyColumns table taken ++ rest).map (Part.of maker referred) =
      head ++ .reference site target key :: tail) :
    (addKeyColumns table taken).map Part.plain ⊆ head := by
  rw [List.map_append, map_of_addKeyColumns] at cut
  exact subset_of_append_eq cut (by simp)

theorem mem_of_takenOver {weak : Construct} {table column : String} {sqlType : Option String}
    (introduces : Introduces (takenOver keys weak) table column sqlType) :
    column ∈ ((keys weak).drop 1).map (·.column) := by
  obtain ⟨statement, mem, declares⟩ := introduces
  obtain ⟨_, added, same⟩ := List.mem_map.1 mem
  obtain ⟨taken, inKeys, rfl⟩ := List.mem_map.1 added
  obtain rfl := Part.plain.inj same
  obtain ⟨_, rfl, _⟩ := declares
  exact List.mem_map_of_mem inKeys

/-- The columns that a weak entity takes over stand before its foreign key. -/
theorem takenOver_subset_head {weak : Construct} {tail : List Part}
    (cut : (d.weakKeySketch keys weak).parts = head ++ .reference site target key :: tail) :
    site = .weakEntity weak ∧ takenOver keys weak ⊆ head := by
  cases declared : d.partialKey? weak with
  | none => simp [weakKeySketch, declared, Omission.sketch] at cut
  | some partialKey =>
      cases owned : d.ownerIn keys weak with
      | none => simp [weakKeySketch, declared, owned, Omission.sketch] at cut
      | some owner =>
          simp only [weakKeySketch, declared, owned] at cut
          have mem : Part.reference site target key ∈ head ++ .reference site target key :: tail :=
            List.mem_append_cons_self
          have makes : (Part.reference site target key).MakesKey key := rfl
          rw [← cut] at mem
          obtain ⟨same, _⟩ := Part.eq_of_mem_map_of mem makes
          obtain ⟨rfl, _⟩ := Part.reference.inj same
          exact ⟨rfl, columns_subset cut⟩

/-- A phase goes through its constructs in the order of the diagram: in front of the sketch of one
stand those of all that are drawn before it. -/
theorem exists_of_map_ofKinds {accepts : NodeKind → Bool} {sketchOf : Construct → Sketch}
    {back : List Sketch} (cut : (d.ofKinds accepts).map sketchOf = front ++ sketch :: back) :
    ∃ maker, sketchOf maker = sketch ∧ ∀ other ∈ d.ofKinds accepts,
      d.nodes.idxOf other < d.nodes.idxOf maker → sketchOf other ∈ front := by
  obtain ⟨earlier, rest, kinds, rfl, restSketches⟩ := List.map_eq_append_iff.1 cut
  obtain ⟨maker, later, rfl, rfl, _⟩ := List.map_eq_cons_iff.1 restSketches
  refine ⟨maker, rfl, fun other inKinds ahead => List.mem_map_of_mem ?_⟩
  exact mem_of_filter_eq kinds (mem_ofKinds_iff.1 inKinds).2 ahead

/-- The foreign key of a weak entity stands after the columns that the entity takes
over and after the sketches of the weak entities that are drawn before it. -/
theorem Stands.weak_spec {maker : Construct}
    (stands : Stands settings d keys before (.reference (.weakEntity maker) target key) phase front
      sketch head) :
    takenOver keys maker ⊆ head ∧
      ∀ weak ∈ d.ofKind .weakEntity, d.nodes.idxOf weak < d.nodes.idxOf maker →
        d.weakKeySketch keys weak ∈ front := by
  obtain ⟨samePhase, _⟩ := stands.refers
  obtain rfl : Phase.partialKeys = phase := samePhase
  obtain ⟨back, inPhase⟩ := stands.inPhase
  obtain ⟨other, rfl, inFront⟩ := exists_of_map_ofKinds inPhase
  obtain ⟨tail, found⟩ := stands.inSketch
  obtain ⟨same, inHead⟩ := takenOver_subset_head found
  obtain rfl := Site.weakEntity.inj same
  exact ⟨inHead, inFront⟩

/-- Columns that are taken over stand before the foreign keys that follow the keys
of weak entities, and before those of weak entities that are drawn no earlier. -/
theorem Stands.takenOver_subset
    (stands : Stands settings d keys before (.reference site target key) phase front sketch head)
    (settled : d.Settled keys) {weak : Construct} (inKind : weak ∈ d.ofKind .weakEntity)
    (keyed : keys weak ≠ [])
    (ordered : ∀ other, site = .weakEntity other → d.nodes.idxOf weak ≤ d.nodes.idxOf other) :
    takenOver keys weak ⊆ before := by
  obtain ⟨inNodes, kind⟩ := mem_ofKind_iff.1 inKind
  obtain ⟨partialKey, owner, declared, owned, _⟩ := settled.weak inNodes kind keyed
  have inSketch := Classified.takenOver_subset declared owned
  cases site with
  | weakEntity maker =>
      obtain ⟨own, inFront⟩ := stands.weak_spec
      rcases Nat.lt_or_eq_of_le (ordered maker rfl) with ahead | level
      · exact List.Subset.trans inSketch (stands.front_subset _ (inFront weak inKind ahead))
      · rw [(List.idxOf_inj inNodes).1 level]
        exact List.Subset.trans own stands.head_subset
  | _ =>
      refine List.Subset.trans inSketch
        (stands.phases_subset .partialKeys ?_ _ (List.mem_map_of_mem inKind))
      rw [← stands.refers.1, Site.phase]
      decide

/-- The columns of an associative entity stand before the foreign keys of
multivalued attributes. -/
theorem Stands.associative_subset {item : Construct}
    (stands : Stands settings d keys before (.reference (.multivaluedAttribute item) target key)
      phase front sketch head)
    {entity : Construct} (inKind : entity ∈ d.ofKind .associativeEntity) :
    (d.associativeSketch keys entity).parts ⊆ before := by
  refine stands.phases_subset .relationships ?_ _
    (List.mem_append_right _ (List.mem_map_of_mem inKind))
  rw [← stands.refers.1, Site.phase]
  decide

/-! ## Inherited columns -/

/-- The columns that a subtype inherits from the root above a generalization. -/
def handedDown (d : Classified) (generalization subtype : Construct) : List Part :=
  (addKeyColumns (tableName subtype.label)
    ((d.superclassKeys generalization).map (·.carriedTo (tableName subtype.label)))).map .plain

/-- The generalization gives the entity, as one of its subtypes, the column: it writes the keys
of its strong subtypes, and the column is one of those that they inherit. -/
structure Bequeaths (d : Classified) (keys : KeyTable) (generalization entity : Construct)
    (column : String) : Prop where
  inKinds : generalization ∈ d.ofKinds (·.isGeneralization)
  writes : d.writesKeys keys generalization = true
  isSubtype : entity ∈ d.subtypesOf generalization
  inKey : column ∈ (d.superclassKeys generalization).map (·.foreignColumn)

/-- A generalization is drawn before another, or is that one and links the one subtype before
the other. -/
def LinksBefore (d : Classified) (generalization subtype other heir : Construct) : Prop :=
  d.nodes.idxOf generalization < d.nodes.idxOf other ∨
    generalization = other ∧
      (d.subtypesOf generalization).idxOf subtype < (d.subtypesOf generalization).idxOf heir

theorem Bequeaths.introduces {generalization entity : Construct} {column : String}
    (bequeaths : d.Bequeaths keys generalization entity column) :
    ∃ sqlType, Introduces (d.handedDown generalization entity) (tableName entity.label) column
      sqlType := by
  obtain ⟨key, inKey, rfl⟩ := List.mem_map.1 bequeaths.inKey
  have added : Part.plain (.addColumn (tableName entity.label)
      (keyColumn key.foreignColumn key.sqlType)) ∈ d.handedDown generalization entity := by
    simp only [handedDown, addKeyColumns, Key.carriedTo, List.map_map, List.mem_map,
      Function.comp_apply]
    exact ⟨key, inKey, rfl⟩
  exact ⟨key.sqlType, _, added, rfl, rfl, rfl⟩

/-- The key of a strong subtype begins with the columns that are handed down to it. -/
theorem handedDown_subset_keyParts (generalization : Construct) (superclass : KeyedEnd)
    (neighbour : Link × Construct) (maker : Site) (referred : Construct) :
    d.handedDown generalization neighbour.2 ⊆
      (subtypeKeyStatements superclass (heirOf (d.superclassKeys generalization) neighbour)).map
        (.of maker referred) := by
  rw [subtypeKeyStatements, List.map_append, map_of_addKeyColumns]
  exact List.subset_append_left _ _

/-- A generalization that writes keys hands them down to each of its strong subtypes. -/
theorem Bequeaths.handedDown_subset {generalization entity : Construct} {column : String}
    (bequeaths : d.Bequeaths keys generalization entity column)
    (strong : entity.kind = .strongEntity) :
    d.handedDown generalization entity ⊆ (d.generalizationSketch keys generalization).parts := by
  obtain ⟨above, found, rootKeyed, usable⟩ := exists_of_writesKeys bequeaths.writes
  obtain ⟨neighbour, inEnds, rfl⟩ := List.mem_map.1 bequeaths.isSubtype
  exact List.Subset.trans (handedDown_subset_keyParts generalization _ neighbour _ _)
    (subtypeKeyParts_subset found inEnds strong rootKeyed usable)

theorem map_node_strongSubtypes (generalization : Construct) :
    (d.strongSubtypes generalization).map (·.node) =
      (d.subtypesOf generalization).filter (·.kind == .strongEntity) := by
  rw [strongSubtypes, subtypesOf, List.map_map, List.filter_map]
  rfl

/-- The foreign key of a subtype stands after the columns that are handed down to it and to the
strong subtypes that are linked before it. -/
theorem handedDown_subset_head {generalization : Construct} {superclass : KeyedEnd}
    {tail : List Part}
    (cut : d.hierarchyParts generalization superclass =
      head ++ .reference site target key :: tail) :
    ∃ subtype : Construct, site = .subtype generalization subtype ∧
      ∀ heir ∈ d.subtypesOf generalization, heir.kind = .strongEntity →
        (d.subtypesOf generalization).idxOf heir ≤ (d.subtypesOf generalization).idxOf subtype →
          d.handedDown generalization heir ⊆ head := by
  obtain ⟨back, inKeys⟩ := exists_of_append_eq cut (by simp)
  obtain ⟨earlier, subtype, later, inThis, rest, subtypes, found, rfl⟩ := exists_of_flatMap_eq inKeys
  have isSubtype : subtype ∈ d.strongSubtypes generalization := by simp [subtypes]
  have mem : Part.reference site target key ∈ inThis ++ .reference site target key :: rest :=
    List.mem_append_cons_self
  have makes : (Part.reference site target key).MakesKey key := rfl
  rw [← found] at mem
  obtain ⟨same, _⟩ := Part.eq_of_mem_map_of mem makes
  obtain ⟨sameSite, _⟩ := Part.reference.inj same
  refine ⟨subtype.node, sameSite, fun heir isHeir strong soon => ?_⟩
  rcases Nat.lt_or_eq_of_le soon with ahead | level
  · have nodes := map_node_strongSubtypes (d := d) generalization
    rw [subtypes, List.map_append, List.map_cons] at nodes
    obtain ⟨place, among, rfl⟩ :=
      List.mem_map.1 (mem_of_filter_eq nodes.symm (by simp [strong]) ahead)
    have inSubtypes : place ∈ d.strongSubtypes generalization := by simp [subtypes, among]
    obtain ⟨neighbour, _, rfl⟩ := List.mem_map.1 inSubtypes
    intro part inColumns
    exact List.mem_append_left _ (List.mem_flatMap.2 ⟨_, among,
      handedDown_subset_keyParts generalization superclass neighbour _ _ inColumns⟩)
  · obtain rfl := (List.idxOf_inj isHeir).1 level
    obtain ⟨neighbour, _, rfl⟩ := List.mem_map.1 isSubtype
    exact List.Subset.trans (columns_subset found) (List.subset_append_right _ inThis)

variable {generalization subtype : Construct}

/-- The foreign key of a subtype stands in the sketch of its generalization, behind those of the
generalizations that are drawn before it. -/
theorem Stands.subtype_spec
    (stands : Stands settings d keys before (.reference (.subtype generalization subtype) target key)
      phase front sketch head) :
    (∀ other ∈ d.ofKinds (·.isGeneralization),
      d.nodes.idxOf other < d.nodes.idxOf generalization →
        d.generalizationSketch keys other ∈ front) ∧
      ∀ heir ∈ d.subtypesOf generalization, heir.kind = .strongEntity →
        (d.subtypesOf generalization).idxOf heir ≤ (d.subtypesOf generalization).idxOf subtype →
          d.handedDown generalization heir ⊆ head := by
  obtain ⟨samePhase, _⟩ := stands.refers
  obtain rfl : Phase.generalizations = phase := samePhase
  obtain ⟨back, inPhase⟩ := stands.inPhase
  obtain ⟨maker, rfl, inFront⟩ := exists_of_map_ofKinds inPhase
  obtain ⟨tail, found⟩ := stands.inSketch
  obtain none | ⟨above, _, _, _, parts⟩ := generalizationSketch_cases d keys maker
  · simp [none] at found
  rw [parts] at found
  obtain ⟨heir, sameSite, inHead⟩ := handedDown_subset_head found
  obtain ⟨rfl, rfl⟩ := Site.subtype.inj sameSite
  exact ⟨inFront, inHead⟩

/-- What is handed down stands before the foreign key of a subtype, unless that is linked
before. -/
theorem Stands.handedDown_subset {other entity : Construct} {column : String}
    (stands : Stands settings d keys before (.reference (.subtype generalization subtype) target key)
      phase front sketch head)
    (bequeaths : d.Bequeaths keys other entity column) (strong : entity.kind = .strongEntity)
    (soon : ¬d.LinksBefore generalization subtype other entity) :
    d.handedDown other entity ⊆ before := by
  obtain ⟨inFront, inHead⟩ := stands.subtype_spec
  obtain ⟨notEarlier, notFirst⟩ := not_or.1 soon
  rcases Nat.lt_or_eq_of_le (Nat.le_of_not_lt notEarlier) with ahead | level
  · exact List.Subset.trans (bequeaths.handedDown_subset strong)
      (stands.front_subset _ (inFront other bequeaths.inKinds ahead))
  · obtain rfl := (List.idxOf_inj (mem_ofKinds_iff.1 bequeaths.inKinds).1).1 level
    have linked := Nat.le_of_not_lt fun first => notFirst ⟨rfl, first⟩
    exact List.Subset.trans (inHead entity bequeaths.isSubtype strong linked) stands.head_subset

/-- What is handed down stands before the foreign keys that are made after the generalizations. -/
theorem Stands.handedDown_subset_of_later {other entity : Construct} {column : String}
    (stands : Stands settings d keys before (.reference site target key) phase front sketch head)
    (later : Phase.all.idxOf .generalizations < Phase.all.idxOf site.phase)
    (bequeaths : d.Bequeaths keys other entity column) (strong : entity.kind = .strongEntity) :
    d.handedDown other entity ⊆ before := by
  refine List.Subset.trans (bequeaths.handedDown_subset strong)
    (stands.phases_subset .generalizations ?_ _ (List.mem_map_of_mem bequeaths.inKinds))
  rwa [← stands.refers.1]

/-! ## Targets -/

/-- No two associative entities that take part in each other have keys. -/
def Unlinked (d : Classified) (keys : KeyTable) : Prop :=
  ∀ entity ∈ d.nodes, ∀ link other, entity.kind = .associativeEntity →
    other.kind = .associativeEntity → (link, other) ∈ d.participantEnds entity →
      keys entity = [] ∨ keys other = []

/-- Associative entities do not refer to each other. -/
theorem Refers.target_not_associative {entity : Construct}
    (refers : d.Refers keys sketch (.associativeEntity entity) target key)
    (settled : d.Settled keys) (unlinked : d.Unlinked keys) :
    target.kind ≠ .associativeEntity := by
  intro kind
  cases refers with
  | associativeEntity inKind planned =>
      obtain ⟨inNodes, entityKind⟩ := mem_ofKind_iff.1 inKind
      obtain ⟨inEnds, keyed, _⟩ := mem_planReferences (mem_referencesIn planned)
      obtain ⟨⟨link, other⟩, linked, same⟩ := List.mem_map.1 inEnds
      rw [← same] at kind keyed
      have back := mem_participantEnds_comm inNodes (by simp [entityKind, NodeKind.isEntity]) linked
      obtain ⟨reference, returned⟩ :=
        settled.exists_reference (participant_spec linked).1 kind keyed
      have entityKeyed := keyed_of_mem_referencesIn returned back
      exact (unlinked entity inNodes link other entityKind kind linked).elim entityKeyed keyed

/-- A foreign key at the site may stand before the column, which it refers to in the table of the
target.  The key of an associative entity is only there after the relationships, that of a weak
entity when its turn comes, and that of a strong subtype when a generalization has written it. -/
inductive Late (d : Classified) (keys : KeyTable) (target : Construct) (column : String) :
    Site → Prop
  | associativeOwner {weak : Construct} :
      target.kind = .associativeEntity → Late d keys target column (.weakEntity weak)
  | laterOwner {weak : Construct} :
      target.kind = .weakEntity → d.nodes.idxOf weak < d.nodes.idxOf target →
        column ∈ ((keys target).drop 1).map (·.column) →
          Late d keys target column (.weakEntity weak)
  | associativeSuperclass {generalization subtype : Construct} :
      target.kind = .associativeEntity →
        Late d keys target column (.subtype generalization subtype)
  | associativeParticipant {node : Construct} :
      target.kind = .associativeEntity → Late d keys target column (.relationship node)
  | subtypeOwner {weak : Construct} :
      target.kind = .strongEntity → d.superclassOf? target ≠ none →
        Late d keys target column (.weakEntity weak)
  | laterGeneralization {generalization subtype : Construct} :
      target.kind = .strongEntity → d.superclassOf? target ≠ none →
        (∀ other, d.Bequeaths keys other target column →
          d.LinksBefore generalization subtype other target) →
          Late d keys target column (.subtype generalization subtype)
  | unkeyedSubtype {site : Site} :
      target.kind = .strongEntity → d.superclassOf? target ≠ none →
        (∀ other, ¬d.Bequeaths keys other target column) → Late d keys target column site

/-- The column of a strong subtype stands before a foreign key that is not late for it. -/
theorem Stands.introduces_subtype
    (stands : Stands settings d keys before (.reference site target key) phase front sketch head)
    (strong : target.kind = .strongEntity) (below : d.superclassOf? target ≠ none)
    {column : String} (timely : ¬d.Late keys target column site) :
    ∃ sqlType, Introduces before (tableName target.label) column sqlType := by
  have introduced : ∀ {other}, d.Bequeaths keys other target column →
      d.handedDown other target ⊆ before →
      ∃ sqlType, Introduces before (tableName target.label) column sqlType := by
    intro other bequeaths within
    obtain ⟨sqlType, introduces⟩ := bequeaths.introduces
    exact ⟨sqlType, introduces.mono within⟩
  cases site with
  | weakEntity => exact absurd (.subtypeOwner strong below) timely
  | subtype generalization subtype =>
      obtain ⟨other, bequeaths, soon⟩ : ∃ other, d.Bequeaths keys other target column ∧
          ¬d.LinksBefore generalization subtype other target := by
        by_contra none
        push Not at none
        exact timely (.laterGeneralization strong below none)
      exact introduced bequeaths (stands.handedDown_subset bequeaths strong soon)
  | _ =>
      obtain ⟨other, bequeaths⟩ : ∃ other, d.Bequeaths keys other target column := by
        by_contra none
        exact timely (.unkeyedSubtype strong below (not_exists.1 none))
      exact introduced bequeaths
        (stands.handedDown_subset_of_later (by rw [Site.phase]; decide) bequeaths strong)

/-- A column that a foreign key refers to stands before it unless the key may be late for it. -/
theorem introduces_target
    (cut : outline settings d keys = before ++ .reference site target key :: after)
    (settled : d.Settled keys) (unlinked : d.Unlinked keys) {column : String}
    (mem : column ∈ key.refColumns) (timely : ¬d.Late keys target column site) :
    ∃ sqlType, Introduces before (tableName target.label) column sqlType := by
  obtain ⟨phase, front, sketch, head, stands⟩ := exists_stands cut
  obtain ⟨_, refers⟩ := stands.refers
  obtain ⟨inNodes, isEntity, keyed, _, refColumns⟩ := refers.target_spec
  obtain ⟨part, inKeys, rfl⟩ := List.mem_map.1 (refColumns ▸ mem)
  cases kind : target.kind with
  | strongEntity =>
      by_cases top : d.superclassOf? target = none
      · have table := stands.table_subset inNodes isEntity (by simp [kind])
        exact ⟨_, (settled.introduces_strong inNodes kind top inKeys).mono table⟩
      · exact stands.introduces_subtype kind top timely
  | weakEntity =>
      have table := stands.table_subset inNodes isEntity (by simp [kind])
      obtain inTable | taken := settled.introduces_weak inNodes kind inKeys
      · exact ⟨_, inTable.mono table⟩
      · have ordered : ∀ other, site = .weakEntity other →
            d.nodes.idxOf target ≤ d.nodes.idxOf other := by
          rintro other rfl
          by_contra later
          exact timely (.laterOwner kind (Nat.lt_of_not_le later) (mem_of_takenOver taken))
        exact ⟨_, taken.mono
          (stands.takenOver_subset settled (mem_ofKind_iff.2 ⟨inNodes, kind⟩) keyed ordered)⟩
  | associativeEntity =>
      cases site with
      | weakEntity => exact absurd (.associativeOwner kind) timely
      | subtype => exact absurd (.associativeSuperclass kind) timely
      | relationship => exact absurd (.associativeParticipant kind) timely
      | associativeEntity => exact absurd kind (refers.target_not_associative settled unlinked)
      | multivaluedAttribute =>
          exact ⟨_, (settled.introduces_associative inNodes kind inKeys).mono
            (stands.associative_subset (mem_ofKind_iff.2 ⟨inNodes, kind⟩))⟩
  | _ => simp [kind, NodeKind.isEntity] at isEntity

end Classified

/-! ## Scripts -/

def Statement.created? : Statement → Option String
  | .createTable table _ => some table
  | _ => none

def Statement.columnsFor (table : String) : Statement → List String
  | .createTable made columns => if made = table then columns.map (·.name) else []
  | .addColumn made column => if made = table then [column.name] else []
  | _ => []

namespace ForeignKey

/-- The statements create the table that the foreign key refers to. -/
def TableReady (key : ForeignKey) (statements : List Statement) : Prop :=
  key.refTable ∈ statements.filterMap (·.created?)

/-- The statements give that table the column. -/
def ColumnReady (key : ForeignKey) (column : String) (statements : List Statement) : Prop :=
  column ∈ statements.flatMap (·.columnsFor key.refTable)

instance (key : ForeignKey) (statements : List Statement) : Decidable (key.TableReady statements) :=
  inferInstanceAs (Decidable (_ ∈ _))

instance (key : ForeignKey) (column : String) (statements : List Statement) :
    Decidable (key.ColumnReady column statements) := inferInstanceAs (Decidable (_ ∈ _))

end ForeignKey

theorem Statement.Declares.mem_columnsFor {statement : Statement} {table name : String}
    {sqlType : Option String} (declares : statement.Declares table name sqlType) :
    name ∈ statement.columnsFor table := by
  cases statement with
  | createTable made columns =>
      obtain ⟨rfl, column, mem, rfl, _⟩ := declares
      simpa [columnsFor] using ⟨column, mem, rfl⟩
  | addColumn made column =>
      obtain ⟨rfl, rfl, _⟩ := declares
      simp [columnsFor]
  | _ => exact declares.elim

theorem mem_of_plain {parts : List Part} {statements : List Statement}
    (fits : List.Forall₂ Part.Fits parts statements) {statement : Statement}
    (mem : .plain statement ∈ parts) : statement ∈ statements := by
  obtain ⟨made, inScript, same⟩ := exists_of_mem_left fits mem
  exact Option.some.inj same ▸ inScript

/-- A cut of a script is a cut of its outline. -/
theorem exists_cut {parts : List Part} {statements before after : List Statement}
    {statement : Statement} (fits : List.Forall₂ Part.Fits parts statements)
    (cut : statements = before ++ statement :: after) :
    ∃ earlier part later, parts = earlier ++ part :: later ∧
      List.Forall₂ Part.Fits earlier before ∧ part.Fits statement := by
  rw [cut] at fits
  have first := List.forall₂_take_append _ _ _ fits
  have second := List.forall₂_drop_append _ _ _ fits
  obtain ⟨part, later, here, _, rest⟩ := List.forall₂_cons_right_iff.1 second
  refine ⟨parts.take before.length, part, later, ?_, first, here⟩
  rw [← rest, List.take_append_drop]

open Classified

/-- A foreign key stands after the table that it refers to, unless it is that of a weak entity with
an associative entity for its owner, and after each column that it refers to, unless it may be late
for it. -/
theorem reference_ready {settings : Settings} {diagram : Diagram} {d : Classified}
    {result : CompileResult} (read : diagram.classify = .ok d)
    (compiled : compile settings diagram = .ok result) {before after : List Statement}
    {key : ForeignKey} (cut : result.statements = before ++ .addForeignKey key :: after) :
    ∃ earlier site target later,
      outline settings d (keysAfter settings diagram d) =
          earlier ++ .reference site target key :: later ∧
        List.Forall₂ Part.Fits earlier before ∧ target ∈ d.nodes ∧
        key.refTable = tableName target.label ∧
        ((target.kind = .associativeEntity → ∀ weak, site ≠ .weakEntity weak) →
          key.TableReady before) ∧
        ∀ column ∈ key.refColumns,
          ¬d.Late (keysAfter settings diagram d) target column site →
            key.ColumnReady column before := by
  obtain ⟨earlier, part, later, outlineCut, fits, here⟩ :=
    exists_cut (statements_fit_outline read compiled) cut
  have makes := Part.makesKey_of_fits here
  obtain ⟨_, _, _, _, stands⟩ := exists_stands outlineCut
  obtain ⟨tail, inSketch⟩ := stands.inSketch
  obtain ⟨site, target, rfl, _, _⟩ :=
    makes_of_mem_sketch stands.mem_sketches (inSketch ▸ List.mem_append_cons_self) makes
  obtain ⟨inNodes, isEntity, _, refTable, _⟩ := stands.refers.2.target_spec
  refine ⟨earlier, site, target, later, outlineCut, fits, inNodes, refTable, ?_, ?_⟩
  · intro ordered
    have created : .plain (d.tableStatement target) ∈ earlier := by
      refine stands.table_subset inNodes isEntity (fun kind same => ?_)
        (List.mem_singleton_self _)
      cases site with
      | weakEntity weak => exact ordered kind weak rfl
      | _ => rw [Site.phase] at same; exact absurd same (by decide)
    rw [ForeignKey.TableReady, refTable]
    exact List.mem_filterMap.2 ⟨_, mem_of_plain fits created, rfl⟩
  · intro column mem timely
    have unlinked : d.Unlinked (keysAfter settings diagram d) :=
      fun _ inNodes _ _ kind otherKind linked =>
        keyless_of_linked settings read inNodes kind otherKind linked
    obtain ⟨sqlType, statement, among, declares⟩ :=
      introduces_target outlineCut (settled_keysAfter settings read) unlinked mem timely
    rw [ForeignKey.ColumnReady, refTable]
    exact List.mem_flatMap.2 ⟨statement, mem_of_plain fits among, declares.mem_columnsFor⟩

/-- A diagram with a late foreign key of each sort. -/
def unordered : Diagram :=
  { nodes :=
      [.drawn "v" "V" "WeakEntity", .drawn "v1" "a" "PartialKeyAttribute",
       .drawn "v2" "OfX" "WeakRelationship",
       .drawn "w" "W" "WeakEntity", .drawn "w1" "b" "PartialKeyAttribute",
       .drawn "w2" "OfZ" "WeakRelationship",
       .drawn "u" "U" "WeakEntity", .drawn "u1" "f" "PartialKeyAttribute",
       .drawn "u2" "OfE" "WeakRelationship",
       .drawn "z" "Z" "WeakEntity", .drawn "z1" "c" "PartialKeyAttribute",
       .drawn "z2" "OfS" "WeakRelationship", .drawn "z3" "j" "KeyAttribute",
       .drawn "g" "G" "GeneralizationDisjoint", .drawn "h" "H" "GeneralizationDisjoint",
       .drawn "i" "I" "GeneralizationDisjoint", .drawn "y" "Y" "GeneralizationDisjoint",
       .drawn "l" "L" "GeneralizationDisjoint",
       .drawn "m" "M" "Relationship", .drawn "n" "N" "Relationship",
       .drawn "x" "X" "AssociativeEntity", .drawn "x1" "d" "KeyAttribute",
       .drawn "s" "S" "StrongEntity", .drawn "s1" "k" "KeyAttribute",
       .drawn "t" "T" "StrongEntity", .drawn "t1" "i" "KeyAttribute",
       .drawn "c" "C" "StrongEntity", .drawn "e" "E" "StrongEntity", .drawn "f" "F" "StrongEntity",
       .drawn "q" "Q" "StrongEntity", .drawn "r" "R" "StrongEntity"]
    connections :=
      [.drawn "1" "v" "v1", .drawn "2" "v" "v2", .drawn "3" "v2" "x",
       .drawn "4" "z" "z1", .drawn "5" "z" "z2", .drawn "6" "z2" "s",
       .drawn "7" "w" "w1", .drawn "8" "w" "w2", .drawn "9" "w2" "z",
       .drawn "10" "x" "x1", .drawn "11" "x" "s", .drawn "12" "s" "s1",
       .drawn "13" "g" "x" "SingleLineGeneralization",
       .drawn "14" "g" "f" "GeneralizationToSubtype",
       .drawn "15" "h" "e" "SingleLineGeneralization",
       .drawn "16" "h" "c" "GeneralizationToSubtype",
       .drawn "17" "i" "s" "SingleLineGeneralization",
       .drawn "18" "i" "e" "GeneralizationToSubtype",
       .drawn "19" "m" "x" "SingleLineToMany", .drawn "20" "m" "s" "SingleLineToMany",
       .drawn "21" "u" "u1", .drawn "22" "u" "u2", .drawn "23" "u2" "e",
       .drawn "24" "z" "z3", .drawn "25" "y" "z" "SingleLineGeneralization",
       .drawn "26" "y" "q" "GeneralizationToSubtype",
       .drawn "27" "n" "q" "SingleLineToMany", .drawn "28" "n" "s" "SingleLineToMany",
       .drawn "29" "t" "t1", .drawn "30" "l" "t" "SingleLineGeneralization",
       .drawn "31" "l" "r" "GeneralizationToSubtype",
       .drawn "32" "l" "t" "GeneralizationToSubtype"]
    node_ids_nodup := by decide
    connection_ids_nodup := by decide }

/-- The late foreign keys of `unordered`.  The owner of a weak entity comes later because it is
associative, drawn later or a subtype; the superclass because it is associative, keyed by a
generalization that is drawn later, or linked later to its own generalization; the participant
because it is associative, or a subtype that no generalization can key. -/
def unorderedKeys : List ForeignKey :=
  [{ table := "V", constraint := "FK_V", columns := ["k-s-x"], refTable := "X"
     refColumns := ["k-s"] },
   { table := "W", constraint := "FK_W", columns := ["c-z", "k-s-z"], refTable := "Z"
     refColumns := ["c", "k-s"] },
   { table := "U", constraint := "FK_U", columns := ["k-s-e"], refTable := "E"
     refColumns := ["k-s"] },
   { table := "F", constraint := "FK_F", columns := ["d-x"], refTable := "X"
     refColumns := ["k-s"], onDelete := some "CASCADE" },
   { table := "C", constraint := "FK_C", columns := ["k-s"], refTable := "E"
     refColumns := ["k-s"], onDelete := some "CASCADE" },
   { table := "R", constraint := "FK_R", columns := ["i-t"], refTable := "T"
     refColumns := ["i-t"], onDelete := some "CASCADE" },
   { table := "X_S", constraint := "FK_X_S", columns := ["k-s-x"], refTable := "X"
     refColumns := ["k-s"] },
   { table := "Q_S", constraint := "FK_Q_S", columns := ["j-z-q"], refTable := "Q"
     refColumns := ["j-z"] }]

theorem exists_cut_at_idxOf {α : Type} [DecidableEq α] {items : List α} {a : α} (mem : a ∈ items) :
    ∃ after, items = items.take (items.idxOf a) ++ a :: after := by
  have inside := List.idxOf_lt_length_of_mem mem
  refine ⟨items.drop (items.idxOf a + 1), ?_⟩
  conv_lhs => rw [← List.take_append_drop (items.idxOf a) items,
    List.drop_eq_getElem_cons inside, List.getElem_idxOf inside]

/-- None of the exceptions is idle: each foreign key of the list refers to a column that nothing
above it has made, and that of `V` to a table that is created below it. -/
theorem unordered_not_ready :
    ∃ result, compile {} unordered = .ok result ∧
      ∀ key ∈ unorderedKeys, ∃ before after,
        result.statements = before ++ .addForeignKey key :: after ∧
          (∃ column ∈ key.refColumns, ¬key.ColumnReady column before) ∧
          (key.table = "V" → ¬key.TableReady before) := by
  have checked : compilesTo {} unordered (fun statements => decide
      (∀ key ∈ unorderedKeys, .addForeignKey key ∈ statements ∧
        (∃ column ∈ key.refColumns,
          ¬key.ColumnReady column (statements.take (statements.idxOf (.addForeignKey key)))) ∧
        (key.table = "V" →
          ¬key.TableReady (statements.take (statements.idxOf (.addForeignKey key)))))) = true := by
    decide +kernel
  obtain ⟨result, compiled, holds⟩ := exists_of_compilesTo checked
  refine ⟨result, compiled, fun key mem => ?_⟩
  obtain ⟨made, unready⟩ := of_decide_eq_true holds key mem
  obtain ⟨after, cut⟩ := exists_cut_at_idxOf made
  exact ⟨_, after, cut, unready⟩

/-- The foreign key of the associative entity of `ownedPair` to the subtype. -/
def ownedPairHeirKey : ForeignKey :=
  { table := "A", constraint := "FK_A", columns := ["k-s-t"], refTable := "T"
    refColumns := ["k-s"] }

/-- Whether a part is made in the phase if it is the foreign key. -/
def Part.madeIn (phase : Phase) (key : ForeignKey) : Part → Bool
  | .reference site _ made => made != key || site.phase == phase
  | _ => true

/-- The associative entity refers to a strong subtype, whose key the phase of generalizations has
written by then. -/
theorem ownedPair_reference_ready :
    ∃ d result before after, ownedPair.classify = .ok d ∧ compile {} ownedPair = .ok result ∧
      result.statements = before ++ .addForeignKey ownedPairHeirKey :: after ∧
      ownedPairHeirKey.TableReady before ∧
      ∀ column ∈ ownedPairHeirKey.refColumns, ownedPairHeirKey.ColumnReady column before := by
  have found : scriptHolds {} ownedPair (.addForeignKey ownedPairHeirKey) = true := by
    decide +kernel
  have checked : classifiesTo ownedPair (fun d => decide
      ((∀ node ∈ d.nodes, "T" = tableName node.label → node.kind = .strongEntity ∧
        ∃ generalization ∈ d.ofKinds (·.isGeneralization),
          d.writesKeys (keysAfter {} ownedPair d) generalization = true ∧
            node ∈ d.subtypesOf generalization ∧
            (d.superclassKeys generalization).map (·.foreignColumn) = ["k-s"]) ∧
        (outline {} d (keysAfter {} ownedPair d)).all
          (Part.madeIn .relationships ownedPairHeirKey) = true)) = true := by decide +kernel
  obtain ⟨result, compiled, mem⟩ := mem_of_scriptHolds found
  obtain ⟨d, read, holds⟩ := exists_of_classifiesTo checked
  obtain ⟨targets, places⟩ := of_decide_eq_true holds
  obtain ⟨before, after, cut⟩ := List.append_of_mem mem
  obtain ⟨_, site, target, _, outlineCut, _, inNodes, refTable, table, columns⟩ :=
    reference_ready read compiled cut
  obtain ⟨strong, generalization, inKinds, writes, isSubtype, inherited⟩ :=
    targets target inNodes refTable
  have samePhase : site.phase = .relationships := by
    have made := List.all_eq_true.1 places (.reference site target ownedPairHeirKey)
      (outlineCut ▸ List.mem_append_cons_self)
    simpa [Part.madeIn] using made
  refine ⟨d, result, before, after, read, compiled, cut, table ?_, fun column mem => ?_⟩
  · intro associative
    simp [strong] at associative
  · refine columns column mem fun late => ?_
    cases late with
    | subtypeOwner | laterGeneralization => simp [Site.phase] at samePhase
    | unkeyedSubtype _ _ none =>
        exact none generalization ⟨inKinds, writes, isSubtype, inherited ▸ mem⟩
    | laterOwner other | associativeOwner other | associativeSuperclass other
    | associativeParticipant other => simp [strong] at other

end EntitySchema
