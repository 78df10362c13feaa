/-
# EntitySchema.Proofs.Constructs -- every construct yields its sketch

The synthesis of each construct asks for keys in its own order.  Here every one
of them is matched with its sketch: those without triggers by `Draws`, the
generalizations and relationships by `Follows`.  The phases and the whole run are
put together from them in `EntitySchema.Proofs.Rendition`.
-/
import EntitySchema.Proofs.Following

namespace EntitySchema

open Inquiry

set_option autoImplicit false

namespace Classified

variable {d : Classified} {P : Memo → Prop}

/-! ## Entities -/

theorem draws_entityTable (entity : Construct) :
    Draws P (entityTable d entity) fun _ => d.tableSketch entity := by
  unfold entityTable
  split
  · exact draws_note (draws_pure fun _ => ⟨rfl, rfl⟩)
  · exact draws_pure fun _ => ⟨rfl, rfl⟩

theorem ownerOf_mem_nodes {item owner : Construct} (found : d.ownerOf? item = some owner) :
    owner ∈ d.nodes ∧ owner.kind.isEntity = true := by
  obtain ⟨⟨link, _⟩, first, rfl⟩ := Option.map_eq_some_iff.1 found
  have near := mem_neighboursOf_iff.1 (List.mem_of_mem_head? first)
  exact ⟨mem_nodes_of_mem_neighbours near.1, near.2⟩

/-- The foreign keys of a junction and its primary key are those of its parts. -/
theorem map_statement_junctionParts (site : Site) (table : String) (references : List Reference) :
    (junctionParts site table references).map Part.statement? =
      (junctionKeys table references).map some := by
  simp [junctionParts, junctionKeys, referenceKeys, Part.statement?, List.mapIdx_eq_zipIdx_map,
    Function.comp_def]

variable (answered : d.Answered P)

include answered

/-- The primary key of a strong entity is a plain reading of the table of keys: what is remembered
later agrees with what the entity answered. -/
theorem draws_strongKey {entity : Construct} (inNodes : entity ∈ d.nodes) :
    Draws P (strongKey d entity) fun keys => d.strongKeySketch keys entity := by
  unfold strongKey strongKeySketch
  by_cases subtype : (d.generalizationOf? entity).isSome
  · rw [if_pos subtype]
    simp only [if_pos subtype]
    exact draws_note (draws_pure fun _ => ⟨rfl, rfl⟩)
  · rw [if_neg subtype]
    simp only [if_neg subtype]
    refine draws_ask (S := fun found _ =>
      if found.isEmpty then (Omission.strongWithoutKey entity).sketch
      else { parts := [.plain (primaryKey (tableName entity.label) (found.map (·.column)))] })
      (reads_tableKey answered inNodes) fun keys => ?_
    split
    · exact draws_leaveOut _
    · exact draws_pure fun _ => ⟨rfl, rfl⟩

/-- The key of a weak entity asks for its owner first.  The sketch reads the same owner off the
table, because whatever was answered on the way is remembered. -/
theorem draws_weakKey {weak : Construct} (inNodes : weak ∈ d.nodes) :
    Draws P (weakKey d weak) fun keys => d.weakKeySketch keys weak := by
  unfold weakKey
  cases declared : d.partialKey? weak with
  | none =>
      simp only [weakKeySketch, declared]
      exact draws_leaveOut _
  | some partialKey =>
      have sketch : ∀ keys : KeyTable, d.weakKeySketch keys weak =
          (d.ownerIn keys weak).elim (Omission.weakWithoutOwner weak).sketch fun owner =>
            { parts :=
                (weakKeyStatements (tableName weak.label) partialKey ((keys weak).drop 1) owner).map
                  (.of (.weakEntity weak) owner.node) } := by
        intro keys
        rw [weakKeySketch, declared]
        cases d.ownerIn keys weak with
        | none => rfl
        | some owner => rfl
      simp only [sketch]
      refine draws_ask (S := fun owner? keys =>
        owner?.elim (Omission.weakWithoutOwner weak).sketch fun owner =>
          { parts :=
              (weakKeyStatements (tableName weak.label) partialKey ((keys weak).drop 1) owner).map
                (.of (.weakEntity weak) owner.node) })
        (reads_weakOwner answered weak) fun keys => ?_
      cases d.ownerIn keys weak with
      | none => exact draws_leaveOut _
      | some owner =>
          refine draws_ask (S := fun found _ =>
            { parts :=
                (weakKeyStatements (tableName weak.label) partialKey (found.drop 1) owner).map
                  (.of (.weakEntity weak) owner.node) })
            (reads_tableKey answered inNodes) fun keys => ?_
          exact draws_note (draws_pure fun _ => ⟨Part.map_statement_of _ _ _, rfl⟩)

/-- An associative entity is left out, or refers to its participants, as the table of keys has it.
-/
theorem draws_associativeEntity (entity : Construct) :
    Draws P (associativeEntity d entity) fun keys => d.associativeSketch keys entity := by
  unfold associativeEntity associativeSketch
  refine draws_ask (S := fun _ keys => d.associativeSketch keys entity)
    (reads_participants (answered.participants entity)) fun _ => ?_
  refine draws_note ?_
  refine draws_ask (S := fun references _ =>
    if references.isEmpty then (Omission.associativeWithoutKey entity).sketch
    else
      { parts :=
          (referenceColumns references).map (.plain ∘ .addColumn (tableName entity.label))
            ++ junctionParts (.associativeEntity entity) (tableName entity.label) references })
    (reads_associativeReferences answered entity) fun keys => ?_
  split
  · exact draws_leaveOut _
  · refine draws_pure fun _ => ⟨?_, rfl⟩
    simp [associativeStatements, Output.emit, map_statement_junctionParts, Part.statement?,
      Function.comp_def]

/-! ## Attributes -/

/-- The child table of an attribute depends on the table of keys only through the owner's key. -/
theorem draws_multivaluedAttribute (surrogateType : String) (item : Construct) :
    Draws P (multivaluedAttribute d surrogateType item) fun keys =>
      d.multivaluedSketch keys surrogateType item := by
  unfold multivaluedAttribute multivaluedSketch
  cases found : d.ownerOf? item with
  | none => exact draws_leaveOut _
  | some owner =>
      refine draws_ask (S := fun found _ =>
        if found.isEmpty then (Omission.ownerWithoutKey item owner).sketch
        else
          { parts :=
              (childTableStatements surrogateType item owner found).map
                (.of (.multivaluedAttribute item) owner) })
        (reads_tableKey answered (ownerOf_mem_nodes found).1) fun keys => ?_
      split
      · exact draws_leaveOut _
      · exact draws_note (draws_pure fun _ => ⟨Part.map_statement_of _ _ _, rfl⟩)

omit answered in
/-- The views ask for no key, but each of them must know the names that those before it have brought
into use. -/
theorem meets_viewsFrom (used : List String) (items : List Construct) :
    Meets P (viewsFrom d used items) fun outputs _ =>
      List.Forall₂ Sketch.Yields (d.viewSketches used items) outputs := by
  induction items generalizing used with
  | nil => exact meets_pure fun _ => .nil
  | cons item rest ih =>
      have leaves : ∀ omission : Omission,
          Meets P (do return (← leaveOut omission) :: (← viewsFrom d used rest))
            fun outputs _ =>
              List.Forall₂ Sketch.Yields (omission.sketch :: d.viewSketches used rest) outputs := by
        intro omission
        refine (meets_bind (draws_leaveOut omission) fun _ _ _ =>
          meets_bind (ih used) fun others _ _ =>
            meets_pure (Q := fun outputs _ => outputs = _ :: others) fun _ => rfl).mono ?_
        rintro outputs later ⟨output, yields, others, drawn, rfl⟩
        exact .cons (yields _ (KeyTable.ofMemo_holds later)) drawn
      unfold viewsFrom viewSketches
      cases d.ownerOf? item with
      | none => exact leaves _
      | some owner =>
          cases queryOf? item with
          | none => exact leaves _
          | some query =>
              refine (meets_bind (ih _) fun others _ _ => meets_pure
                (Q := fun outputs _ => outputs = _ :: others) fun _ => rfl).mono ?_
              rintro outputs later ⟨others, drawn, rfl⟩
              exact .cons ⟨rfl, rfl⟩ drawn

/-! ## Generalizations -/

/-- The sides of a generalization after some more of its subtypes. -/
def sidesWith (generalization : Construct) (rootKeys : List Key) (superclass : KeyedEnd)
    (sides : HierarchySides) (ends : List (Link × Construct)) : HierarchySides :=
  { superclass := if ends.isEmpty then sides.superclass else some superclass
    subtypes := sides.subtypes
      ++ (ends.filter (·.2.kind == .strongEntity)).map (heirOf rootKeys)
    issues := sides.issues
      ++ (ends.filter (·.2.kind != .strongEntity)).map fun (link, subtype) =>
          (Omission.subtypeNotStrong generalization subtype link).issue }

variable {generalization : Construct} {rootKeys : List Key} {above : Link × Construct}

section

variable {superclass : KeyedEnd} {sides : HierarchySides} {neighbour : Link × Construct}

omit answered

theorem sidesWith_strong (strong : neighbour.2.kind = .strongEntity) :
    sidesWith generalization rootKeys superclass sides [neighbour] =
      { superclass := some superclass, subtypes := sides.subtypes ++ [heirOf rootKeys neighbour],
        issues := sides.issues } := by
  simp [sidesWith, strong]

theorem sidesWith_other (other : neighbour.2.kind ≠ .strongEntity) :
    sidesWith generalization rootKeys superclass sides [neighbour] =
      { superclass := some superclass, subtypes := sides.subtypes
        issues := sides.issues
          ++ [(Omission.subtypeNotStrong generalization neighbour.2 neighbour.1).issue] } := by
  simp [sidesWith, other]

theorem sidesWith_cons (rest : List (Link × Construct)) :
    sidesWith generalization rootKeys superclass sides (neighbour :: rest) =
      sidesWith generalization rootKeys superclass
        (sidesWith generalization rootKeys superclass sides [neighbour]) rest := by
  by_cases strong : neighbour.2.kind = .strongEntity
  · simp [sidesWith, strong]
  · simp [sidesWith, strong]

end

omit answered in
theorem farEnds_subtype (found : d.superclassEnd? generalization = some above)
    {neighbour : Link × Construct} (mem : neighbour ∈ d.subtypeEnds generalization) :
    farEnds generalization (fun _ node => node.kind.isEntity) [above.1, neighbour.1] =
      [above, neighbour] := by
  obtain ⟨next, kind, _⟩ := superclassEnd_spec found
  obtain ⟨nextSubtype, kindSubtype, _⟩ := mem_subtypeEnds_iff.1 mem
  simp [farEnds, (mem_neighbours_iff.1 next).2, (mem_neighbours_iff.1 nextSubtype).2, kind,
    kindSubtype]

/-- One more subtype link: the superclass is asked for again with each, before the subtype itself,
and the table of keys gives the same end every time. -/
theorem reads_addSubtype (found : d.superclassEnd? generalization = some above)
    {neighbour : Link × Construct} (mem : neighbour ∈ d.subtypeEnds generalization)
    (sides : HierarchySides) :
    Reads P (addSubtype d generalization rootKeys above.1 sides neighbour.1) fun keys =>
      sidesWith generalization rootKeys (keys.endAt above) sides [neighbour] := by
  have linksKnown : ∀ link ∈ [above.1, neighbour.1], link ∈ d.links := by
    simp only [List.mem_cons, List.not_mem_nil, or_false, forall_eq_or_imp, forall_eq]
    exact ⟨(mem_neighbours_iff.1 (superclassEnd_spec found).1).1,
      (mem_neighbours_iff.1 (mem_subtypeEnds_iff.1 mem).1).1⟩
  have pair : Reads P
      (d.keyedPair? generalization [above.1, neighbour.1] fun _ node => node.kind.isEntity)
      fun keys => some (keys.endAt above, keys.endAt neighbour) := by
    have asked : Reads P
        (d.keyedPair? generalization [above.1, neighbour.1] fun _ node => node.kind.isEntity)
        fun keys => pairIn? keys generalization [above.1, neighbour.1] fun _ node =>
          node.kind.isEntity := reads_keyedPair (answered.farEnds linksKnown)
    simpa only [pairIn?, farEnds_subtype found mem] using asked
  refine reads_bind (G := fun pair? _ => pair?.elim sides fun ends =>
      sidesWith generalization rootKeys ends.1 sides [(ends.2.link, ends.2.node)])
    pair fun keys => ?_
  by_cases strong : neighbour.2.kind = .strongEntity
  · simp only [Option.elim_some, sidesWith_strong strong, KeyTable.endAt, strong, if_true]
    exact reads_pure _
  · simp only [Option.elim_some, sidesWith_other strong, KeyTable.endAt, strong, if_false]
    let issue := (Omission.subtypeNotStrong generalization neighbour.2 neighbour.1).issue
    refine reads_bind
      (G := fun (left : Output) _ => HierarchySides.mk _ _ (sides.issues ++ left.issues))
      (?_ : Reads P _ fun _ : KeyTable => ({ issues := [issue] } : Output)) fun _ => reads_pure _
    exact reads_of_silent fun _ => ⟨rfl, rfl⟩

/-- The induction is over the links to subtypes; the sides found so far go along, and each step only
appends to them. -/
theorem reads_addSubtypes (found : d.superclassEnd? generalization = some above)
    (ends : List (Link × Construct))
    (known : ∀ neighbour ∈ ends, neighbour ∈ d.subtypeEnds generalization)
    (sides : HierarchySides) :
    Reads P ((ends.map (·.1)).foldlM (addSubtype d generalization rootKeys above.1) sides)
      fun keys => sidesWith generalization rootKeys (keys.endAt above) sides ends := by
  induction ends generalizing sides with
  | nil =>
      simp only [sidesWith, List.filter_nil, List.map_nil, List.append_nil]
      exact reads_pure sides
  | cons neighbour rest ih =>
      simp only [List.map_cons, List.foldlM_cons, sidesWith_cons rest]
      exact reads_bind (G := fun sides keys =>
          sidesWith generalization rootKeys (keys.endAt above) sides rest)
        (reads_addSubtype answered found (known neighbour List.mem_cons_self) sides) fun _ =>
          ih (fun other mem => known other (List.mem_cons_of_mem neighbour mem)) _

/-- The rules of a generalization whose sides are known. -/
def numberSides (d : Classified) (message : String) (generalization : Construct)
    (rootKeys : List Key) (sides : HierarchySides) : Numbering Output :=
  match sides.superclass.filter (·.keys.length == rootKeys.length) with
  | none =>
      pure { issues := sides.issues ++ [(Omission.superclassKeyUnusable generalization).issue] }
  | some superclass =>
      if sides.subtypes.isEmpty then pure { issues := sides.issues }
      else do
        let triggers ← (hierarchyPlans superclass sides.subtypes
          (generalization.kind == .generalizationDisjoint) (d.isTotal generalization)).mapM
            (·.number message)
        return {
          statements := sides.subtypes.flatMap (subtypeKeyStatements superclass)
            ++ triggers.map .createTrigger
          issues := sides.issues }

omit answered in
theorem follows_hierarchyStatements (message : String) (generalization : Construct)
    (superclass : KeyedEnd) (subtypes : List KeyedEnd) :
    Follows P (hierarchyStatements d generalization message superclass subtypes) fun _ => do
      let triggers ← (hierarchyPlans superclass subtypes
        (generalization.kind == .generalizationDisjoint) (d.isTotal generalization)).mapM
          (·.number message)
      return subtypes.flatMap (subtypeKeyStatements superclass)
        ++ triggers.map .createTrigger :=
  follows_bind (follows_mapM fun plan _ => follows_issue message plan) fun _ =>
    follows_bind (F := fun _ => pure ()) (follows_lift reads_note) fun _ => follows_pure _

omit answered in
/-- The statements that key the subtypes of a generalization. -/
theorem map_statement_subtypeKeys (generalization : Construct) (superclass : KeyedEnd)
    (subtypes : List KeyedEnd) :
    (subtypes.flatMap fun subtype =>
        (subtypeKeyStatements superclass subtype).map
          (Part.of (.subtype generalization subtype.node) superclass.node)).map Part.statement? =
      (subtypes.flatMap (subtypeKeyStatements superclass)).map some := by
  induction subtypes with
  | nil => rfl
  | cons subtype rest ih =>
      rw [List.flatMap_cons, List.flatMap_cons, List.map_append, List.map_append,
        Part.map_statement_of, ih]

omit answered in
/-- The sides of a generalization with subtypes are numbered as the second half
of its sketch. -/
theorem numberSides_eq (message : String) {generalization : Construct} (superclass : KeyedEnd)
    (someSubtype : (d.subtypeEnds generalization).isEmpty = false) :
    d.numberSides message generalization (d.superclassKeys generalization)
        (sidesWith generalization (d.superclassKeys generalization) superclass {}
          (d.subtypeEnds generalization)) =
      Sketch.number message
        (if superclass.keys.length = (d.superclassKeys generalization).length then
          { parts :=
              if (d.strongSubtypes generalization).isEmpty then []
              else d.hierarchyParts generalization superclass
            issues := d.otherSubtypeIssues generalization }
        else
          { issues := d.otherSubtypeIssues generalization
              ++ [(Omission.superclassKeyUnusable generalization).issue] }) := by
  have heirs : ((d.subtypeEnds generalization).filter (·.2.kind == .strongEntity)).map
      (heirOf (d.superclassKeys generalization)) = d.strongSubtypes generalization := rfl
  have issues : ((d.subtypeEnds generalization).filter (·.2.kind != .strongEntity)).map
      (fun (link, subtype) => (Omission.subtypeNotStrong generalization subtype link).issue) =
        d.otherSubtypeIssues generalization := rfl
  simp only [numberSides, sidesWith, someSubtype, Bool.false_eq_true, if_false, heirs, issues,
    List.nil_append, Option.filter_some, beq_iff_eq]
  by_cases usable : superclass.keys.length = (d.superclassKeys generalization).length
  · simp only [if_pos usable]
    by_cases childless : (d.strongSubtypes generalization).isEmpty
    · simp only [if_pos childless]
      rfl
    · simp only [if_neg childless, hierarchyParts]
      exact (Sketch.number_of_plans message
        (map_statement_subtypeKeys generalization superclass _) _ _).symm
  · simp only [if_neg usable]
    rfl

/-- One generalization, from its inquiries to the last of its triggers, does what its sketch does
with numbers alone.  The cases are those of the source: no superclass, no subtypes, no keys, keys
that do not fit, and the hierarchy that is encoded. -/
theorem follows_generalizationRules (message : String) (generalization : Construct) :
    Follows P (generalizationRules d message generalization) fun keys =>
      (d.generalizationSketch keys generalization).number message := by
  unfold generalizationRules generalizationSketch
  cases found : d.superclassEnd? generalization with
  | none => exact follows_of_draws message (draws_leaveOut _)
  | some above =>
      by_cases childless : (d.subtypeEnds generalization).isEmpty
      · simp only [List.isEmpty_map, if_pos childless]
        exact follows_of_draws message (draws_leaveOut _)
      by_cases keyless : (d.superclassKeys generalization).isEmpty
      · simp only [List.isEmpty_map, if_neg childless, if_pos keyless]
        exact follows_of_draws message (draws_leaveOut _)
      have numbered := fun superclass =>
        numberSides_eq (d := d) message superclass (by simpa using childless)
      simp only [List.isEmpty_map, if_neg childless, if_neg keyless]
      refine (follows_ask (G := fun sides _ =>
          d.numberSides message generalization (d.superclassKeys generalization) sides)
        (reads_addSubtypes answered found (d.subtypeEnds generalization) (fun _ mem => mem) {})
        fun keys => ?_).of_eq fun keys => numbered (keys.endAt above)
      unfold numberSides
      generalize sidesWith _ _ _ _ _ = sides
      cases sides.superclass.filter (·.keys.length == (d.superclassKeys generalization).length) with
      | none =>
          have left : Reads P (leaveOut (.superclassKeyUnusable generalization)) fun _ =>
              { issues := [(Omission.superclassKeyUnusable generalization).issue] } :=
            reads_of_silent fun _ => ⟨rfl, rfl⟩
          exact follows_bind (follows_lift left) fun (output : Output) =>
            follows_pure (Output.mk [] (sides.issues ++ output.issues))
      | some superclass =>
          by_cases childless : sides.subtypes.isEmpty
          · simp only [if_pos childless]
            exact follows_pure _
          · simp only [if_neg childless]
            refine (follows_bind (follows_hierarchyStatements message generalization superclass
              sides.subtypes) fun statements =>
                follows_pure (Output.mk statements sides.issues)).of_eq fun _ => ?_
            simp only [bind_assoc, pure_bind]

end Classified

end EntitySchema
