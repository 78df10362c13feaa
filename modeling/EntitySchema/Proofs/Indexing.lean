/-
# EntitySchema.Proofs.Indexing -- classification is exact

A diagram can be classified exactly if all tags are those of kinds and all ends are nodes
(`Diagram.WellFormed`).  Otherwise the fault that is reported is the first: that of the
first node with an unknown tag, and only if there is none that of the first connection with
a fault of its own (`Diagram.FirstFault`).

The views of a classified diagram are those of the diagram as drawn (`Classified.Shows`):
the groups of kinds divide the nodes and keep their order, and a node has the links that
touch it, each once.  An index that is grown in one pass has the same groups and rows
(`Diagram.index_eq`): what a pass appends to a group or a row is what a filter of the whole
list keeps (`Index.addNodes_holding`, `Index.addConnections_holding`).
-/
import EntitySchema.Classified.Index
import EntitySchema.Proofs.LocalOrder

namespace EntitySchema

set_option autoImplicit false

/-! ## The first fault -/

def Node.Known (node : Node String) : Prop := ∃ kind : NodeKind, kind.tag = node.kind

def Connection.Known (connection : Connection String) : Prop :=
  ∃ kind : ConnectionKind, kind.tag = connection.kind

def Diagram.HasNode (diagram : Diagram) (id : String) : Prop := ∃ node ∈ diagram.nodes, node.id = id

structure Connection.Sound (diagram : Diagram) (connection : Connection String) : Prop where
  known : connection.Known
  first : diagram.HasNode connection.a
  second : diagram.HasNode connection.b

structure Diagram.WellFormed (diagram : Diagram) : Prop where
  nodes : ∀ node ∈ diagram.nodes, node.Known
  connections : ∀ connection ∈ diagram.connections, connection.Sound diagram

/-- What is wrong with a connection: its tag before its ends, and the first end before the
second. -/
inductive Connection.Fault (diagram : Diagram) (connection : Connection String) :
    ClassificationError → Prop
  | tag : ¬connection.Known → Fault diagram connection (.unknownConnectionKind connection)
  | first : connection.Known → ¬diagram.HasNode connection.a →
      Fault diagram connection (.danglingConnection connection connection.a)
  | second : connection.Known → diagram.HasNode connection.a → ¬diagram.HasNode connection.b →
      Fault diagram connection (.danglingConnection connection connection.b)

/-- The first thing that is wrong with a diagram: its nodes before its connections, each in
diagram order. -/
inductive Diagram.FirstFault (diagram : Diagram) : ClassificationError → Prop
  | node {before after : List (Node String)} {node : Node String} :
      diagram.nodes = before ++ node :: after → (∀ earlier ∈ before, earlier.Known) →
        ¬node.Known → FirstFault diagram (.unknownNodeKind node)
  | connection {before after : List (Connection String)} {connection : Connection String}
      {cause : ClassificationError} :
      (∀ node ∈ diagram.nodes, node.Known) → diagram.connections = before ++ connection :: after →
        (∀ earlier ∈ before, earlier.Sound diagram) → connection.Fault diagram cause →
          FirstFault diagram cause

/-! ### Readers that stop -/

section Stops

variable {ε α β : Type} {read : α → Except ε β}

theorem bind_eq_error_iff {first : Except ε α} {next : α → Except ε β} {cause : ε} :
    (first >>= next) = .error cause ↔
      first = .error cause ∨ ∃ a, first = .ok a ∧ next a = .error cause := by
  cases first with
  | error early =>
      simp only [bind, Except.bind, Except.error.injEq, reduceCtorEq, false_and, exists_false,
        or_false]
  | ok a =>
      simp only [bind, Except.bind, reduceCtorEq, Except.ok.injEq, exists_eq_left', false_or]

/-- A list is read up to the first item that cannot be. -/
theorem mapM_eq_error_iff {items : List α} {cause : ε} :
    items.mapM read = .error cause ↔ ∃ before item after, items = before ++ item :: after ∧
      (∀ earlier ∈ before, ∃ b, read earlier = .ok b) ∧ read item = .error cause := by
  induction items with
  | nil => simp [pure, Except.pure]
  | cons item rest ih =>
      have here : ∀ next : β → Except ε (List β), (read item >>= next) = .error cause ↔
          read item = .error cause ∨ ∃ b, read item = .ok b ∧ next b = .error cause :=
        fun next => bind_eq_error_iff
      have restOnly : ∀ b : β, (rest.mapM read >>= fun found => pure (b :: found)) = .error cause ↔
          rest.mapM read = .error cause := by
        intro b
        rw [bind_eq_error_iff]
        simp [pure, Except.pure]
      simp only [List.mapM_cons, here, restOnly, ih]
      constructor
      · rintro (failed | ⟨b, first, before, other, after, rfl, fine, failed⟩)
        · exact ⟨[], item, rest, rfl, by simp, failed⟩
        · refine ⟨item :: before, other, after, rfl, ?_, failed⟩
          exact List.forall_mem_cons.2 ⟨⟨b, first⟩, fine⟩
      · rintro ⟨before, other, after, split, fine, failed⟩
        cases before with
        | nil =>
            obtain ⟨rfl, rfl⟩ := List.cons.inj split
            exact .inl failed
        | cons earlier before =>
            obtain ⟨rfl, rfl⟩ := List.cons.inj split
            obtain ⟨⟨b, first⟩, fine⟩ := List.forall_mem_cons.1 fine
            exact .inr ⟨b, first, before, other, after, rfl, fine, failed⟩

end Stops

theorem classifyNodes_eq_mapM (nodes : List (Node String)) :
    classifyNodes nodes = nodes.mapM Node.classify := by
  induction nodes with
  | nil => rfl
  | cons node rest ih => rw [classifyNodes, List.mapM_cons, ih]

theorem classifyConnections_eq_mapM (nodes : List Construct)
    (connections : List (Connection String)) :
    classifyConnections nodes connections = connections.mapM (·.classify nodes) := by
  induction connections with
  | nil => rfl
  | cons connection rest ih => rw [classifyConnections, List.mapM_cons, ih]

theorem NodeKind.ofTag?_eq_none_iff {tag : String} :
    NodeKind.ofTag? tag = none ↔ ¬∃ kind : NodeKind, kind.tag = tag := by
  simp [ofTag?, mem_all]

theorem ConnectionKind.ofTag?_eq_none_iff {tag : String} :
    ConnectionKind.ofTag? tag = none ↔ ¬∃ kind : ConnectionKind, kind.tag = tag := by
  simp [ofTag?, mem_all]

theorem Node.classify_eq_error_iff {node : Node String} {cause : ClassificationError} :
    node.classify = .error cause ↔ ¬node.Known ∧ cause = .unknownNodeKind node := by
  rw [Known, ← NodeKind.ofTag?_eq_none_iff, Node.classify]
  cases NodeKind.ofTag? node.kind with
  | some kind => simp
  | none => simp [eq_comm]

theorem Node.exists_classify_iff {node : Node String} :
    (∃ construct, node.classify = .ok construct) ↔ node.Known := by
  cases ended : node.classify with
  | ok construct =>
      obtain rfl := Node.classify_eq_ok_iff.1 ended
      exact ⟨fun _ => ⟨construct.kind, rfl⟩, fun _ => ⟨construct, rfl⟩⟩
  | error cause => simpa using (Node.classify_eq_error_iff.1 ended).1

section Connections

variable {diagram : Diagram} {nodes : List Construct}
  (drawn : nodes.map Node.written = diagram.nodes)

include drawn

theorem find?_eq_none_iff_not_hasNode {id : String} :
    nodes.find? (·.id == id) = none ↔ ¬diagram.HasNode id := by
  rw [Diagram.HasNode, ← drawn]
  simp [Node.written]

theorem exists_find?_iff_hasNode {id : String} :
    (∃ node, nodes.find? (·.id == id) = some node) ↔ diagram.HasNode id := by
  rw [← Option.ne_none_iff_exists', ne_eq, find?_eq_none_iff_not_hasNode drawn, not_not]

/-- A connection is refused for the first thing that is wrong with it, in the order of the checks:
its tag, then either end. -/
theorem Connection.classify_eq_error_iff {connection : Connection String}
    {cause : ClassificationError} :
    connection.classify nodes = .error cause ↔ connection.Fault diagram cause := by
  constructor
  · intro failed
    unfold Connection.classify at failed
    split at failed
    · rename_i unknown
      obtain rfl := Except.error.inj failed
      exact .tag (ConnectionKind.ofTag?_eq_none_iff.1 unknown)
    · rename_i kind found
      have known : connection.Known := ⟨kind, ConnectionKind.tag_of_ofTag? found⟩
      split at failed
      · rename_i missing
        obtain rfl := Except.error.inj failed
        exact .first known ((find?_eq_none_iff_not_hasNode drawn).1 missing)
      · rename_i a foundA
        have first := (exists_find?_iff_hasNode drawn).1 ⟨a, foundA⟩
        split at failed
        · rename_i missing
          obtain rfl := Except.error.inj failed
          exact .second known first ((find?_eq_none_iff_not_hasNode drawn).1 missing)
        · cases failed
  · intro fault
    unfold Connection.classify
    cases fault with
    | tag unknown => rw [ConnectionKind.ofTag?_eq_none_iff.2 unknown]
    | first known missing =>
        obtain ⟨kind, same⟩ := known
        rw [← same, ConnectionKind.ofTag?_tag]
        simp only [(find?_eq_none_iff_not_hasNode drawn).2 missing]
    | second known first missing =>
        obtain ⟨kind, same⟩ := known
        obtain ⟨a, foundA⟩ := (exists_find?_iff_hasNode drawn).2 first
        rw [← same, ConnectionKind.ofTag?_tag]
        simp only [foundA, (find?_eq_none_iff_not_hasNode drawn).2 missing]

/-- A connection has a link exactly when nothing is wrong with it. -/
theorem Connection.exists_classify_iff {connection : Connection String} :
    (∃ link, connection.classify nodes = .ok link) ↔ connection.Sound diagram := by
  cases ended : connection.classify nodes with
  | error cause =>
      have fault := (Connection.classify_eq_error_iff drawn).1 ended
      constructor
      · rintro ⟨_, same⟩
        cases same
      · rintro ⟨known, first, second⟩
        cases fault with
        | tag unknown => exact absurd known unknown
        | first _ missing => exact absurd first missing
        | second _ _ missing => exact absurd second missing
  | ok link =>
      refine ⟨fun _ => ?_, fun _ => ⟨link, rfl⟩⟩
      obtain ⟨_, endA, endB⟩ := Connection.of_classify ended
      have ends : ∀ node ∈ nodes, diagram.HasNode node.id := fun node mem =>
        ⟨node.written, drawn ▸ List.mem_map_of_mem mem, rfl⟩
      rw [← Connection.written_of_classify ended]
      exact ⟨⟨link.kind, rfl⟩, ends _ endA, ends _ endB⟩

end Connections

/-! ### Diagrams -/

/-- All nodes are looked at before any connection is, so a wrong connection shows only among nodes
that are right. -/
theorem classify_eq_error_cases {diagram : Diagram} {cause : ClassificationError} :
    diagram.classify = .error cause ↔ classifyNodes diagram.nodes = .error cause ∨
      ∃ nodes, classifyNodes diagram.nodes = .ok nodes ∧
        classifyConnections nodes diagram.connections = .error cause := by
  unfold Diagram.classify
  split
  · rename_i early failed
    simp [failed]
  · rename_i nodes nodesRead
    simp only [nodesRead, reduceCtorEq, Except.ok.injEq, exists_eq_left', false_or]
    split
    · rename_i late failed
      simp [failed]
    · rename_i links linksRead
      simp [linksRead]

/-- A diagram fails with its first fault. -/
theorem classify_eq_error_iff {diagram : Diagram} {cause : ClassificationError} :
    diagram.classify = .error cause ↔ diagram.FirstFault cause := by
  have nodesKnown : ∀ nodes, classifyNodes diagram.nodes = .ok nodes →
      ∀ node ∈ diagram.nodes, node.Known := by
    intro nodes read node mem
    rw [← classifyNodes_eq_ok_iff.1 read] at mem
    obtain ⟨construct, _, rfl⟩ := List.mem_map.1 mem
    exact ⟨construct.kind, rfl⟩
  rw [classify_eq_error_cases]
  constructor
  · rintro (failed | ⟨nodes, read, failed⟩)
    · rw [classifyNodes_eq_mapM, mapM_eq_error_iff] at failed
      obtain ⟨before, node, after, split, fine, failed⟩ := failed
      obtain ⟨unknown, rfl⟩ := Node.classify_eq_error_iff.1 failed
      exact .node split (fun earlier mem => Node.exists_classify_iff.1 (fine earlier mem)) unknown
    · have drawn := classifyNodes_eq_ok_iff.1 read
      rw [classifyConnections_eq_mapM, mapM_eq_error_iff] at failed
      obtain ⟨before, connection, after, split, fine, failed⟩ := failed
      exact .connection (nodesKnown nodes read) split
        (fun earlier mem => (Connection.exists_classify_iff drawn).1 (fine earlier mem))
        ((Connection.classify_eq_error_iff drawn).1 failed)
  · intro fault
    cases fault with
    | node split fine unknown =>
        left
        rw [classifyNodes_eq_mapM, mapM_eq_error_iff]
        exact ⟨_, _, _, split, fun earlier mem => Node.exists_classify_iff.2 (fine earlier mem),
          Node.classify_eq_error_iff.2 ⟨unknown, rfl⟩⟩
    | connection known split fine fault =>
        cases read : classifyNodes diagram.nodes with
        | error early =>
            rw [classifyNodes_eq_mapM, mapM_eq_error_iff] at read
            obtain ⟨_, node, _, nodes, _, failed⟩ := read
            have mem : node ∈ diagram.nodes := by simp [nodes]
            exact absurd (known node mem) (Node.classify_eq_error_iff.1 failed).1
        | ok nodes =>
            have drawn := classifyNodes_eq_ok_iff.1 read
            refine .inr ⟨nodes, rfl, ?_⟩
            rw [classifyConnections_eq_mapM, mapM_eq_error_iff]
            exact ⟨_, _, _, split,
              fun earlier mem => (Connection.exists_classify_iff drawn).2 (fine earlier mem),
              (Connection.classify_eq_error_iff drawn).2 fault⟩

theorem Diagram.WellFormed.not_firstFault {diagram : Diagram} (wellFormed : diagram.WellFormed)
    (cause : ClassificationError) : ¬diagram.FirstFault cause := by
  intro fault
  cases fault with
  | node split _ unknown => exact unknown (wellFormed.nodes _ (by simp [split]))
  | @connection before after connection _ _ split _ fault =>
      have mem : connection ∈ diagram.connections := by simp [split]
      obtain ⟨known, first, second⟩ := wellFormed.connections connection mem
      cases fault with
      | tag unknown => exact unknown known
      | first _ missing => exact missing first
      | second _ _ missing => exact missing second

theorem wellFormed_written (d : Classified) : d.written.WellFormed where
  nodes node mem := by
    obtain ⟨construct, _, rfl⟩ := List.mem_map.1 mem
    exact ⟨construct.kind, rfl⟩
  connections connection mem := by
    obtain ⟨link, linkIn, rfl⟩ := List.mem_map.1 mem
    obtain ⟨endA, endB⟩ := d.ends_mem link linkIn
    exact ⟨⟨link.kind, rfl⟩, ⟨_, List.mem_map_of_mem endA, rfl⟩, ⟨_, List.mem_map_of_mem endB, rfl⟩⟩

/-- A diagram can be classified exactly if it is well formed. -/
theorem exists_classify_iff {diagram : Diagram} :
    (∃ d, diagram.classify = .ok d) ↔ diagram.WellFormed := by
  constructor
  · rintro ⟨d, read⟩
    exact classify_eq_ok_iff.1 read ▸ wellFormed_written d
  · intro wellFormed
    cases ended : diagram.classify with
    | ok d => exact ⟨d, rfl⟩
    | error cause => exact absurd (classify_eq_error_iff.1 ended) (wellFormed.not_firstFault cause)

/-! ## The grown index -/

/-- Only the group of the key gets the entry. -/
theorem Groups.add_map {κ α : Type} [BEq κ] (keys : List κ) (group : κ → List α) (key : κ)
    (entry : α) :
    Groups.add (keys.map fun other => (other, group other)) key entry =
      keys.map fun other =>
        (other, if other == key then group other ++ [entry] else group other) := by
  rw [Groups.add, List.map_map]
  refine List.map_congr_left fun other _ => ?_
  by_cases same : (other == key) = true <;> simp [same]

namespace Index

/-- The index that holds some nodes and links: each group and each row is what a filter
keeps. -/
def holding (nodes : List Construct) (links : List Link) : Index where
  nodes := nodes
  byKind := NodeKind.all.map fun kind => (kind, nodes.filter (·.kind == kind))
  linksByKind := ConnectionKind.all.map fun kind => (kind, links.filter (·.kind == kind))
  rows := (nodes.map (·.id)).map fun id => (id, links.filter (·.touches id))

theorem addNode_holding (nodes : List Construct) (node : Construct) :
    (holding nodes []).addNode node = holding (nodes ++ [node]) [] := by
  have groups : ∀ kind : NodeKind,
      (if kind == node.kind then nodes.filter (·.kind == kind) ++ [node]
        else nodes.filter (·.kind == kind)) = (nodes ++ [node]).filter (·.kind == kind) := by
    intro kind
    by_cases same : kind = node.kind
    · simp [same]
    · simp [same, Ne.symm same]
  simp only [addNode, holding, Groups.add_map, groups]
  simp

/-- One more link goes to the end of each group and of each row that it belongs to, which is where a
filter of the longer list keeps it.  A loop goes into one row, and once. -/
theorem addLink_holding (nodes : List Construct) (links : List Link) (link : Link) :
    (holding nodes links).addLink link = holding nodes (links ++ [link]) := by
  have groups : ∀ kind : ConnectionKind,
      (if kind == link.kind then links.filter (·.kind == kind) ++ [link]
        else links.filter (·.kind == kind)) = (links ++ [link]).filter (·.kind == kind) := by
    intro kind
    by_cases same : kind = link.kind
    · simp [same]
    · simp [same, Ne.symm same]
  have rows : (if link.b.id = link.a.id then (holding nodes links).rows.add link.a.id link
      else ((holding nodes links).rows.add link.a.id link).add link.b.id link) =
        (holding nodes (links ++ [link])).rows := by
    simp only [holding, Groups.add_map]
    by_cases loop : link.b.id = link.a.id
    · rw [if_pos loop]
      refine List.map_congr_left fun id _ => ?_
      by_cases here : id = link.a.id <;> simp [Link.touches, loop, here]
    · rw [if_neg loop]
      refine List.map_congr_left fun id _ => ?_
      by_cases first : id = link.a.id
      · simp [Link.touches, first, Ne.symm loop]
      · by_cases second : id = link.b.id
        · simp [Link.touches, second, loop]
        · simp [Link.touches, first, second]
  rw [addLink, rows]
  simp only [holding, Groups.add_map, groups]

/-- Nodes are added up to the first that cannot be classified. -/
theorem addNodes_holding (nodes : List Construct) (drawn : List (Node String)) :
    (holding nodes []).addNodes drawn =
      (classifyNodes drawn).map fun more => holding (nodes ++ more) [] := by
  induction drawn generalizing nodes with
  | nil => simp [addNodes, classifyNodes, Except.map]
  | cons node rest ih =>
      rw [addNodes, classifyNodes]
      cases node.classify with
      | error cause => rfl
      | ok construct =>
          show ((holding nodes []).addNode construct).addNodes rest = _
          rw [addNode_holding, ih]
          cases classifyNodes rest <;> simp [bind, Except.bind, pure, Except.pure, Except.map]

/-- Connections are added up to the first that is no link. -/
theorem addConnections_holding (nodes : List Construct) (links : List Link)
    (drawn : List (Connection String)) :
    (holding nodes links).addConnections drawn =
      (classifyConnections nodes drawn).map fun more => holding nodes (links ++ more) := by
  induction drawn generalizing links with
  | nil => simp [addConnections, classifyConnections, Except.map]
  | cons connection rest ih =>
      rw [addConnections, classifyConnections]
      show (connection.classify nodes >>= fun link =>
        ((holding nodes links).addLink link).addConnections rest) = _
      cases connection.classify nodes with
      | error cause => rfl
      | ok link =>
          show ((holding nodes links).addLink link).addConnections rest = _
          rw [addLink_holding, ih]
          cases classifyConnections nodes rest <;>
            simp [bind, Except.bind, pure, Except.pure, Except.map]

end Index

/-- The index of a classified diagram: all its views, held ready. -/
def Classified.index (d : Classified) : Index where
  nodes := d.nodes
  byKind := NodeKind.all.map fun kind => (kind, d.ofKind kind)
  linksByKind := ConnectionKind.all.map fun kind => (kind, d.linksOfKind kind)
  rows := d.ids.map fun id => (id, d.linksOf id)

/-- An index that is grown in one pass holds the views of the classified diagram, and the
pass stops where classification does. -/
theorem Diagram.index_eq (diagram : Diagram) :
    diagram.index = diagram.classify.map Classified.index := by
  have empty : ({} : Index) = Index.holding [] [] := rfl
  rw [Diagram.index, empty, Index.addNodes_holding]
  cases ended : diagram.classify with
  | error cause =>
      rcases classify_eq_error_cases.1 ended with failed | ⟨nodes, read, failed⟩
      · rw [failed]
        rfl
      · rw [read]
        show (Index.holding nodes []).addConnections diagram.connections = _
        rw [Index.addConnections_holding, failed]
        rfl
  | ok d =>
      obtain rfl := classify_eq_ok_iff.1 ended
      have nodes : classifyNodes d.written.nodes = .ok d.nodes := classifyNodes_eq_ok_iff.2 rfl
      rw [nodes]
      show (Index.holding d.nodes []).addConnections d.written.connections = _
      have links : classifyConnections d.nodes d.written.connections = .ok d.links :=
        classifyConnections_written fun _ mem => mem
      rw [Index.addConnections_holding, links]
      rfl

/-! ## The views -/

/-- The views of a classified diagram are those of the diagram as drawn. -/
structure Classified.Shows (d : Classified) (diagram : Diagram) : Prop where
  nodes : d.nodes.map Node.written = diagram.nodes
  links : d.links.map Link.written = diagram.connections
  /-- The nodes of any kinds, in diagram order. -/
  ofKinds : ∀ kinds : List NodeKind, (d.ofKinds kinds.contains).map Node.written =
    diagram.nodes.filter fun node => (kinds.map NodeKind.tag).contains node.kind
  ofKind : ∀ kind, d.ofKind kind = d.ofKinds [kind].contains
  /-- Every node is in one group. -/
  partition : (NodeKind.all.flatMap d.ofKind).Perm d.nodes
  linksOfKind : ∀ kind, (d.linksOfKind kind).map Link.written =
    diagram.connections.filter (·.kind == kind.tag)
  /-- The links of a node, in diagram order. -/
  linksOf : ∀ id, (d.linksOf id).map Link.written = diagram.connections.filter (·.touches id)
  listedOnce : ∀ id, (d.linksOf id).Nodup
  neighbours_comm : ∀ node ∈ d.nodes, ∀ other ∈ d.nodes, ∀ link,
    (link, other) ∈ d.neighbours node.id ↔ (link, node) ∈ d.neighbours other.id

/-- Groups by a key that is one of `keys`, put together, are the list in another order. -/
theorem flatMap_filter_perm {κ α : Type} [DecidableEq κ] {keys : List κ} (distinct : keys.Nodup)
    (key : α → κ) (items : List α) (listed : ∀ item ∈ items, key item ∈ keys) :
    (keys.flatMap fun group => items.filter (key · == group)).Perm items := by
  induction items with
  | nil => simp
  | cons item rest ih =>
      obtain ⟨here, listed⟩ := List.forall_mem_cons.1 listed
      obtain ⟨before, after, split⟩ := List.append_of_mem here
      subst split
      obtain ⟨_, afterDistinct, apart⟩ := List.nodup_append.1 distinct
      have notBefore : ∀ group ∈ before, key item ≠ group :=
        fun group mem same => apart group mem (key item) List.mem_cons_self same.symm
      have notAfter : ∀ group ∈ after, key item ≠ group :=
        fun group mem same => (List.nodup_cons.1 afterDistinct).1 (same ▸ mem)
      have elsewhere : ∀ groups : List κ, (∀ group ∈ groups, key item ≠ group) →
          (groups.flatMap fun group => (item :: rest).filter (key · == group)) =
            groups.flatMap fun group => rest.filter (key · == group) := by
        intro groups apart
        refine List.flatMap_congr fun group mem => ?_
        simp [apart group mem]
      have ih := ih listed
      rw [List.flatMap_append, List.flatMap_cons] at ih ⊢
      have group : (item :: rest).filter (key · == key item) =
          item :: rest.filter (key · == key item) := by simp
      rw [elsewhere before notBefore, elsewhere after notAfter, group, List.cons_append]
      exact List.perm_middle.trans (ih.cons item)

theorem contains_map_tag (kinds : List NodeKind) (kind : NodeKind) :
    (kinds.map NodeKind.tag).contains kind.tag = kinds.contains kind := by
  rw [Bool.eq_iff_iff, List.contains_iff_mem, List.contains_iff_mem]
  have injective : Function.Injective NodeKind.tag := fun _ _ => NodeKind.tag_injective
  exact List.mem_map_of_injective injective

/-- A diagram as written down shows its own views: every list of the classified diagram is a filter
of what was drawn. -/
theorem shows_written (d : Classified) : d.Shows d.written where
  nodes := rfl
  links := rfl
  ofKinds kinds := by
    show _ = (d.nodes.map Node.written).filter _
    rw [List.filter_map]
    have same : ∀ node : Construct,
        (kinds.map NodeKind.tag).contains node.written.kind = kinds.contains node.kind :=
      fun node => contains_map_tag kinds node.kind
    simp only [Function.comp_def, same]
    rfl
  ofKind kind := by
    refine List.filter_congr fun node _ => ?_
    show (node.kind == kind) = [kind].contains node.kind
    rw [Bool.eq_iff_iff, beq_iff_eq, List.contains_iff_mem, List.mem_singleton]
  partition :=
    flatMap_filter_perm (by decide) Node.kind d.nodes fun node _ => node.kind.mem_all
  linksOfKind kind := by
    show _ = (d.links.map Link.written).filter _
    rw [List.filter_map]
    have same : ∀ link : Link, (link.written.kind == kind.tag) = (link.kind == kind) := by
      intro link
      rw [Bool.eq_iff_iff, beq_iff_eq, beq_iff_eq]
      exact ⟨ConnectionKind.tag_injective, congrArg ConnectionKind.tag⟩
    simp only [Function.comp_def, same]
    rfl
  linksOf id := (Classified.filter_written_connections d id).symm
  listedOnce id := (List.Nodup.of_map _ d.link_ids_nodup).filter _
  neighbours_comm _ nodeIn _ otherIn _ :=
    ⟨Classified.mem_neighbours_comm nodeIn, Classified.mem_neighbours_comm otherIn⟩

/-- Classification succeeds exactly for well-formed diagrams and otherwise tells the first
fault, whether the views are looked up or grown in one pass; and they are the views of the
diagram as drawn. -/
theorem classification_exact (diagram : Diagram) :
    ((∃ d, diagram.classify = .ok d) ↔ diagram.WellFormed) ∧
      (∀ cause, diagram.classify = .error cause ↔ diagram.FirstFault cause) ∧
      diagram.index = diagram.classify.map Classified.index ∧
      ∀ d, diagram.classify = .ok d → d.Shows diagram := by
  refine ⟨exists_classify_iff, fun _ => classify_eq_error_iff, diagram.index_eq, ?_⟩
  intro d read
  exact classify_eq_ok_iff.1 read ▸ shows_written d

end EntitySchema
