/-
# EntitySchema.Proofs.Renaming -- ids only tell nodes and connections apart

Ids are compared with each other and never looked into.  A diagram whose ids are
renamed without making two of them equal (`Diagram.Renaming`) is therefore a whole copy
of the diagram, and compiles to the same script where the diagram compiles
(`compile_renamed`).

Issues name the nodes and connections that they are about, so their ids are
renamed (`RenamesIssue`).  Messages use labels; only a generalization without a label is
called by its id.
-/
import EntitySchema.Proofs.Classification
import EntitySchema.Proofs.References
import EntitySchema.Proofs.WholeCopies

namespace EntitySchema

set_option autoImplicit false

/-! ## Renaming -/

/-- New ids for the nodes and for the connections of a diagram, no two of them alike. -/
structure Diagram.Renaming (diagram : Diagram) where
  node : String → String
  connection : String → String
  node_inj : ∀ first ∈ diagram.nodes, ∀ second ∈ diagram.nodes,
    node first.id = node second.id → first.id = second.id
  connection_inj : ∀ first ∈ diagram.connections, ∀ second ∈ diagram.connections,
    connection first.id = connection second.id → first.id = second.id

def Connection.renamed {κ : Type} (node connection : String → String) (item : Connection κ) :
    Connection κ :=
  { item with id := connection item.id, a := node item.a, b := node item.b }

/-- Distinct ids are distinct after renaming. -/
theorem nodup_map_renamed {α : Type} {items : List α} {id image : α → String}
    (nodup : (items.map id).Nodup)
    (inj : ∀ first ∈ items, ∀ second ∈ items, image first = image second → id first = id second) :
    (items.map image).Nodup :=
  (List.Nodup.of_map id nodup).map_on fun first firstIn second secondIn same =>
    List.inj_on_of_nodup_map nodup firstIn secondIn (inj first firstIn second secondIn same)

def Diagram.renamed (diagram : Diagram) (names : diagram.Renaming) : Diagram where
  nodes := diagram.nodes.map (·.renamed names.node)
  connections := diagram.connections.map (·.renamed names.node names.connection)
  node_ids_nodup := by
    rw [List.map_map]
    exact nodup_map_renamed diagram.node_ids_nodup names.node_inj
  connection_ids_nodup := by
    rw [List.map_map]
    exact nodup_map_renamed diagram.connection_ids_nodup names.connection_inj

/-- Whether an issue names a node, or a connection at it. -/
def Diagram.IsAbout (diagram : Diagram) (issue : Issue) (node : Node String) : Prop :=
  issue.nodeId = some node.id ∨
    ∃ connection ∈ diagram.connections,
      issue.connectionId = some connection.id ∧ connection.touches node.id = true

/-- The issue under the new ids; its message may differ only in the id of a generalization
without a label that it is about. -/
structure RenamesIssue (diagram : Diagram) (names : diagram.Renaming) (issue image : Issue) :
    Prop where
  kind : image.kind = issue.kind
  pass : image.pass = issue.pass
  nodeId : image.nodeId = issue.nodeId.map names.node
  connectionId : image.connectionId = issue.connectionId.map names.connection
  message : image.message = issue.message ∨
    ∃ generalization ∈ diagram.nodes,
      generalization.kind ∈
        [NodeKind.generalizationDisjoint.tag, NodeKind.generalizationOverlap.tag] ∧
      generalization.label = "" ∧ diagram.IsAbout issue generalization ∧
      ∃ before after, issue.message = before ++ generalization.id ++ after ∧
        image.message = before ++ names.node generalization.id ++ after

/-! ## Classified diagrams -/

def Link.renamed (node connection : String → String) (link : Link) : Link :=
  { link with id := connection link.id, a := link.a.renamed node, b := link.b.renamed node }

namespace Classified

variable {d : Classified} (names : d.written.Renaming)

theorem node_inj_of_mem {first second : Construct} (firstIn : first ∈ d.nodes)
    (secondIn : second ∈ d.nodes) (same : names.node first.id = names.node second.id) :
    first.id = second.id :=
  names.node_inj first.written (List.mem_map_of_mem firstIn) second.written
    (List.mem_map_of_mem secondIn) same

def renamed : Classified where
  nodes := d.nodes.map (·.renamed names.node)
  links := d.links.map (·.renamed names.node names.connection)
  ids_nodup := by
    rw [List.map_map]
    exact nodup_map_renamed d.ids_nodup fun _ firstIn _ secondIn =>
      node_inj_of_mem names firstIn secondIn
  link_ids_nodup := by
    rw [List.map_map]
    refine nodup_map_renamed d.link_ids_nodup fun first firstIn second secondIn same => ?_
    exact names.connection_inj first.written (List.mem_map_of_mem firstIn) second.written
      (List.mem_map_of_mem secondIn) same
  ends_mem := by
    rw [List.forall_mem_map]
    intro link known
    obtain ⟨endA, endB⟩ := d.ends_mem link known
    exact ⟨List.mem_map_of_mem endA, List.mem_map_of_mem endB⟩

theorem written_renamed : (renamed names).written = d.written.renamed names := by
  simp only [written, renamed, Diagram.renamed, List.map_map]
  rfl

/-- A renamed link leads from a renamed node to the renamed node at its other end. -/
theorem otherEnd_renamed {link : Link} (known : link ∈ d.links) {node : Construct}
    (inNodes : node ∈ d.nodes) :
    (link.renamed names.node names.connection).otherEnd? (names.node node.id) =
      (link.otherEnd? node.id).map (·.renamed names.node) := by
  obtain ⟨endA, endB⟩ := d.ends_mem link known
  have atEnd : ∀ {place : Construct}, place ∈ d.nodes →
      (names.node place.id = names.node node.id ↔ place.id = node.id) := fun placeIn =>
    ⟨node_inj_of_mem names placeIn inNodes, congrArg names.node⟩
  simp only [Link.otherEnd?, Link.renamed, Node.renamed_id, atEnd endA, atEnd endB]
  split
  · rfl
  · split <;> rfl

/-- The renamed diagram is a copy of the diagram. -/
def underNames : Copy d (renamed names) where
  rename := names.node
  link := Link.renamed names.node names.connection
  renameLink := names.connection
  rename_inj first firstIn second secondIn same := by
    obtain ⟨node, nodeIn, rfl⟩ := List.mem_map.1 firstIn
    obtain ⟨other, otherIn, rfl⟩ := List.mem_map.1 secondIn
    exact node_inj_of_mem names nodeIn otherIn same
  node_mem _ inNodes := List.mem_map_of_mem inNodes
  link_kind _ := rfl
  link_id _ := rfl
  neighbours node inNodes := by
    rw [neighbours_eq, neighbours_eq]
    exact filterMap_follow_map fun link known => otherEnd_renamed names known inNodes

theorem underNames_whole : (underNames names).Whole := by
  intro group _
  show (d.nodes.map (·.renamed names.node)).filter (group.contains ·.kind) = _
  rw [List.filter_map]
  rfl

/-! ## Issues -/

/-- A generalization is called by its label, or else by its id. -/
theorem generalizationName_cases (generalization : Construct) :
    (generalization.label = "" ∧ generalizationName generalization = generalization.id ∧
      generalizationName (generalization.renamed names.node) = names.node generalization.id) ∨
    generalizationName (generalization.renamed names.node) = generalizationName generalization := by
  unfold generalizationName
  by_cases unlabelled : generalization.label.isEmpty = true
  · left
    refine ⟨by simpa using unlabelled, if_pos unlabelled, if_pos unlabelled⟩
  · right
    rw [Node.renamed_label, if_neg unlabelled, if_neg unlabelled]

theorem isGeneralization_tag {kind : NodeKind} (isGeneralization : kind.isGeneralization = true) :
    kind.tag ∈ [NodeKind.generalizationDisjoint.tag, NodeKind.generalizationOverlap.tag] := by
  cases kind <;> first | decide | cases isGeneralization

/-- The ids in an issue are renamed, and its kind and pass are kept. -/
theorem issue_omission {e : Classified} (copy : Copy d e) (omission : Omission) :
    (copy.omission omission).issue.kind = omission.issue.kind ∧
      (copy.omission omission).issue.pass = omission.issue.pass ∧
      (copy.omission omission).issue.nodeId = omission.issue.nodeId.map copy.rename ∧
      (copy.omission omission).issue.connectionId =
        omission.issue.connectionId.map copy.renameLink := by
  cases omission <;>
    simp only [Copy.omission, Omission.issue, Failure.issue, Omission.failure, Omission.skipped,
      Omission.keyless, Copy.node_id, Copy.link_id, Option.map_some, Option.map_none, and_self]

/-- The message about an omission speaks of labels, or of one generalization by its name. -/
theorem message_omission {omission : Omission} (inDiagram : omission.Within d) :
    ((underNames names).omission omission).issue.message = omission.issue.message ∨
      ∃ generalization, (generalization ∈ d.nodes ∧ generalization.kind.isGeneralization = true) ∧
        d.written.IsAbout omission.issue generalization.written ∧
        ∃ before after,
          omission.issue.message = before ++ generalizationName generalization ++ after ∧
          ((underNames names).omission omission).issue.message =
            before ++ generalizationName (generalization.renamed names.node) ++ after := by
  cases omission with
  | noSuperclass generalization | noSubtypes generalization
  | superclassKeyUnusable generalization =>
      exact .inr ⟨generalization, inDiagram, .inl rfl, _, _, rfl, rfl⟩
  | superclassWithoutKey generalization superclass =>
      exact .inr ⟨generalization, inDiagram, .inl rfl, _, _, rfl, rfl⟩
  | subtypeNotStrong generalization subtype link =>
      obtain ⟨known, near⟩ := inDiagram
      obtain ⟨linkIn, led⟩ := mem_neighbours_iff.1 near
      have touches : link.touches generalization.id = true := by
        rw [link.touches_eq, led, Option.isSome_some]
      have about : d.written.IsAbout (Omission.subtypeNotStrong generalization subtype link).issue
          generalization.written :=
        .inr ⟨link.written, List.mem_map_of_mem linkIn, rfl, touches⟩
      exact .inr ⟨generalization, known, about, _, _, rfl, rfl⟩
  | _ => exact .inl rfl

/-- The issue about an omission is renamed to the issue about the omission of the copies. -/
theorem renamesIssue_of_copiesIssue {issue image : Issue}
    (copied : (underNames names).CopiesIssue issue image) :
    RenamesIssue d.written names issue image := by
  obtain ⟨omission, inDiagram, rfl, rfl⟩ := copied
  obtain ⟨kind, pass, nodeId, connectionId⟩ := issue_omission (underNames names) omission
  refine ⟨kind, pass, nodeId, connectionId, ?_⟩
  obtain same | ⟨generalization, known, about, before, after, said, saidOfCopy⟩ :=
    message_omission names inDiagram
  · exact .inl same
  obtain ⟨unlabelled, byId, byNewId⟩ | same := generalizationName_cases names generalization
  · refine .inr ⟨generalization.written, List.mem_map_of_mem known.1, isGeneralization_tag known.2,
      unlabelled, about, before, after, ?_, ?_⟩
    · rw [said, byId]
      rfl
    · rw [saidOfCopy, byNewId]
      rfl
  · left
    rw [saidOfCopy, same, said]

end Classified

/-! ## Compilation -/

/-- Where a diagram compiles, it compiles under other ids to the same script; the issues are the
same but for the ids. -/
theorem compile_renamed (settings : Settings) {diagram : Diagram} {result : CompileResult}
    (compiled : compile settings diagram = .ok result) (names : diagram.Renaming) :
    ∃ image, compile settings (diagram.renamed names) = .ok image ∧
      image.statements = result.statements ∧ image.ddl = result.ddl ∧
      image.phases = result.phases ∧ image.errorCodes = result.errorCodes ∧
      List.Forall₂ (RenamesIssue diagram names) result.issues image.issues := by
  obtain ⟨d, read⟩ := exists_classified compiled
  obtain rfl := classify_eq_ok_iff.1 read
  have readRenamed : (d.written.renamed names).classify = .ok (Classified.renamed names) :=
    classify_eq_ok_iff.2 (Classified.written_renamed names)
  obtain ⟨image, imageCompiled, statements, phases, errorCodes, issues⟩ :=
    (Classified.underNames_whole names).compile_copied read readRenamed compiled
  have ddl : image.ddl = result.ddl := by rw [CompileResult.ddl, statements, CompileResult.ddl]
  exact ⟨image, imageCompiled, statements, ddl, phases, errorCodes,
    issues.imp fun _ _ => Classified.renamesIssue_of_copiesIssue names⟩

/-- An entity with a key, and a generalization without a label that has no superclass. -/
def unlabelled : Diagram :=
  { nodes :=
      [.drawn "s" "S" "StrongEntity", .drawn "k" "k" "KeyAttribute",
       .drawn "g" "" "GeneralizationDisjoint"]
    connections := [.drawn "1" "s" "k", .drawn "2" "g" "s" "GeneralizationToSubtype"]
    node_ids_nodup := by decide
    connection_ids_nodup := by decide }

/-- The ids of the entity and of its key exchanged, and other ids for the rest. -/
def unlabelledNames : unlabelled.Renaming where
  node id := if id = "s" then "k" else if id = "k" then "s" else "new " ++ id
  connection id := id ++ id
  node_inj := by decide
  connection_inj := by decide

theorem unlabelled_renamed :
    ∃ result image, compile {} unlabelled = .ok result ∧
      compile {} (unlabelled.renamed unlabelledNames) = .ok image ∧
      image.statements = result.statements ∧
      List.Forall₂ (RenamesIssue unlabelled unlabelledNames) result.issues image.issues := by
  have known : compilesTo {} unlabelled (fun _ => true) = true := by decide +kernel
  obtain ⟨result, compiled, _⟩ := exists_of_compilesTo known
  obtain ⟨image, imageCompiled, statements, _, _, _, issues⟩ :=
    compile_renamed {} compiled unlabelledNames
  exact ⟨result, image, compiled, imageCompiled, statements, issues⟩

/-- Only the message shows which name was used. -/
example : (compile {} (unlabelled.renamed unlabelledNames)).toOption.map (·.issues) =
    some
      [{ kind := "incomplete_generalization", pass := "generalizations",
         message := "Generalization new g has no superclass connector; no rules emitted",
         nodeId := some "new g" }] := by decide +kernel

end EntitySchema
