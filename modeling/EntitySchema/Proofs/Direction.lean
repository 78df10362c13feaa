/-
# EntitySchema.Proofs.Direction -- connections have no direction

A connection is used only by its id, its kind and the end opposite to the node from
which it is followed.  Exchanging the ends of any connections therefore gives a copy
of the diagram under the same ids (`Classified.turning`), and the copy is
compiled with the same outcome (`compile_turned`).
-/
import EntitySchema.Proofs.Classification
import EntitySchema.Proofs.References
import EntitySchema.Proofs.WholeCopies

namespace EntitySchema

set_option autoImplicit false

/-- The connection with its ends exchanged. -/
def Connection.turned {κ : Type} (connection : Connection κ) : Connection κ :=
  { connection with a := connection.b, b := connection.a }

/-- The diagram with the ends of the chosen connections exchanged. -/
def Diagram.turned (diagram : Diagram) (chosen : Connection String → Bool) : Diagram where
  nodes := diagram.nodes
  connections := diagram.connections.map fun connection =>
    if chosen connection then connection.turned else connection
  node_ids_nodup := diagram.node_ids_nodup
  connection_ids_nodup := by
    have ids : ∀ connection : Connection String,
        (if chosen connection then connection.turned else connection).id = connection.id := by
      intro connection
      split <;> rfl
    simpa only [List.map_map, Function.comp_def, ids] using diagram.connection_ids_nodup

/-! ## Classified diagrams -/

def Link.turned (chosen : Connection String → Bool) (link : Link) : Link :=
  if chosen link.written then { link with a := link.b, b := link.a } else link

namespace Link

variable (chosen : Connection String → Bool) (link : Link)

theorem turned_id : (link.turned chosen).id = link.id := by
  rw [turned]
  split <;> rfl

theorem turned_kind : (link.turned chosen).kind = link.kind := by
  rw [turned]
  split <;> rfl

theorem written_turned : (link.turned chosen).written =
    if chosen link.written then link.written.turned else link.written := by
  rw [turned]
  split <;> rfl

end Link

namespace Classified

variable (d : Classified) (chosen : Connection String → Bool)

/-- From either end a link leads to the same node when it is turned; a loop leads
back either way, since no two nodes have one id. -/
theorem otherEnd_turned {d : Classified} {link : Link} (known : link ∈ d.links) (id : String) :
    (link.turned chosen).otherEnd? id = link.otherEnd? id := by
  obtain ⟨endA, endB⟩ := d.ends_mem link known
  rw [Link.turned]
  split
  · simp only [Link.otherEnd?]
    by_cases atA : link.a.id = id
    · by_cases atB : link.b.id = id
      · have loop := eq_of_id_eq endA endB (atA.trans atB.symm)
        rw [if_pos atB, if_pos atA, loop]
      · rw [if_neg atB, if_pos atA, if_pos atA]
    · by_cases atB : link.b.id = id
      · rw [if_pos atB, if_neg atA, if_pos atB]
      · rw [if_neg atB, if_neg atA, if_neg atA, if_neg atB]
  · rfl

def turned : Classified where
  nodes := d.nodes
  links := d.links.map (Link.turned chosen)
  ids_nodup := d.ids_nodup
  link_ids_nodup := by
    simpa only [List.map_map, Function.comp_def, Link.turned_id] using d.link_ids_nodup
  ends_mem := by
    rw [List.forall_mem_map]
    intro link known
    rw [Link.turned]
    split
    · exact (d.ends_mem link known).symm
    · exact d.ends_mem link known

theorem written_turned : (d.turned chosen).written = d.written.turned chosen := by
  simp only [written, turned, Diagram.turned, List.map_map, Function.comp_def, Link.written_turned]

/-- The diagram with turned links is a copy of the diagram. -/
def turning : Copy d (d.turned chosen) where
  rename := id
  link := Link.turned chosen
  renameLink := id
  rename_inj _ _ _ _ same := same
  node_mem _ inNodes := inNodes
  link_kind := Link.turned_kind chosen
  link_id := Link.turned_id chosen
  neighbours node _ := by
    rw [neighbours_eq, neighbours_eq]
    refine filterMap_follow_map fun link known => ?_
    rw [otherEnd_turned chosen known]
    exact (congrFun Option.map_id (link.otherEnd? node.id)).symm

theorem turning_whole : (d.turning chosen).Whole := fun group _ =>
  (List.map_id (d.ofKinds group.contains)).symm

end Classified

/-! ## Compilation -/

/-- Which end of a connection comes first does not matter: whatever connections are
turned, the outcome is the same. -/
theorem compile_turned (settings : Settings) {diagram : Diagram} {d : Classified}
    (read : diagram.classify = .ok d) (chosen : Connection String → Bool) :
    compile settings (diagram.turned chosen) = compile settings diagram := by
  have readTurned : (diagram.turned chosen).classify = .ok (d.turned chosen) := by
    rw [classify_eq_ok_iff] at read ⊢
    rw [d.written_turned chosen, read]
  exact (d.turning_whole chosen).compile_eq read readTurned ⟨fun _ => rfl, fun _ => rfl⟩

/-- A weak entity, its owner with a loop on it, and a relationship between them. -/
def ownedAndRelated : Diagram :=
  { nodes :=
      [.drawn "s" "S" "StrongEntity", .drawn "k" "k" "KeyAttribute",
       .drawn "w" "W" "WeakEntity", .drawn "p" "p" "PartialKeyAttribute",
       .drawn "o" "O" "WeakRelationship", .drawn "r" "R" "Relationship"]
    connections :=
      [.drawn "1" "s" "k", .drawn "2" "w" "p", .drawn "3" "w" "o", .drawn "4" "o" "s",
       .drawn "5" "r" "s" "SingleLineToOne", .drawn "6" "r" "w" "DoubleLineToMany",
       .drawn "7" "s" "s"]
    node_ids_nodup := by decide
    connection_ids_nodup := by decide }

theorem ownedAndRelated_turned :
    ∃ d, ownedAndRelated.classify = .ok d ∧
      ownedAndRelated.turned (·.kind == "Plain") ≠ ownedAndRelated ∧
      compile {} (ownedAndRelated.turned (·.kind == "Plain")) = compile {} ownedAndRelated := by
  have known : classifiesTo ownedAndRelated (fun _ => true) = true := by decide +kernel
  obtain ⟨d, read, _⟩ := exists_of_classifiesTo known
  exact ⟨d, read, by decide, compile_turned {} read (·.kind == "Plain")⟩

end EntitySchema
