/-
# EntitySchema.Proofs.Lookups -- nodes by their ids

Nodes and connections make a diagram exactly if no id is used twice.  Otherwise they are
refused for the first id that repeats an earlier one, where the ids of the nodes come first
(`Diagram.FirstDuplicate`, `Diagram.ofParts_eq_error_iff`), and that is the one complaint
about a document whose fields are valid (`Diagram.ofValue_of_fields`).

There are three ways to find a node: the first of the list with the id, the entry of an
index that later nodes overwrite, and the same for the nodes of the classified diagram.
An index has the last node with an id (`lookup_ofNodes`).  Where ids are pairwise distinct
the last is the first (`find?_reverse_of_nodup`), so all three agree.
-/
import EntitySchema.Diagram.Reading
import EntitySchema.Proofs.Classification
import EntitySchema.Proofs.References

namespace EntitySchema

set_option autoImplicit false

/-! ## Repeated ids -/

/-- The first id that repeats an earlier one: it stands behind ids that are pairwise
distinct and is one of them. -/
def FirstRepeat (ids : List String) (id : String) : Prop :=
  ∃ before after, ids = before ++ id :: after ∧ before.Nodup ∧ id ∈ before

/-- The id that is found is the first to repeat: those before it are distinct.  The condition on
`seen` is what the induction carries, and is void at the start. -/
theorem firstRepeated_eq_some_iff {seen ids : List String} {id : String} :
    firstRepeated seen ids = some id ↔
      ∃ before after, ids = before ++ id :: after ∧ before.Nodup ∧
        (∀ earlier ∈ before, earlier ∉ seen) ∧ (id ∈ seen ∨ id ∈ before) := by
  induction ids generalizing seen with
  | nil => simp [firstRepeated]
  | cons head rest ih =>
      by_cases known : head ∈ seen
      · rw [firstRepeated, if_pos known, Option.some.injEq]
        constructor
        · rintro rfl
          exact ⟨[], rest, rfl, .nil, by simp, .inl known⟩
        · rintro ⟨before, after, split, _, fresh, _⟩
          cases before with
          | nil => exact (List.cons.inj split).1
          | cons first others =>
              obtain ⟨rfl, _⟩ := List.cons.inj split
              exact absurd known (fresh _ List.mem_cons_self)
      · rw [firstRepeated, if_neg known, ih]
        constructor
        · rintro ⟨before, after, rfl, distinct, fresh, again⟩
          have new : head ∉ before := fun mem => fresh head mem List.mem_cons_self
          refine ⟨head :: before, after, rfl, List.nodup_cons.2 ⟨new, distinct⟩, ?_, ?_⟩
          · intro earlier mem
            rcases List.mem_cons.1 mem with rfl | mem
            · exact known
            · exact fun old => fresh earlier mem (List.mem_cons_of_mem head old)
          · simpa [or_left_comm, or_assoc] using again
        · rintro ⟨before, after, split, distinct, fresh, again⟩
          cases before with
          | nil =>
              obtain ⟨rfl, _⟩ := List.cons.inj split
              simp [known] at again
          | cons first others =>
              obtain ⟨rfl, rfl⟩ := List.cons.inj split
              obtain ⟨new, distinct⟩ := List.nodup_cons.1 distinct
              refine ⟨others, after, rfl, distinct, fun earlier mem => ?_, ?_⟩
              · rw [List.mem_cons, not_or]
                exact ⟨fun same => new (same ▸ mem), fresh earlier (List.mem_cons_of_mem _ mem)⟩
              · simpa [or_left_comm, or_assoc] using again

theorem firstRepeated_nil_eq_some_iff {ids : List String} {id : String} :
    firstRepeated [] ids = some id ↔ FirstRepeat ids id := by
  simp [firstRepeated_eq_some_iff, FirstRepeat]

theorem firstRepeated_nil_eq_none_iff {ids : List String} :
    firstRepeated [] ids = none ↔ ids.Nodup := by
  simp [firstRepeated_eq_none_iff]

namespace Diagram

variable {nodes : List (Node String)} {connections : List (Connection String)}

/-- What some nodes and connections are refused for: the first repeated id of a node, and
only if there is none that of a connection. -/
inductive FirstDuplicate (nodes : List (Node String)) (connections : List (Connection String)) :
    DuplicateId → Prop
  | node {id : String} : FirstRepeat (nodes.map (·.id)) id →
      FirstDuplicate nodes connections (.node id)
  | connection {id : String} : (nodes.map (·.id)).Nodup →
      FirstRepeat (connections.map (·.id)) id →
      FirstDuplicate nodes connections (.connection id)

/-- A document is accepted with exactly what it says; ids are checked and nothing is changed. -/
theorem ofParts_eq_ok_iff {diagram : Diagram} :
    ofParts nodes connections = .ok diagram ↔
      diagram.nodes = nodes ∧ diagram.connections = connections := by
  constructor
  · intro made
    unfold ofParts at made
    split at made
    · cases made
    · split at made
      · cases made
      · obtain rfl := Except.ok.inj made
        exact ⟨rfl, rfl⟩
  · rintro ⟨rfl, rfl⟩
    have nodesDistinct := firstRepeated_nil_eq_none_iff.2 diagram.node_ids_nodup
    have connectionsDistinct := firstRepeated_nil_eq_none_iff.2 diagram.connection_ids_nodup
    unfold ofParts
    split
    · simp_all
    · split
      · simp_all
      · rfl

theorem exists_ofParts_iff :
    (∃ diagram, ofParts nodes connections = .ok diagram) ↔
      (nodes.map (·.id)).Nodup ∧ (connections.map (·.id)).Nodup := by
  simp only [ofParts_eq_ok_iff]
  constructor
  · rintro ⟨diagram, rfl, rfl⟩
    exact ⟨diagram.node_ids_nodup, diagram.connection_ids_nodup⟩
  · rintro ⟨nodesDistinct, connectionsDistinct⟩
    exact ⟨⟨nodes, connections, nodesDistinct, connectionsDistinct⟩, rfl, rfl⟩

/-- The id that is refused is the first repeated one, and among connections only if no node has one.
-/
theorem ofParts_eq_error_iff {duplicate : DuplicateId} :
    ofParts nodes connections = .error duplicate ↔
      FirstDuplicate nodes connections duplicate := by
  constructor
  · intro refused
    unfold ofParts at refused
    split at refused
    · rename_i id repeated
      obtain rfl := Except.error.inj refused
      exact .node (firstRepeated_nil_eq_some_iff.1 repeated)
    · rename_i distinct
      split at refused
      · rename_i id repeated
        obtain rfl := Except.error.inj refused
        exact .connection (firstRepeated_nil_eq_none_iff.1 distinct)
          (firstRepeated_nil_eq_some_iff.1 repeated)
      · cases refused
  · rintro (first | ⟨distinct, first⟩)
    · have repeated := firstRepeated_nil_eq_some_iff.2 first
      unfold ofParts
      split <;> simp_all
    · have unrepeated := firstRepeated_nil_eq_none_iff.2 distinct
      have repeated := firstRepeated_nil_eq_some_iff.2 first
      unfold ofParts
      split
      · simp_all
      · split <;> simp_all

/-- Valid fields are a diagram or have one complaint, about the document as a whole: the
first id that is used twice. -/
theorem ofValue_of_fields {value : Value} (valid : fields value = .ok (nodes, connections)) :
    ofValue value = (ofParts nodes connections).mapError fun duplicate =>
      ⟨"Diagram", [⟨[], .custom duplicate.message⟩]⟩ := by
  rw [ofValue, check, valid]
  simp only [Check.ok, Check.andThen, List.isEmpty_nil, if_true, ofFields]
  cases ofParts nodes connections <;> rfl

end Diagram

/-! ## Indexes -/

namespace NodeIndex

variable {κ : Type}

/-- Putting a node into an index changes what it has under the id of the node, and that only. -/
theorem lookup_put (node : Node κ) (index : NodeIndex κ) (id : String) :
    (index.put node).lookup id = if id = node.id then some node else index.lookup id := by
  induction index with
  | nil => grind [put]
  | cons entry rest ih =>
      obtain ⟨other, old⟩ := entry
      grind [put]

/-- Nodes that are put into an index one after the other: under each id it has the last node
with that id, and what it had before if there is none. -/
theorem lookup_foldl_put (nodes : List (Node κ)) (index : NodeIndex κ) (id : String) :
    (nodes.foldl (fun index node => index.put node) index).lookup id =
      (nodes.reverse.find? (·.id == id)).or (index.lookup id) := by
  induction nodes generalizing index with
  | nil => rfl
  | cons node rest ih =>
      rw [List.foldl_cons, ih, lookup_put, List.reverse_cons, List.find?_append, Option.or_assoc]
      by_cases same : node.id = id
      · simp [same]
      · simp [same, Ne.symm same]

theorem lookup_ofNodes (nodes : List (Node κ)) (id : String) :
    (ofNodes nodes).lookup id = nodes.reverse.find? (·.id == id) := by
  simp [ofNodes, lookup_foldl_put]

/-- Where ids are pairwise distinct, the last node with an id is the first. -/
theorem find?_reverse_of_nodup {nodes : List (Node κ)} (distinct : (nodes.map (·.id)).Nodup)
    (id : String) : nodes.reverse.find? (·.id == id) = nodes.find? (·.id == id) := by
  cases found : nodes.find? (·.id == id) with
  | none =>
      rw [List.find?_eq_none] at found ⊢
      exact fun node mem => found node (List.mem_reverse.1 mem)
  | some node =>
      have here := List.mem_of_find?_eq_some found
      cases again : nodes.reverse.find? (·.id == id) with
      | none =>
          have unfound := List.find?_eq_none.1 again node (List.mem_reverse.2 here)
          exact absurd (List.find?_some found) unfound
      | some other =>
          have there := List.mem_reverse.1 (List.mem_of_find?_eq_some again)
          have sameId : other.id = node.id := by
            have idHere := List.find?_some found
            have idThere := List.find?_some again
            simp_all
          rw [List.inj_on_of_nodup_map distinct there here sameId]

end NodeIndex

/-! ## Diagrams -/

theorem Diagram.lookup_nodeIndex (diagram : Diagram) (id : String) :
    diagram.nodeIndex.lookup id = diagram.node? id := by
  rw [nodeIndex, NodeIndex.lookup_ofNodes,
    NodeIndex.find?_reverse_of_nodup diagram.node_ids_nodup, node?]

theorem Classified.lookup_nodeIndex (d : Classified) (id : String) :
    d.nodeIndex.lookup id = d.node? id := by
  rw [nodeIndex, NodeIndex.lookup_ofNodes, NodeIndex.find?_reverse_of_nodup d.ids_nodup, node?]

theorem node?_written (d : Classified) (id : String) :
    d.written.node? id = (d.node? id).map Node.written := by
  rw [Diagram.node?, Classified.written, List.find?_map]
  rfl

/-- Nodes and connections are accepted exactly if no id is used twice, and otherwise refused
for the first that is; the nodes of a diagram are then found alike in its list, in its index
and in the index of the classified diagram. -/
theorem nodes_found_alike :
    (∀ (nodes : List (Node String)) (connections : List (Connection String)),
      ((∃ diagram, Diagram.ofParts nodes connections = .ok diagram) ↔
        (nodes.map (·.id)).Nodup ∧ (connections.map (·.id)).Nodup) ∧
      (∀ diagram, Diagram.ofParts nodes connections = .ok diagram →
        diagram.nodes = nodes ∧ diagram.connections = connections) ∧
      ∀ duplicate, Diagram.ofParts nodes connections = .error duplicate ↔
        Diagram.FirstDuplicate nodes connections duplicate) ∧
    (∀ (value : Value) (nodes : List (Node String)) (connections : List (Connection String)),
      Diagram.fields value = .ok (nodes, connections) →
        Diagram.ofValue value = (Diagram.ofParts nodes connections).mapError fun duplicate =>
          ⟨"Diagram", [⟨[], .custom duplicate.message⟩]⟩) ∧
    ∀ (diagram : Diagram) (d : Classified), diagram.classify = .ok d → ∀ id,
      diagram.nodeIndex.lookup id = diagram.node? id ∧
        (d.nodeIndex.lookup id).map Node.written = diagram.node? id ∧
        (d.node? id).map Node.written = diagram.node? id := by
  refine ⟨fun nodes connections => ⟨Diagram.exists_ofParts_iff, ?_, ?_⟩, ?_, ?_⟩
  · exact fun diagram made => Diagram.ofParts_eq_ok_iff.1 made
  · exact fun duplicate => Diagram.ofParts_eq_error_iff
  · exact fun value nodes connections valid => Diagram.ofValue_of_fields valid
  · intro diagram d read id
    obtain rfl := classify_eq_ok_iff.1 read
    rw [Diagram.lookup_nodeIndex, Classified.lookup_nodeIndex, node?_written]
    exact ⟨rfl, rfl, rfl⟩

/-- The document of one node and of a loop at it for each of some ids. -/
def loops (ids : List String) : Value :=
  .record
    [(.text "nodes", .list
        [.record [(.text "id", .text "a"), (.text "label", .text "A"),
           (.text "kind", .text "StrongEntity")]]),
     (.text "connections", .list
        (ids.map fun id =>
          .record [(.text "id", .text id), (.text "a", .text "a"), (.text "b", .text "a")]))]

/-- The diagram of two loops. -/
def twoLoops : Diagram where
  nodes := [.drawn "a" "A" "StrongEntity"]
  connections := [.drawn "1" "a" "a", .drawn "2" "a" "a"]
  node_ids_nodup := by decide
  connection_ids_nodup := by decide

/-- Two documents of loops at one node.  The first repeats two ids and is refused for the one whose
repetition comes first; the second is accepted, and its loops are found alike. -/
theorem loops_found_alike :
    (Diagram.fields (loops ["1", "2", "2", "1"]) =
        .ok (twoLoops.nodes, ["1", "2", "2", "1"].map fun id => .drawn id "a" "a") ∧
      Diagram.ofValue (loops ["1", "2", "2", "1"]) =
        .error ⟨"Diagram", [⟨[], .custom "Duplicate connection id: 2"⟩]⟩) ∧
    (Diagram.fields (loops ["1", "2"]) = .ok (twoLoops.nodes, twoLoops.connections) ∧
      Diagram.ofValue (loops ["1", "2"]) = .ok twoLoops) ∧
    ∃ d, twoLoops.classify = .ok d ∧ ∀ id,
      twoLoops.nodeIndex.lookup id = twoLoops.node? id ∧
        (d.nodeIndex.lookup id).map Node.written = twoLoops.node? id ∧
        (d.node? id).map Node.written = twoLoops.node? id := by
  obtain ⟨-, documents, lookups⟩ := nodes_found_alike
  have again : Diagram.fields (loops ["1", "2", "2", "1"]) =
      .ok (twoLoops.nodes, ["1", "2", "2", "1"].map fun id => .drawn id "a" "a") := rfl
  have once : Diagram.fields (loops ["1", "2"]) =
      .ok (twoLoops.nodes, twoLoops.connections) := rfl
  refine ⟨⟨again, ?_⟩, ⟨once, ?_⟩, ?_⟩
  · rw [documents _ _ _ again]
    decide +kernel
  · rw [documents _ _ _ once]
    decide +kernel
  · have known : classifiesTo twoLoops (fun _ => true) = true := by decide +kernel
    obtain ⟨d, read, _⟩ := exists_of_classifiesTo known
    exact ⟨d, read, lookups twoLoops d read⟩

end EntitySchema
