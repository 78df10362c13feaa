/-
# EntitySchema.Proofs.Juxtaposition -- two diagrams without a common id, put into one

Two diagrams that share no id can be written one after the other (`Diagram.append`).  No
connection joins them, so each is a part of the whole around whose nodes nothing has
changed (`Classified.Component`), and the whole holds a copy of each under its own ids.

A run of the whole has one memo, and its questions about the two diagrams are mixed, since
it goes through them kind by kind.  Still the memo is at any time made of what two
separate runs remember (`Shares`): a question about one diagram changes nothing for the
other (`shares_questions`).  So every entity has the key that it has in its own diagram
(`carries_first`, `carries_second`).
-/
import EntitySchema.Proofs.Classification
import EntitySchema.Proofs.Counterparts
import EntitySchema.Proofs.Questions

namespace EntitySchema

open Inquiry

set_option autoImplicit false

/-! ## Diagrams one after the other -/

structure Diagram.Apart (first second : Diagram) : Prop where
  nodes : (first.nodes.map (·.id)).Disjoint (second.nodes.map (·.id))
  connections : (first.connections.map (·.id)).Disjoint (second.connections.map (·.id))

/-- The diagram that lists what is in the first diagram, then what is in the second. -/
def Diagram.append (first second : Diagram) (apart : first.Apart second) : Diagram where
  nodes := first.nodes ++ second.nodes
  connections := first.connections ++ second.connections
  node_ids_nodup := by
    rw [List.map_append]
    exact first.node_ids_nodup.append second.node_ids_nodup apart.nodes
  connection_ids_nodup := by
    rw [List.map_append]
    exact first.connection_ids_nodup.append second.connection_ids_nodup apart.connections

namespace Classified

/-! ## Components -/

/-- A link joins nodes of its own diagram, so a node of another has no neighbours there. -/
theorem neighbours_eq_nil {d : Classified} {id : String} (foreign : id ∉ d.ids) :
    d.neighbours id = [] := by
  refine List.eq_nil_iff_forall_not_mem.2 fun neighbour mem => foreign ?_
  obtain ⟨link, other⟩ := neighbour
  obtain ⟨known, found⟩ := mem_neighbours_iff.1 mem
  obtain ⟨endA, endB⟩ := d.ends_mem link known
  unfold Link.otherEnd? at found
  split at found
  · rename_i atA
    exact atA ▸ id_mem_ids endA
  · split at found
    · rename_i atB
      exact atB ▸ id_mem_ids endB
    · simp at found

section Filter

variable {d : Classified} {item : Construct} {rest : List Construct}

theorem filter_cons_of_mem (inNodes : item ∈ d.nodes) :
    (item :: rest).filter (· ∈ d.nodes) = item :: rest.filter (· ∈ d.nodes) :=
  List.filter_cons_of_pos (decide_eq_true inNodes)

theorem filter_cons_of_notMem (foreign : item ∉ d.nodes) :
    (item :: rest).filter (· ∈ d.nodes) = rest.filter (· ∈ d.nodes) :=
  List.filter_cons_of_neg (by simpa using foreign)

end Filter

/-- The other diagram has the nodes of this one among its own, in the same order, and
around them the same neighbours. -/
structure Component (d e : Classified) : Prop where
  nodes : e.nodes.filter (· ∈ d.nodes) = d.nodes
  neighbours : ∀ node ∈ d.nodes, e.neighbours node.id = d.neighbours node.id

namespace Component

variable {d e : Classified} (component : Component d e)

include component

theorem mem_nodes {node : Construct} (inNodes : node ∈ d.nodes) : node ∈ e.nodes := by
  rw [← component.nodes] at inNodes
  exact (List.mem_filter.1 inNodes).1

theorem filter_ofKinds (accepts : NodeKind → Bool) :
    (e.ofKinds accepts).filter (· ∈ d.nodes) = d.ofKinds accepts := by
  rw [ofKinds, List.filter_comm, component.nodes, ofKinds]

theorem filter_asksAbout (phase : Phase) :
    (phase.asksAbout e).filter (· ∈ d.nodes) = phase.asksAbout d := by
  have ofKinds := component.filter_ofKinds
  cases phase with
  | primaryKeys | partialKeys | multivaluedAttributes => exact ofKinds (· == _)
  | generalizations => exact ofKinds (·.isGeneralization)
  | relationships =>
      rw [Phase.asksAbout, List.filter_append]
      exact congrArg₂ _ (ofKinds (· == _)) (ofKinds (· == _))
  | tables | associativeEntities | derivedAttributes => rfl

/-- A component is a copy of itself. -/
def copy : Copy d e := .unchanged (fun _ => component.mem_nodes) component.neighbours

theorem keepsIds : component.copy.KeepsIds := ⟨fun _ => rfl, fun _ => rfl⟩

theorem map_node (nodes : List Construct) : nodes.map component.copy.node = nodes :=
  List.map_id nodes

theorem copies_map {nodes : List Construct} {draw image : Construct → Sketch}
    (each : ∀ node ∈ nodes, component.copy.Copies (draw node) (image node)) :
    List.Forall₂ component.copy.Copies (nodes.map draw) (nodes.map image) := by
  have copied : List.Forall₂ component.copy.Copies (nodes.map draw)
      ((nodes.map component.copy.node).map image) := Copy.copies_map each
  rwa [component.map_node] at copied

end Component

/-! ## Two components -/

section Append

variable {first second : Classified} (apart : first.written.Apart second.written)

include apart

theorem ids_disjoint : first.ids.Disjoint second.ids := by
  have nodes := apart.nodes
  simp only [written, List.map_map] at nodes
  exact nodes

theorem id_ne_of_apart {node other : Construct} (inFirst : node ∈ first.nodes)
    (inSecond : other ∈ second.nodes) : node.id ≠ other.id := fun same =>
  ids_disjoint apart (id_mem_ids inFirst) (same ▸ id_mem_ids inSecond)

def append : Classified where
  nodes := first.nodes ++ second.nodes
  links := first.links ++ second.links
  ids_nodup := by
    rw [List.map_append]
    exact first.ids_nodup.append second.ids_nodup (ids_disjoint apart)
  link_ids_nodup := by
    have connections := apart.connections
    simp only [written, List.map_map] at connections
    rw [List.map_append]
    exact first.link_ids_nodup.append second.link_ids_nodup connections
  ends_mem link known := by
    rcases List.mem_append.1 known with inFirst | inSecond
    · exact (first.ends_mem link inFirst).imp (List.mem_append_left _) (List.mem_append_left _)
    · exact (second.ends_mem link inSecond).imp (List.mem_append_right _) (List.mem_append_right _)

theorem written_append :
    (append apart).written = first.written.append second.written apart := by
  simp only [written, append, Diagram.append, List.map_append]

theorem neighbours_append (id : String) :
    (append apart).neighbours id = first.neighbours id ++ second.neighbours id := by
  rw [neighbours_eq, neighbours_eq, neighbours_eq, ← List.filterMap_append, append]

theorem component_first : Component first (append apart) where
  nodes := by
    have all : first.nodes.filter (· ∈ first.nodes) = first.nodes := by simp
    have none : second.nodes.filter (· ∈ first.nodes) = [] := by
      refine List.filter_eq_nil_iff.2 fun node inSecond inFirst => ?_
      exact id_ne_of_apart apart (of_decide_eq_true inFirst) inSecond rfl
    rw [append, List.filter_append, all, none, List.append_nil]
  neighbours node inFirst := by
    have none := neighbours_eq_nil (ids_disjoint apart (id_mem_ids inFirst))
    rw [neighbours_append, none, List.append_nil]

theorem component_second : Component second (append apart) where
  nodes := by
    have all : second.nodes.filter (· ∈ second.nodes) = second.nodes := by simp
    have none : first.nodes.filter (· ∈ second.nodes) = [] := by
      refine List.filter_eq_nil_iff.2 fun node inFirst inSecond => ?_
      exact id_ne_of_apart apart inFirst (of_decide_eq_true inSecond) rfl
    rw [append, List.filter_append, all, none, List.nil_append]
  neighbours node inSecond := by
    have none := neighbours_eq_nil fun inFirst =>
      ids_disjoint apart inFirst (id_mem_ids inSecond)
    rw [neighbours_append, none, List.nil_append]

theorem ofKinds_append (accepts : NodeKind → Bool) :
    (append apart).ofKinds accepts = first.ofKinds accepts ++ second.ofKinds accepts :=
  List.filter_append ..

end Append

/-! ## What is remembered about either -/

/-- The last list holds for the nodes of either diagram what the list of that diagram
holds. -/
structure Shares {β : Type} (first second : Classified) (one other whole : List (String × β)) :
    Prop where
  first : ∀ node ∈ first.nodes, whole.lookup node.id = one.lookup node.id
  second : ∀ node ∈ second.nodes, whole.lookup node.id = other.lookup node.id

section Shares

variable {first second : Classified} (apart : first.written.Apart second.written)

section Entries

variable {β : Type} {one other whole later grown : List (String × β)}

theorem shares_nil : Shares (β := β) first second [] [] [] := ⟨fun _ _ => rfl, fun _ _ => rfl⟩

theorem Shares.beside_first (shares : Shares first second one other whole) :
    (component_first apart).copy.Beside whole one whole := ⟨shares.first, fun _ _ => rfl⟩

theorem Shares.beside_second (shares : Shares first second one other whole) :
    (component_second apart).copy.Beside whole other whole := ⟨shares.second, fun _ _ => rfl⟩

/-- What happens in the first diagram changes nothing for the second. -/
theorem Shares.after_first (shares : Shares first second one other whole)
    (after : (component_first apart).copy.Beside whole later grown) :
    Shares first second later other grown where
  first := after.copied
  second node inSecond := by
    have untouched := after.kept node.id fun _ inFirst =>
      id_ne_of_apart apart inFirst inSecond
    rw [untouched, shares.second node inSecond]

/-- What happens in the second diagram changes nothing for the first. -/
theorem Shares.after_second (shares : Shares first second one other whole)
    (after : (component_second apart).copy.Beside whole later grown) :
    Shares first second one later grown where
  first node inFirst := by
    have untouched := after.kept node.id fun _ inSecond =>
      (id_ne_of_apart apart inFirst inSecond).symm
    rw [untouched, shares.first node inFirst]
  second := after.copied

end Entries

/-! ### Questions -/

/-- A run of the whole asks about either diagram what a run of it asks, in the same order.
Each question is about one of them, and is asked there as in a separate run. -/
theorem shares_forM {items : List Construct} (known : ∀ item ∈ items, item ∈ (append apart).nodes)
    {one other whole : Session}
    (shares : Shares first second one.resolved other.resolved whole.resolved) :
    Shares first second
      (((items.filter (· ∈ first.nodes)).forM first.questionsAbout).memoAfter one)
      (((items.filter (· ∈ second.nodes)).forM second.questionsAbout).memoAfter other)
      ((items.forM (append apart).questionsAbout).memoAfter whole) := by
  induction items generalizing one other whole with
  | nil => exact shares
  | cons item rest ih =>
      have knownRest := fun next mem => known next (List.mem_cons_of_mem item mem)
      rcases List.mem_append.1 (known item List.mem_cons_self) with inFirst | inSecond
      · have foreign : item ∉ second.nodes := fun inSecond =>
          id_ne_of_apart apart inFirst inSecond rfl
        let copy := (component_first apart).copy
        have asked := Copy.mirrors_questionsAbout (copy.tracks_beside whole.resolved) inFirst one
          whole (shares.beside_first apart)
        rw [filter_cons_of_mem inFirst, filter_cons_of_notMem foreign]
        exact ih knownRest (shares.after_first apart asked.2)
      · have foreign : item ∉ first.nodes := fun inFirst =>
          id_ne_of_apart apart inFirst inSecond rfl
        let copy := (component_second apart).copy
        have asked := Copy.mirrors_questionsAbout (copy.tracks_beside whole.resolved) inSecond other
          whole (shares.beside_second apart)
        rw [filter_cons_of_mem inSecond, filter_cons_of_notMem foreign]
        exact ih knownRest (shares.after_second apart asked.2)

/-- The questions of a run of the whole are those of two separate runs, mixed. -/
theorem shares_questions (phases : List Phase) {one other whole : Session}
    (shares : Shares first second one.resolved other.resolved whole.resolved) :
    Shares first second ((first.questionsOf phases).memoAfter one)
      ((second.questionsOf phases).memoAfter other)
      (((append apart).questionsOf phases).memoAfter whole) := by
  induction phases generalizing one other whole with
  | nil => exact shares
  | cons phase rest ih =>
      have inNodes : ∀ node ∈ phase.asksAbout (append apart), node ∈ (append apart).nodes :=
        fun _ mem => mem_nodes_of_mem_asksAbout mem
      have asked := shares_forM apart inNodes shares
      rw [(component_first apart).filter_asksAbout, (component_second apart).filter_asksAbout]
        at asked
      exact ih asked

theorem shares_keys : Shares first second ((first.questionsOf Phase.all).memoAfter {})
    ((second.questionsOf Phase.all).memoAfter {})
    (((append apart).questionsOf Phase.all).memoAfter {}) :=
  shares_questions apart Phase.all shares_nil

theorem carries_first :
    (component_first apart).copy.Carries first.keysAsked (append apart).keysAsked := by
  intro node inFirst
  exact congrArg (Option.getD · []) ((shares_keys apart).first node inFirst)

theorem carries_second :
    (component_second apart).copy.Carries second.keysAsked (append apart).keysAsked := by
  intro node inSecond
  exact congrArg (Option.getD · []) ((shares_keys apart).second node inSecond)

end Shares

end Classified

end EntitySchema
