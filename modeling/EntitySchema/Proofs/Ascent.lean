/-
# EntitySchema.Proofs.Ascent -- the walk up a hierarchy

The root above an entity is where a walk stops that goes from superclass to superclass and
keeps the ids it has visited (`Ascent`).  A walk ends on every diagram: the ids on it are
pairwise distinct, so it passes at most as many entities as there are nodes, and it stops
where there is no superclass or one that it has visited (`exists_walksTo`).

Where the superclasses above an entity never repeat (`Unrepeated`) the second case is out,
and the walk stops at the one ancestor without a superclass.  A walk that starts one step
higher stops at the same entity, so the keys that a subtype inherits are those of the root
above its generalization.  All this is about the one entity: there may be cycles elsewhere.
-/
import EntitySchema.Proofs.Hierarchy
import EntitySchema.Proofs.References
import Mathlib.Data.List.Chain
import Mathlib.Data.List.Perm.Subperm

namespace EntitySchema

set_option autoImplicit false

namespace Classified

variable {d : Classified}

/-! ## The walk -/

/-- A walk up: the ids it has visited, and where it stands. -/
structure Ascent where
  visited : List String
  current : Construct

namespace Ascent

def start (entity : Construct) : Ascent := ⟨[entity.id], entity⟩

/-- The walk one superclass higher, unless it stops here. -/
def next? (d : Classified) (ascent : Ascent) : Option Ascent :=
  (d.superclassOf? ascent.current).bind fun parent =>
    if parent.id ∈ ascent.visited then none else some ⟨parent.id :: ascent.visited, parent⟩

/-- The walk passes the entities of the list, from where it stands to where it stops. -/
inductive Passes (d : Classified) : Ascent → List Construct → Prop
  | stop {ascent : Ascent} : ascent.next? d = none → Passes d ascent [ascent.current]
  | turn {ascent later : Ascent} {path : List Construct} : ascent.next? d = some later →
      Passes d later path → Passes d ascent (ascent.current :: path)

theorem next?_eq_none_iff {ascent : Ascent} :
    ascent.next? d = none ↔
      ∀ upper, d.superclassOf? ascent.current = some upper → upper.id ∈ ascent.visited := by
  simp [next?, Option.bind_eq_none_iff]

/-- All that a step can do: it goes to the superclass just above, which has not been visited, and
marks it as visited. -/
theorem next?_eq_some_iff {ascent later : Ascent} :
    ascent.next? d = some later ↔ d.Below ascent.current later.current ∧
      later.current.id ∉ ascent.visited ∧ later.visited = later.current.id :: ascent.visited := by
  simp only [next?, Option.bind_eq_some_iff, Below]
  constructor
  · rintro ⟨parent, above, moved⟩
    split at moved
    · cases moved
    · rename_i fresh
      obtain rfl := Option.some.inj moved
      exact ⟨above, fresh, rfl⟩
  · rintro ⟨above, fresh, seen⟩
    refine ⟨later.current, above, ?_⟩
    rw [if_neg fresh, ← seen]

/-- The path of a walk, whatever it visited before: it goes from superclass to superclass,
meets no id twice, and stops where nothing is above or something visited is. -/
structure Path (d : Classified) (ascent : Ascent) (path : List Construct) : Prop where
  head : path.head? = some ascent.current
  climbs : path.IsChain d.Below
  distinct : (path.map (·.id)).Nodup
  fresh : ∀ later ∈ path.tail, later.id ∉ ascent.visited
  stops : ∀ top ∈ path.getLast?, ∀ upper, d.superclassOf? top = some upper →
    upper.id ∈ ascent.visited ∨ ∃ earlier ∈ path, earlier.id = upper.id

/-- What a walk passes is a path.  The visited ids grow along the way, so the steps after the first
keep clear of where the walk stood before. -/
theorem Passes.path {ascent : Ascent} {path : List Construct} (passes : ascent.Passes d path)
    (standing : ascent.current.id ∈ ascent.visited) : ascent.Path d path := by
  induction passes with
  | @stop ascent ended =>
      refine ⟨rfl, .singleton _, by simp, by simp, ?_⟩
      intro top last upper above
      obtain rfl := Option.some.inj last
      exact .inl (next?_eq_none_iff.1 ended upper above)
  | @turn ascent later path moved _ ih =>
      obtain ⟨below, apart, seen⟩ := next?_eq_some_iff.1 moved
      obtain ⟨head, climbs, distinct, fresh, stops⟩ := ih (seen ▸ List.mem_cons_self)
      obtain ⟨rest, rfl⟩ : ∃ rest, path = later.current :: rest := List.head?_eq_some_iff.1 head
      rw [seen] at fresh stops
      have unvisited : ∀ other ∈ later.current :: rest, other.id ∉ ascent.visited := by
        intro other mem
        rcases List.mem_cons.1 mem with rfl | mem
        · exact apart
        · exact fun visited => fresh other mem (List.mem_cons_of_mem _ visited)
      refine ⟨rfl, .cons_cons below climbs, ?_, unvisited, ?_⟩
      · rw [List.map_cons, List.nodup_cons]
        refine ⟨fun again => ?_, distinct⟩
        obtain ⟨other, mem, same⟩ := List.mem_map.1 again
        exact unvisited other mem (same ▸ standing)
      · intro top last upper above
        rw [List.getLast?_cons_cons] at last
        rcases stops top last upper above with visited | ⟨earlier, mem, same⟩
        · rcases List.mem_cons.1 visited with same | visited
          · exact .inr ⟨later.current, by simp, same.symm⟩
          · exact .inl visited
        · exact .inr ⟨earlier, List.mem_cons_of_mem _ mem, same⟩

/-- Every walk ends, and where `rootFrom` does. -/
theorem exists_passes {unvisited visited : List String} {current : Construct}
    (distinct : unvisited.Nodup)
    (divided : ∀ id ∈ d.ids, id ∈ unvisited ↔ id ∉ visited) :
    ∃ path, Passes d ⟨visited, current⟩ path ∧
      path.getLast? = some (d.rootFrom unvisited current) := by
  induction unvisited, current using rootFrom.induct d generalizing visited with
  | case1 unvisited current top =>
      refine ⟨[current], .stop ?_, ?_⟩
      · exact next?_eq_none_iff.2 fun upper above => by simp [top] at above
      · rw [rootFrom_of_none top]
        rfl
  | case2 unvisited current parent above fresh ih =>
      have parentIn : parent.id ∈ d.ids := id_mem_ids (Below.mem_nodes above)
      have moved : next? d ⟨visited, current⟩ = some ⟨parent.id :: visited, parent⟩ :=
        next?_eq_some_iff.2 ⟨above, (divided _ parentIn).1 fresh, rfl⟩
      have stillDivided : ∀ id ∈ d.ids, id ∈ unvisited.erase parent.id ↔
          id ∉ parent.id :: visited := by
        intro id idIn
        rw [distinct.mem_erase_iff, divided id idIn, List.mem_cons, not_or]
      obtain ⟨path, passes, last⟩ := ih (distinct.erase _) stillDivided
      refine ⟨current :: path, .turn moved passes, ?_⟩
      rw [rootFrom, above]
      simp only [fresh, dite_true]
      rw [List.getLast?_cons, last]
      rfl
  | case3 unvisited current parent above visitedBefore =>
      have parentIn : parent.id ∈ d.ids := id_mem_ids (Below.mem_nodes above)
      refine ⟨[current], .stop ?_, ?_⟩
      · refine next?_eq_none_iff.2 fun upper higher => ?_
        obtain rfl := Option.some.inj (above.symm.trans higher)
        exact not_not.1 fun fresh => visitedBefore ((divided _ parentIn).2 fresh)
      · rw [rootFrom, above]
        simp [visitedBefore]

end Ascent

/-- The walk up from an entity passes the path and stops at its end `top`: there nothing is
above, or an entity that the path has passed. -/
structure WalksTo (d : Classified) (entity top : Construct) (path : List Construct) : Prop where
  passes : (Ascent.start entity).Passes d path
  first : path.head? = some entity
  last : path.getLast? = some top
  climbs : path.IsChain d.Below
  distinct : (path.map (·.id)).Nodup
  stops : ∀ upper, d.superclassOf? top = some upper → upper ∈ path
  bounded : path.length ≤ d.nodes.length

theorem mem_nodes_of_mem_isChain {entity : Construct} (inNodes : entity ∈ d.nodes)
    {rest : List Construct} (climbs : (entity :: rest).IsChain d.Below) :
    ∀ other ∈ entity :: rest, other ∈ d.nodes :=
  List.IsChain.induction (· ∈ d.nodes) _ climbs (fun _ _ below _ => Below.mem_nodes below)
    fun _ => inNodes

/-- The walk from an entity ends, and where `rootOf` does. -/
theorem exists_walksTo {entity : Construct} (inNodes : entity ∈ d.nodes) :
    ∃ path, d.WalksTo entity (d.rootOf entity) path := by
  have divided : ∀ id ∈ d.ids, id ∈ d.ids.erase entity.id ↔ id ∉ [entity.id] := by
    intro id idIn
    rw [ids, d.ids_nodup.mem_erase_iff, List.mem_singleton]
    exact and_iff_left idIn
  obtain ⟨path, passes, last⟩ := Ascent.exists_passes (d.ids_nodup.erase entity.id) divided
  obtain ⟨head, climbs, distinct, _, stops⟩ := passes.path List.mem_cons_self
  obtain ⟨rest, rfl⟩ := List.head?_eq_some_iff.1 head
  have onPath := mem_nodes_of_mem_isChain inNodes climbs
  refine ⟨entity :: rest, passes, head, last, climbs, distinct, ?_, ?_⟩
  · intro upper above
    have upperIn : upper ∈ d.nodes := Below.mem_nodes above
    rcases stops _ last upper above with visited | ⟨earlier, mem, same⟩
    · have same := eq_of_id_eq upperIn inNodes (List.mem_singleton.1 visited)
      exact same ▸ List.mem_cons_self
    · exact eq_of_id_eq (onPath earlier mem) upperIn same ▸ mem
  · have distinctNodes : (entity :: rest).Nodup := List.Nodup.of_map _ distinct
    exact (List.subperm_of_subset distinctNodes onPath).length_le

/-! ## Chains that never repeat -/

def ancestor? (d : Classified) : Nat → Construct → Option Construct
  | 0, entity => some entity
  | steps + 1, entity => (d.superclassOf? entity).bind (d.ancestor? steps)

/-- No entity comes twice in the chain of superclasses from an entity. -/
def Unrepeated (d : Classified) (entity : Construct) : Prop :=
  ∀ few many ancestor, d.ancestor? few entity = some ancestor →
    d.ancestor? many entity = some ancestor → few = many

theorem ancestor?_succ (d : Classified) (steps : Nat) (entity : Construct) :
    d.ancestor? (steps + 1) entity = (d.ancestor? steps entity).bind d.superclassOf? := by
  induction steps generalizing entity with
  | zero => simp [ancestor?]
  | succ steps ih =>
      rw [ancestor?, ancestor?]
      cases d.superclassOf? entity with
      | none => rfl
      | some upper => exact ih upper

/-- The chain of superclasses is the path of the walk as far as that goes. -/
theorem ancestor?_of_isChain {entity : Construct} {rest : List Construct}
    (climbs : (entity :: rest).IsChain d.Below) {steps : Nat} {ancestor : Construct}
    (found : (entity :: rest)[steps]? = some ancestor) :
    d.ancestor? steps entity = some ancestor := by
  induction steps generalizing entity rest with
  | zero => exact found
  | succ steps ih =>
      cases rest with
      | nil => simp at found
      | cons upper rest =>
          obtain ⟨below, climbs⟩ := List.isChain_cons_cons.1 climbs
          have above : d.superclassOf? entity = some upper := below
          rw [ancestor?, above]
          exact ih climbs (by simpa using found)

theorem Unrepeated.superclass {lower upper : Construct} (unrepeated : d.Unrepeated lower)
    (below : d.Below lower upper) : d.Unrepeated upper := by
  intro few many ancestor first second
  have above : d.superclassOf? lower = some upper := below
  have step : ∀ steps, d.ancestor? (steps + 1) lower = d.ancestor? steps upper := by
    intro steps
    rw [ancestor?, above]
    rfl
  have same := unrepeated (few + 1) (many + 1) ancestor ((step few).trans first)
    ((step many).trans second)
  omega

/-- Where nothing is above the end of a path, the chain has no more than the path. -/
theorem ancestor?_eq_getElem? {entity top : Construct} {rest : List Construct}
    (climbs : (entity :: rest).IsChain d.Below) (last : (entity :: rest).getLast? = some top)
    (ended : d.superclassOf? top = none) (steps : Nat) :
    d.ancestor? steps entity = (entity :: rest)[steps]? := by
  induction steps generalizing entity rest with
  | zero => rfl
  | succ steps ih =>
      cases rest with
      | nil =>
          have atTop : entity = top := Option.some.inj last
          rw [ancestor?, atTop, ended]
          rfl
      | cons upper rest =>
          obtain ⟨below, climbs⟩ := List.isChain_cons_cons.1 climbs
          have above : d.superclassOf? entity = some upper := below
          rw [List.getLast?_cons_cons] at last
          rw [ancestor?, above, List.getElem?_cons_succ]
          exact ih climbs last

/-- A walk up a chain that never repeats ends at a root. -/
theorem Unrepeated.isRoot {entity : Construct} (unrepeated : d.Unrepeated entity)
    (inNodes : entity ∈ d.nodes) : d.IsRoot entity (d.rootOf entity) := by
  obtain ⟨path, _, head, last, climbs, _, stops, _⟩ := exists_walksTo inNodes
  obtain ⟨rest, rfl⟩ := List.head?_eq_some_iff.1 head
  refine ⟨List.relationReflTransGen_of_exists_isChain_cons rest climbs ?_, ?_⟩
  · have ending := (List.getLast?_eq_some_getLast (List.cons_ne_nil entity rest)).symm.trans last
    exact Option.some.inj ending
  · by_contra hasSuperclass
    obtain ⟨upper, above⟩ := Option.ne_none_iff_exists'.1 hasSuperclass
    obtain ⟨steps, short, found⟩ := List.mem_iff_getElem.1 (stops upper above)
    have earlier : d.ancestor? steps entity = some upper :=
      ancestor?_of_isChain climbs (List.getElem?_eq_some_iff.2 ⟨short, found⟩)
    have top : d.ancestor? rest.length entity = some (d.rootOf entity) :=
      ancestor?_of_isChain climbs (by rw [← last, List.getLast?_eq_getElem?]; rfl)
    have again : d.ancestor? (rest.length + 1) entity = some upper := by
      rw [ancestor?_succ, top]
      exact above
    have same := unrepeated steps (rest.length + 1) upper earlier again
    rw [List.length_cons] at short
    omega

/-- A chain never repeats exactly if the walk stops where nothing is above. -/
theorem unrepeated_iff {entity : Construct} (inNodes : entity ∈ d.nodes) :
    d.Unrepeated entity ↔ d.superclassOf? (d.rootOf entity) = none := by
  refine ⟨fun unrepeated => (unrepeated.isRoot inNodes).2, fun ended => ?_⟩
  obtain ⟨path, _, head, last, climbs, distinct, _, _⟩ := exists_walksTo inNodes
  obtain ⟨rest, rfl⟩ := List.head?_eq_some_iff.1 head
  intro few many ancestor first second
  rw [ancestor?_eq_getElem? climbs last ended] at first second
  obtain ⟨short, _⟩ := List.getElem?_eq_some_iff.1 first
  exact (List.getElem?_inj short (List.Nodup.of_map _ distinct)).1 (first.trans second.symm)

/-- The walk up ends on every diagram.  Where the chain of superclasses never repeats, it ends
at the one ancestor without a superclass, and a walk that starts higher does as well. -/
theorem hierarchy_walk (d : Classified) {entity : Construct} (inNodes : entity ∈ d.nodes) :
    (∃ path, d.WalksTo entity (d.rootOf entity) path) ∧
      (d.Unrepeated entity →
        (∀ root, d.IsRoot entity root ↔ root = d.rootOf entity) ∧
        (∀ upper, d.superclassOf? entity = some upper → d.rootOf entity = d.rootOf upper) ∧
        ∀ generalization, d.generalizationOf? entity = some generalization →
          d.inheritedKey entity = d.superclassKeys generalization) := by
  refine ⟨exists_walksTo inNodes, fun unrepeated => ?_⟩
  have isRoot := unrepeated.isRoot inNodes
  have higher : ∀ upper, d.superclassOf? entity = some upper →
      d.rootOf entity = d.rootOf upper := by
    intro upper below
    obtain ⟨way, top⟩ := (unrepeated.superclass below).isRoot (Below.mem_nodes below)
    exact isRoot.eq ⟨.head below way, top⟩
  refine ⟨fun root => ⟨fun other => other.eq isRoot, fun same => same ▸ isRoot⟩, higher, ?_⟩
  intro generalization found
  have above : d.superclassOf? entity = (d.superclassEnd? generalization).map (·.2) := by
    rw [superclassOf?, found]
    rfl
  cases ended : d.superclassEnd? generalization with
  | none =>
      rw [ended] at above
      simp [inheritedKey, superclassKeys, above, ended]
  | some superclass =>
      rw [ended] at above
      have same := higher superclass.2 above
      simp [inheritedKey, superclassKeys, above, ended, same]

end Classified

open Classified

/-- A hierarchy of three entities beside two entities that are each the superclass of the
other. -/
def towerAndRing : Diagram :=
  { nodes :=
      [.drawn "c" "C" "StrongEntity", .drawn "h" "H" "GeneralizationDisjoint",
       .drawn "b" "B" "StrongEntity", .drawn "g" "G" "GeneralizationOverlap",
       .drawn "a" "A" "StrongEntity", .drawn "k" "k" "KeyAttribute",
       .drawn "x" "X" "StrongEntity", .drawn "i" "I" "GeneralizationDisjoint",
       .drawn "y" "Y" "StrongEntity", .drawn "j" "J" "GeneralizationDisjoint"]
    connections :=
      [.drawn "1" "a" "k", .drawn "2" "a" "g" "SingleLineGeneralization",
       .drawn "3" "g" "b" "GeneralizationToSubtype", .drawn "4" "b" "h" "DoubleLineGeneralization",
       .drawn "5" "h" "c" "GeneralizationToSubtype", .drawn "6" "x" "i" "SingleLineGeneralization",
       .drawn "7" "i" "y" "GeneralizationToSubtype", .drawn "8" "y" "j" "SingleLineGeneralization",
       .drawn "9" "j" "x" "GeneralizationToSubtype"]
    node_ids_nodup := by decide
    connection_ids_nodup := by decide }

/-- The walk from `C` ends at `A`, whose key it inherits; that from `X` ends at `Y`. -/
theorem towerAndRing_walks :
    ∃ d a c h x y, towerAndRing.classify = .ok d ∧ d.node? "a" = some a ∧ d.node? "c" = some c ∧
      d.node? "h" = some h ∧ d.node? "x" = some x ∧ d.node? "y" = some y ∧
      d.Unrepeated c ∧ d.IsRoot c a ∧ d.inheritedKey c = d.superclassKeys h ∧
      d.superclassKeys h ≠ [] ∧ d.superclassOf? y = some x ∧ ∃ path, d.WalksTo x y path := by
  have checked : classifiesTo towerAndRing (fun d =>
      (d.node? "a").any fun a => (d.node? "c").any fun c => (d.node? "h").any fun h =>
        (d.node? "x").any fun x => (d.node? "y").any fun y => decide
          (d.rootOf c = a ∧ d.superclassOf? a = none ∧ d.generalizationOf? c = some h ∧
            d.superclassKeys h ≠ [] ∧ d.rootOf x = y ∧ d.superclassOf? y = some x)) = true := by
    decide +kernel
  obtain ⟨d, read, found⟩ := exists_of_classifiesTo checked
  simp only [Option.any_eq_true] at found
  obtain ⟨a, foundA, c, foundC, h, foundH, x, foundX, y, foundY, holds⟩ := found
  obtain ⟨rootC, top, above, keyed, rootX, ring⟩ := of_decide_eq_true holds
  have inNodes : ∀ {id : String} {node : Construct}, d.node? id = some node → node ∈ d.nodes :=
    fun found => List.mem_of_find?_eq_some found
  have unrepeated : d.Unrepeated c :=
    (unrepeated_iff (inNodes foundC)).2 (by rw [rootC, top])
  obtain ⟨_, once⟩ := hierarchy_walk d (inNodes foundC)
  obtain ⟨root, _, same⟩ := once unrepeated
  obtain ⟨climbs, _⟩ := hierarchy_walk d (inNodes foundX)
  exact ⟨d, a, c, h, x, y, read, foundA, foundC, foundH, foundX, foundY, unrepeated,
    (root a).2 rootC.symm, same h above, keyed, ring, rootX ▸ climbs⟩

end EntitySchema
