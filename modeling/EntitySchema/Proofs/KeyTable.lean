/-
# EntitySchema.Proofs.KeyTable -- one table for all answers of a run

A `KeyTable` gives each entity one key for the whole run.  Where it holds what is
remembered (`KeyTable.Holds`), the answer to every question that the synthesis
asks is a function of the table: the key of an entity is its entry, the owner of
a weak entity the first candidate with an entry, and so on.  `Inquiry.Reads` told'
so of an inquiry; it is closed under sequencing (`reads_bind`).
-/
import EntitySchema.Proofs.Resolution

namespace EntitySchema

set_option autoImplicit false

abbrev KeyTable := Construct → List Key

namespace KeyTable

/-- The table gives every entity the key that is remembered for it. -/
def Holds (keys : KeyTable) (memo : Memo) : Prop :=
  ∀ entity found, memo.lookup entity.id = some found → keys entity = found

/-- The table of what is remembered; entities without a remembered key are keyless. -/
def ofMemo (memo : Memo) : KeyTable := fun entity => (memo.lookup entity.id).getD []

theorem ofMemo_holds (memo : Memo) : (ofMemo memo).Holds memo := by
  intro entity found known
  simp [ofMemo, known]

/-- An entity reached by a link, with its key. -/
def endAt (keys : KeyTable) (neighbour : Link × Construct) : KeyedEnd :=
  { node := neighbour.2, link := neighbour.1, keys := keys neighbour.2 }

def firstOwner (keys : KeyTable) : List Classified.OwnerCandidate → Option KeyedEnd
  | [] => none
  | candidate :: rest =>
      if (keys candidate.owner).isEmpty then keys.firstOwner rest
      else some (keys.endAt (candidate.link, candidate.owner))

end KeyTable

namespace Classified

def ownerIn (d : Classified) (keys : KeyTable) (weak : Construct) : Option KeyedEnd :=
  keys.firstOwner (d.ownerCandidates weak)

def participantsIn (d : Classified) (keys : KeyTable) (node : Construct) : List KeyedEnd :=
  (d.participantEnds node).map keys.endAt

def referencesIn (d : Classified) (keys : KeyTable) (entity : Construct) : List Reference :=
  d.referencesOf entity (d.participantsIn keys entity)

def pairIn? (keys : KeyTable) (origin : Construct) (links : List Link)
    (accepts : Link → Construct → Bool) : Option (KeyedEnd × KeyedEnd) :=
  match farEnds origin accepts links with
  | first :: second :: _ => some (keys.endAt first, keys.endAt second)
  | _ => none

end Classified

/-! ## Inquiries as functions of the table -/

namespace Inquiry

variable {α β : Type} {P : Memo → Prop}

/-- The answer is a function of any table that holds what is remembered later. -/
def Reads (P : Memo → Prop) (inquiry : Inquiry α) (answers : KeyTable → α) : Prop :=
  Meets P inquiry fun a later => ∀ keys : KeyTable, keys.Holds later → a = answers keys

theorem reads_pure (a : α) : Reads P (pure a) fun _ => a := meets_pure fun _ _ _ => rfl

theorem reads_note {level : Level} {component : Component} {message : String} :
    Reads P (note level component message) fun _ => () :=
  meets_note.mono fun _ _ _ _ _ => rfl

theorem reads_bind {first : Inquiry α} {next : α → Inquiry β} {answers : KeyTable → α}
    {G : α → KeyTable → β} (starts : Reads P first answers)
    (goesOn : ∀ keys, Reads P (next (answers keys)) (G (answers keys))) :
    Reads P (first >>= next) fun keys => G (answers keys) keys := by
  refine (meets_bind starts (R := fun a b later => ∀ keys : KeyTable,
    keys.Holds later → b = G a keys) fun a memo read => ?_).mono ?_
  · rw [read _ (KeyTable.ofMemo_holds memo)]
    exact goesOn _
  · rintro b later ⟨a, read, readOn⟩ keys holds
    obtain rfl := read keys holds
    exact readOn keys holds

theorem reads_map {inquiry : Inquiry α} {answers : KeyTable → α} (reads : Reads P inquiry answers)
    (f : α → β) : Reads P (f <$> inquiry) fun keys => f (answers keys) := by
  rw [map_eq_pure_bind]
  exact reads_bind (G := fun a _ => f a) reads fun _ => reads_pure _

theorem reads_mapM {items : List α} {ask : α → Inquiry β} {answers : α → KeyTable → β}
    (each : ∀ item ∈ items, Reads P (ask item) (answers item)) :
    Reads P (items.mapM ask) fun keys => items.map (answers · keys) := by
  refine (meets_mapM each).mono fun found later said keys holds => ?_
  clear each
  induction said with
  | nil => rfl
  | cons first _ ih => exact congrArg₂ List.cons (first keys holds) ih

/-- An inquiry that only makes entries in the journal. -/
theorem reads_of_silent {inquiry : Inquiry α} {a : α}
    (silent : ∀ session, inquiry.answer session = a ∧
      inquiry.memoAfter session = session.resolved) : Reads P inquiry fun _ => a := by
  intro session holds
  obtain ⟨answered, untouched⟩ := silent session
  rw [answered, untouched]
  exact ⟨.refl _, holds, fun _ _ _ _ => rfl⟩

end Inquiry

open Inquiry

/-! ## The questions of the synthesis -/

namespace Classified

/-- Questions about the key of an entity are answered by what is remembered. -/
def AnsweredAt (d : Classified) (P : Memo → Prop) (entity : Construct) : Prop :=
  Meets P (d.tableKey entity) fun keys later => later.lookup entity.id = some keys

/-- Questions about the keys of nodes are answered by what is remembered. -/
def Answered (d : Classified) (P : Memo → Prop) : Prop :=
  ∀ entity ∈ d.nodes, d.AnsweredAt P entity

variable {d : Classified} {P : Memo → Prop} (answered : d.Answered P)

/-- Where a table says what is told, the first owner is that of the table. -/
theorem FirstOwner.eq_firstOwner {keys : KeyTable} {Tells : Construct → List Key → Prop}
    (agrees : ∀ entity found, Tells entity found → keys entity = found)
    {candidates : List OwnerCandidate} {owner? : Option KeyedEnd}
    (first : FirstOwner Tells candidates owner?) : owner? = keys.firstOwner candidates := by
  induction first with
  | none => rfl
  | skip told _ ih => simp [KeyTable.firstOwner, agrees _ _ told, ih]
  | found told keyed =>
      simp [KeyTable.firstOwner, KeyTable.endAt, agrees _ _ told, List.isEmpty_iff, keyed]

theorem eq_map_endAt {keys : KeyTable} {Tells : Construct → List Key → Prop}
    (agrees : ∀ entity found, Tells entity found → keys entity = found)
    {neighbours : List (Link × Construct)} {ends : List KeyedEnd}
    (told : List.Forall₂ (EndTells Tells) neighbours ends) : ends = neighbours.map keys.endAt := by
  induction told with
  | nil => rfl
  | @cons neighbour place _ _ told _ ih =>
      obtain ⟨node, link, known⟩ := told
      have same : place = keys.endAt neighbour := by
        cases place
        simp_all [KeyTable.endAt, agrees _ _ known]
      rw [List.map_cons, ← ih, same]

theorem AnsweredAt.reads {entity : Construct} (answered : d.AnsweredAt P entity) :
    Reads P (d.tableKey entity) fun keys => keys entity :=
  answered.mono fun _ _ known _ holds => (holds _ _ known).symm

theorem reads_participants {node : Construct}
    (near : ∀ neighbour ∈ d.participantEnds node, d.AnsweredAt P neighbour.2) :
    Reads P (d.participants node) fun keys => d.participantsIn keys node :=
  (meets_participantsWith (T := fun entity keys memo => memo.lookup entity.id = some keys)
    near).mono fun _ _ told _ holds => eq_map_endAt holds told

theorem reads_keyedEnd {neighbour : Link × Construct} (answered : d.AnsweredAt P neighbour.2) :
    Reads P (keyedEndWith d.tableKey neighbour) fun keys => keys.endAt neighbour :=
  reads_bind (G := fun found _ => KeyedEnd.mk neighbour.2 neighbour.1 found) answered.reads
    fun _ => reads_pure _

/-- The two far ends are the first that are accepted, whatever their keys are: a table of keys
changes what they carry and not which they are. -/
theorem reads_keyedPair {origin : Construct} {links : List Link}
    {accepts : Link → Construct → Bool}
    (near : ∀ neighbour ∈ farEnds origin accepts links, d.AnsweredAt P neighbour.2) :
    Reads P (d.keyedPair? origin links accepts) fun keys =>
      pairIn? keys origin links accepts := by
  have reads : ∀ neighbour ∈ farEnds origin accepts links,
      Reads P (keyedEndWith d.tableKey neighbour) fun keys => keys.endAt neighbour :=
    fun neighbour mem => reads_keyedEnd (near neighbour mem)
  unfold keyedPair? pairIn?
  cases ends : farEnds origin accepts links with
  | nil => exact reads_pure _
  | cons first rest =>
      cases rest with
      | nil =>
          exact reads_bind (G := fun _ _ => none) (reads first (by simp [ends])) fun _ =>
            reads_pure none
      | cons second _ =>
          exact reads_bind (G := fun first keys => some (first, keys.endAt second))
            (reads first (by simp [ends])) fun _ =>
              reads_bind (G := fun other _ => some (_, other)) (reads second (by simp [ends]))
                fun _ => reads_pure _

theorem mem_nodes_of_mem_farEnds {origin : Construct} {accepts : Link → Construct → Bool}
    {links : List Link} (known : ∀ link ∈ links, link ∈ d.links) {neighbour : Link × Construct}
    (mem : neighbour ∈ farEnds origin accepts links) : neighbour.2 ∈ d.nodes := by
  obtain ⟨link, linkIn, found⟩ := List.mem_filterMap.1 mem
  split at found
  · rename_i other atEnd
    split at found
    · rw [← Option.some.inj found]
      exact mem_nodes_of_mem_neighbours (mem_neighbours_iff.2 ⟨known link linkIn, atEnd⟩)
    · simp at found
  · simp at found

include answered

theorem reads_tableKey {entity : Construct} (inNodes : entity ∈ d.nodes) :
    Reads P (d.tableKey entity) fun keys => keys entity :=
  (answered entity inNodes).reads

theorem Answered.participants (node : Construct) :
    ∀ neighbour ∈ d.participantEnds node, d.AnsweredAt P neighbour.2 :=
  fun neighbour mem => answered neighbour.2 (participant_spec mem).1

theorem Answered.farEnds {origin : Construct} {accepts : Link → Construct → Bool}
    {links : List Link} (known : ∀ link ∈ links, link ∈ d.links) :
    ∀ neighbour ∈ farEnds origin accepts links, d.AnsweredAt P neighbour.2 :=
  fun neighbour mem => answered neighbour.2 (mem_nodes_of_mem_farEnds known mem)

theorem reads_weakOwner (weak : Construct) :
    Reads P (d.weakOwner? weak) fun keys => d.ownerIn keys weak := by
  refine (meets_firstOwnerWith (T := fun entity keys memo =>
    memo.lookup entity.id = some keys) fun candidate mem => ?_).mono ?_
  · exact answered _ (owner_spec mem).1
  · exact fun owner? later first keys holds => first.eq_firstOwner holds

theorem reads_associativeReferences (entity : Construct) :
    Reads P (d.associativeReferences entity) fun keys => d.referencesIn keys entity := by
  refine (meets_associativeReferencesWith (T := fun entity keys memo =>
    memo.lookup entity.id = some keys) fun neighbour mem => ?_).mono ?_
  · exact answered _ (participant_spec mem).1
  · rintro references later ⟨ends, told, rfl⟩ keys holds
    rw [eq_map_endAt holds told]
    rfl

end Classified

end EntitySchema
