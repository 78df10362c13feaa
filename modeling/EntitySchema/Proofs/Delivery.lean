/-
# EntitySchema.Proofs.Delivery -- a delivery changes its destination or nothing

A script that goes to a file is written beside it first and then takes its place.
What the operating system does on the way may be refused at every step; all that is
asked of it is what a `Disk` promises: a temporary file is new and in the directory
it was asked for, what is refused changes nothing else, a replacement happens as a
whole or not at all, and a temporary file can be removed.

`Disk.writeFile_spec` follows a delivery through all of its steps;
`generate_all_or_nothing` adds compilation in front of it.  The storage that a run
uses is one such disk (`Disk.inMemory`, `generate_inMemory`).
-/
import EntitySchema.Compile.Generate
import Mathlib.Data.List.Basic

namespace EntitySchema

set_option autoImplicit false

/-! ## Trees that differ in one file -/

namespace FileTree

variable {tree : FileTree} {path other : Path} {text : String}

/-- The tree after a text was written over a file that is there. -/
theorem write_of_isFile (found : tree.isFile path = true) :
    tree.write path text = { tree with
      files := tree.files.map fun file => if file.1 == path then (path, text) else file } :=
  if_pos found

/-- The tree after a text was written to a new file. -/
theorem write_of_not_isFile (fresh : tree.isFile path = false) :
    tree.write path text = { tree with files := tree.files ++ [(path, text)] } :=
  if_neg (by simp [fresh])

theorem isFile_eq_true_iff : tree.isFile path = true ↔ ∃ text, (path, text) ∈ tree.files := by
  simp [isFile]

theorem ne_of_not_isFile (fresh : tree.isFile path = false) {file : Path × String}
    (mem : file ∈ tree.files) : file.1 ≠ path := by
  rintro rfl
  have found : tree.isFile file.1 = true := isFile_eq_true_iff.2 ⟨file.2, mem⟩
  rw [fresh] at found
  exact absurd found (by decide)

/-- A text that takes the place of those under a path is found there. -/
theorem lookup_overwrite_self {files : List (Path × String)} {held : String}
    (mem : (path, held) ∈ files) :
    (files.map fun file => if file.1 == path then (path, text) else file).lookup path =
      some text := by
  induction files with
  | nil => simp at mem
  | cons file rest ih =>
      obtain ⟨name, old⟩ := file
      by_cases here : name = path
      · subst here
        simp
      · have below : (path, held) ∈ rest := by
          rcases List.mem_cons.1 mem with same | mem
          · exact absurd (congrArg Prod.fst same).symm here
          · exact mem
        have missed : (path == name) = false := by simpa using fun same => here same.symm
        rw [List.map_cons, if_neg (by simpa using here), List.lookup_cons, missed]
        exact ih below

theorem lookup_overwrite_of_ne {files : List (Path × String)} (apart : other ≠ path) :
    (files.map fun file => if file.1 == path then (path, text) else file).lookup other =
      files.lookup other := by
  induction files with
  | nil => rfl
  | cons file rest ih =>
      obtain ⟨name, old⟩ := file
      by_cases here : name = path
      · subst here
        have missed : (other == name) = false := by simpa using apart
        rw [List.map_cons, if_pos (by simp), List.lookup_cons, List.lookup_cons, missed]
        exact ih
      · rw [List.map_cons, if_neg (by simpa using here), List.lookup_cons, List.lookup_cons, ih]

theorem isFile_write_self (tree : FileTree) (path : Path) (text : String) :
    (tree.write path text).isFile path = true := by
  cases found : tree.isFile path with
  | true =>
      obtain ⟨held, mem⟩ := isFile_eq_true_iff.1 found
      rw [write_of_isFile found, isFile_eq_true_iff]
      exact ⟨text, List.mem_map.2 ⟨_, mem, if_pos (by simp)⟩⟩
  | false =>
      rw [write_of_not_isFile found, isFile_eq_true_iff]
      exact ⟨text, by simp⟩

/-- What has been written is what is read, whether the file was there before or not. -/
theorem read?_write_self (tree : FileTree) (path : Path) (text : String) :
    (tree.write path text).read? path = some text := by
  cases found : tree.isFile path with
  | true =>
      obtain ⟨held, mem⟩ := isFile_eq_true_iff.1 found
      rw [write_of_isFile found]
      exact lookup_overwrite_self mem
  | false =>
      have absent : tree.files.lookup path = none := by
        rw [List.lookup_eq_none_iff]
        intro file mem
        have apart := ne_of_not_isFile found mem
        simpa using fun same => apart same.symm
      rw [write_of_not_isFile found]
      simp [read?, List.lookup_append, absent]

theorem read?_write_of_ne (apart : other ≠ path) :
    (tree.write path text).read? other = tree.read? other := by
  cases found : tree.isFile path with
  | true =>
      rw [write_of_isFile found]
      exact lookup_overwrite_of_ne apart
  | false =>
      have missed : (other == path) = false := by simpa using apart
      rw [write_of_not_isFile found]
      simp [read?, List.lookup_append, List.lookup_cons, missed]

/-- A new file that is removed again leaves the tree as it was. -/
theorem remove_write (fresh : tree.isFile path = false) :
    (tree.write path text).remove path = tree := by
  have others : tree.files.filter (·.1 != path) = tree.files := by
    rw [List.filter_eq_self]
    intro file mem
    simpa using ne_of_not_isFile fresh mem
  rw [write_of_not_isFile fresh]
  simp [remove, others]

/-- Of two texts written to a new file the second stays. -/
theorem write_write (fresh : tree.isFile path = false) (first second : String) :
    (tree.write path first).write path second = tree.write path second := by
  have found : (tree.write path first).isFile path = true := isFile_write_self tree path first
  have kept : tree.files.map (fun file => if file.1 == path then (path, second) else file) =
      tree.files := by
    conv => rhs; rw [← List.map_id tree.files]
    apply List.map_congr_left
    intro file mem
    exact if_neg (by simpa using ne_of_not_isFile fresh mem)
  rw [write_of_isFile found, write_of_not_isFile fresh, write_of_not_isFile fresh]
  rw [List.map_append, kept, List.map_singleton, if_pos (by simp)]

/-- The place that a written path leads to: its last name in the directory before
it, where two dots stand for the directory above. -/
def place? (tree : FileTree) (path : Path) : Option Path :=
  match path.getLast?, (tree.enter [] path.dropLast).toOption with
  | some name, some directory =>
      some (if name = ".." then directory.dropLast else directory ++ [name])
  | _, _ => none

/-- The trees have the same directories and the same files, but for one file of the
second, which holds the text. -/
structure ChangedAt (before after : FileTree) (target : Path) (text : String) : Prop where
  holds : after.read? target = some text
  others : ∀ other, other ≠ target → after.read? other = before.read? other
  directories : after.directories = before.directories

theorem changedAt_write (tree : FileTree) (target : Path) (text : String) :
    tree.ChangedAt (tree.write target text) target text where
  holds := read?_write_self tree target text
  others _ := read?_write_of_ne
  directories := by unfold write; split <;> rfl

end FileTree

/-! ## Computations on a tree -/

namespace Storing

variable {α β : Type}

/-- What a computation says and the tree that it leaves. -/
def leaves (computation : Storing α) (tree : FileTree) : Except StorageError α × FileTree :=
  StateT.run (ExceptT.run computation) tree

variable {computation : Storing α} {next : α → Storing β} {rescue : StorageError → Storing α}
  {tree after : FileTree} {a : α} {cause : StorageError}

theorem leaves_bind_of_ok (ran : leaves computation tree = (.ok a, after)) :
    leaves (computation >>= next) tree = leaves (next a) after := by
  simp only [leaves] at ran ⊢
  rw [ExceptT.run_bind, StateT.run_bind, ran]
  rfl

theorem leaves_bind_of_error (ran : leaves computation tree = (.error cause, after)) :
    leaves (computation >>= next) tree = (.error cause, after) := by
  simp only [leaves] at ran ⊢
  rw [ExceptT.run_bind, StateT.run_bind, ran]
  rfl

theorem leaves_tryCatch_of_ok (ran : leaves computation tree = (.ok a, after)) :
    leaves (tryCatch computation rescue) tree = (.ok a, after) := by
  have below : StateT.run (m := Id) computation tree = (.ok a, after) := ran
  simp only [leaves, tryCatch, tryCatchThe, MonadExceptOf.tryCatch, ExceptT.tryCatch]
  rw [ExceptT.run_mk, StateT.run_bind, below]
  rfl

theorem leaves_tryCatch_of_error (ran : leaves computation tree = (.error cause, after)) :
    leaves (tryCatch computation rescue) tree = leaves (rescue cause) after := by
  have below : StateT.run (m := Id) computation tree = (.error cause, after) := ran
  simp only [leaves, tryCatch, tryCatchThe, MonadExceptOf.tryCatch, ExceptT.tryCatch]
  rw [ExceptT.run_mk, StateT.run_bind, below]
  rfl

end Storing

/-! ## Disks -/

open Storing (leaves leaves_bind_of_ok leaves_bind_of_error leaves_tryCatch_of_ok
  leaves_tryCatch_of_error)

/-- The operations of a file system that a delivery needs, and what is asked of them.
Which of them is refused, and why, is the system's affair. -/
structure Disk where
  createTemporary (directory : Path) (name : String) : Storing Path
  fill (path : Path) (text : String) : Storing Unit
  replace (source target : Path) : Storing Unit
  discard (path : Path) : Storing Unit
  /-- A temporary file is a new one in the directory that it was asked for. -/
  created : ∀ {directory : Path} {name : String} {tree after : FileTree} {path : Path},
    leaves (createTemporary directory name) tree = (.ok path, after) →
      (∃ fresh, path = directory ++ [fresh]) ∧ tree.isFile path = false ∧
        tree.isDirectory path = false ∧ after = tree.write path ""
  notCreated : ∀ {directory : Path} {name : String} {tree after : FileTree} {cause : StorageError},
    leaves (createTemporary directory name) tree = (.error cause, after) → after = tree
  filled : ∀ {path : Path} {text : String} {tree after : FileTree},
    leaves (fill path text) tree = (.ok (), after) → after = tree.write path text
  /-- A text may be written in part. -/
  notFilled : ∀ {path : Path} {text : String} {tree after : FileTree} {cause : StorageError},
    leaves (fill path text) tree = (.error cause, after) → ∃ part, after = tree.write path part
  replaced : ∀ {source target : Path} {tree after : FileTree},
    leaves (replace source target) tree = (.ok (), after) →
      ∃ text, tree.read? source = some text ∧ after = (tree.remove source).write target text
  notReplaced : ∀ {source target : Path} {tree after : FileTree} {cause : StorageError},
    leaves (replace source target) tree = (.error cause, after) → after = tree
  discarded : ∀ {path : Path} {tree : FileTree}, tree.isFile path = true →
    leaves (discard path) tree = (.ok (), tree.remove path)

namespace Disk

variable {disk : Disk} {tree after : FileTree} {path temporary target : Path} {name text : String}
  {cause : StorageError}

/-- What happens from the temporary file on: it is filled and takes the place of the
target, and if either is refused it is removed again. -/
def settle (disk : Disk) (temporary target : Path) (text : String) : Storing Unit :=
  tryCatch (do disk.fill temporary text; disk.replace temporary target) fun cause => do
    disk.discard temporary
    throw cause

/-- Writes a text to a path through a temporary file. -/
def writeFile (disk : Disk) (path : Path) (text : String) : Storing Unit := do
  match path.getLast? with
  | none => throw .isDirectory
  | some name =>
      let directory ← Storing.writeFile.liftExcept ((← get).enter [] path.dropLast)
      let temporary ← disk.createTemporary directory name
      disk.settle temporary (if name = ".." then directory.dropLast else directory ++ [name]) text

/-- Compiles a diagram and writes the script to a file. -/
def generate (disk : Disk) (settings : Settings) (diagram : Diagram) (path : Path) (shown : String)
    (tree : FileTree) : Except GenerateError CompileResult × FileTree :=
  match compile settings diagram with
  | .error cause => (.error (.compile cause), tree)
  | .ok result =>
      match leaves (disk.writeFile path result.ddl) tree with
      | (.ok (), after) => (.ok result, after)
      | (.error cause, after) => (.error (.delivery (.file path shown) cause), after)

/-- From a new temporary file on, the target holds the text or nothing has changed. -/
theorem leaves_settle (fresh : tree.isFile temporary = false) :
    leaves (disk.settle temporary target text) (tree.write temporary "") =
        (.ok (), tree.write target text) ∨
      ∃ cause, leaves (disk.settle temporary target text) (tree.write temporary "") =
        (.error cause, tree) := by
  -- a failure is answered in the same way wherever it happens
  have rescued : ∀ {cause part},
      leaves (do disk.fill temporary text; disk.replace temporary target)
          (tree.write temporary "") = (.error cause, tree.write temporary part) →
        leaves (disk.settle temporary target text) (tree.write temporary "") =
          (.error cause, tree) := by
    intro cause part failed
    have there : (tree.write temporary part).isFile temporary = true :=
      FileTree.isFile_write_self tree temporary part
    rw [settle, leaves_tryCatch_of_error failed, leaves_bind_of_ok (disk.discarded there)]
    rw [FileTree.remove_write fresh]
    rfl
  cases fillRan : leaves (disk.fill temporary text) (tree.write temporary "") with
  | mk said middle =>
      cases said with
      | error cause =>
          obtain ⟨part, rfl⟩ := disk.notFilled fillRan
          rw [FileTree.write_write fresh] at fillRan
          exact .inr ⟨cause, rescued (leaves_bind_of_error fillRan)⟩
      | ok _ =>
          obtain rfl := disk.filled fillRan
          rw [FileTree.write_write fresh] at fillRan
          cases replaceRan : leaves (disk.replace temporary target) (tree.write temporary text) with
          | mk said last =>
              have ran : leaves (do disk.fill temporary text; disk.replace temporary target)
                  (tree.write temporary "") = (said, last) := by
                rw [leaves_bind_of_ok fillRan]
                exact replaceRan
              cases said with
              | error cause =>
                  obtain rfl := disk.notReplaced replaceRan
                  exact .inr ⟨cause, rescued ran⟩
              | ok _ =>
                  obtain ⟨held, read, rfl⟩ := disk.replaced replaceRan
                  rw [FileTree.read?_write_self, Option.some_inj] at read
                  subst read
                  rw [FileTree.remove_write fresh] at ran
                  exact .inl (leaves_tryCatch_of_ok ran)

/-- A text that was written is what the path leads to; one that was not has left the
tree alone. -/
theorem writeFile_spec (disk : Disk) (path : Path) (text : String) (tree : FileTree) :
    (∃ target, tree.place? path = some target ∧
        leaves (disk.writeFile path text) tree = (.ok (), tree.write target text)) ∨
      ∃ cause, leaves (disk.writeFile path text) tree = (.error cause, tree) := by
  unfold writeFile
  cases last : path.getLast? with
  | none => exact .inr ⟨_, rfl⟩
  | some name =>
      dsimp only
      have got : leaves (get : Storing FileTree) tree = (.ok tree, tree) := rfl
      rw [leaves_bind_of_ok got]
      cases entered : tree.enter [] path.dropLast with
      | error cause =>
          have stopped : leaves (Storing.writeFile.liftExcept (.error cause) : Storing Path) tree =
              (.error cause, tree) := rfl
          exact .inr ⟨cause, leaves_bind_of_error stopped⟩
      | ok directory =>
          have wentOn : leaves (Storing.writeFile.liftExcept (.ok directory)) tree =
              (.ok directory, tree) := rfl
          rw [leaves_bind_of_ok wentOn]
          cases createRan : leaves (disk.createTemporary directory name) tree with
          | mk said middle =>
              cases said with
              | error cause =>
                  obtain rfl := disk.notCreated createRan
                  exact .inr ⟨cause, leaves_bind_of_error createRan⟩
              | ok temporary =>
                  obtain ⟨-, fresh, -, rfl⟩ := disk.created createRan
                  rw [leaves_bind_of_ok createRan]
                  obtain done | ⟨cause, stopped⟩ := leaves_settle fresh
                  · refine .inl ⟨_, ?_, done⟩
                    simp [FileTree.place?, last, entered, Except.toOption]
                  · exact .inr ⟨cause, stopped⟩

end Disk

/-! ## The disk of a run -/

/-- A temporary file has a name that nothing in the directory has, and is empty.  If none is to be
had the tree is as it was. -/
theorem leaves_createTemporary (directory : Path) (name : String) (tree : FileTree) :
    (∃ path, leaves (Storing.createTemporary directory name) tree =
        (.ok path, tree.write path "") ∧ (∃ fresh, path = directory ++ [fresh]) ∧
          tree.isFile path = false ∧ tree.isDirectory path = false) ∨
      ∃ cause, leaves (Storing.createTemporary directory name) tree = (.error cause, tree) := by
  have got : leaves (get : Storing FileTree) tree = (.ok tree, tree) := rfl
  unfold Storing.createTemporary
  rw [leaves_bind_of_ok got]
  dsimp only
  split
  · exact .inr ⟨_, rfl⟩
  · rename_i path found
    have free := List.find?_some found
    obtain ⟨attempt, -, rfl⟩ := List.mem_map.1 (List.mem_of_find?_eq_some found)
    split
    · exact .inr ⟨_, rfl⟩
    · exact .inl ⟨_, rfl, ⟨_, rfl⟩, by simpa using free⟩

/-- Moving a file either takes all of its text to the target or changes nothing; there is no state
in between. -/
theorem leaves_replace (source target : Path) (tree : FileTree) :
    (∃ text, tree.read? source = some text ∧ leaves (Storing.replace source target) tree =
        (.ok (), (tree.remove source).write target text)) ∨
      ∃ cause, leaves (Storing.replace source target) tree = (.error cause, tree) := by
  have got : leaves (get : Storing FileTree) tree = (.ok tree, tree) := rfl
  unfold Storing.replace
  rw [leaves_bind_of_ok got]
  cases tree.isDirectory target with
  | true => exact .inr ⟨_, rfl⟩
  | false =>
      cases read : tree.read? source with
      | none =>
          refine .inr ⟨.missing, ?_⟩
          simp only [Bool.false_eq_true, if_false]
          rfl
      | some text =>
          refine .inl ⟨text, rfl, ?_⟩
          simp only [Bool.false_eq_true, if_false]
          rfl

/-- The tree of a run is a disk: nothing on it is refused but for a reason to be seen
in the tree or in the name. -/
def Disk.inMemory : Disk where
  createTemporary := Storing.createTemporary
  fill := Storing.fill
  replace := Storing.replace
  discard := Storing.discard
  created := by
    intro directory name tree after path ran
    obtain ⟨made, is, placed, fresh⟩ | ⟨cause, is⟩ := leaves_createTemporary directory name tree
    · rw [is] at ran
      obtain ⟨same, rfl⟩ := Prod.mk.inj ran
      obtain rfl := Except.ok.inj same
      exact ⟨placed, fresh.1, fresh.2, rfl⟩
    · rw [is] at ran
      cases ran
  notCreated := by
    intro directory name tree after cause ran
    obtain ⟨made, is, -⟩ | ⟨other, is⟩ := leaves_createTemporary directory name tree
    · rw [is] at ran
      cases ran
    · rw [is] at ran
      exact (Prod.mk.inj ran).2.symm
  filled := fun ran => (Prod.mk.inj ran).2.symm
  notFilled := fun ran => by cases ran
  replaced := by
    intro source target tree after ran
    obtain ⟨text, read, is⟩ | ⟨cause, is⟩ := leaves_replace source target tree
    · rw [is] at ran
      exact ⟨text, read, (Prod.mk.inj ran).2.symm⟩
    · rw [is] at ran
      cases ran
  notReplaced := by
    intro source target tree after cause ran
    obtain ⟨text, -, is⟩ | ⟨other, is⟩ := leaves_replace source target tree
    · rw [is] at ran
      cases ran
    · rw [is] at ran
      exact (Prod.mk.inj ran).2.symm
  discarded := fun _ => rfl

/-- Filling is never refused there, so it matters little that a refusal of it would be
answered. -/
theorem writeFile_inMemory (path : Path) (text : String) :
    Disk.inMemory.writeFile path text = Storing.writeFile path text := by
  unfold Disk.writeFile Storing.writeFile
  rfl

theorem generate_inMemory (settings : Settings) (diagram : Diagram) (path : Path) (shown : String)
    (tree : FileTree) :
    Disk.inMemory.generate settings diagram path shown tree =
      generate settings diagram (.file path shown) tree := by
  unfold Disk.generate generate
  simp only [Destination.deliver, ← writeFile_inMemory]
  rfl

/-- A run that returns has written the script of its result to the file that the path
leads to and nothing else; a run that fails, in whichever phase or step of the
delivery, leaves the tree as it was. -/
theorem generate_all_or_nothing (settings : Settings) (diagram : Diagram) (path : Path)
    (shown : String) :
    Disk.inMemory.generate settings diagram path shown =
        generate settings diagram (.file path shown) ∧
      ∀ (disk : Disk) (tree : FileTree),
        match disk.generate settings diagram path shown tree with
        | (.ok result, after) =>
            compile settings diagram = .ok result ∧
              ∃ target, tree.place? path = some target ∧ tree.ChangedAt after target result.ddl
        | (.error (.compile cause), after) => compile settings diagram = .error cause ∧ after = tree
        | (.error (.delivery _ _), after) =>
            (∃ result, compile settings diagram = .ok result) ∧ after = tree := by
  refine ⟨funext fun tree => generate_inMemory settings diagram path shown tree, ?_⟩
  intro disk tree
  cases compiled : compile settings diagram with
  | error cause =>
      have ran : disk.generate settings diagram path shown tree =
          (.error (.compile cause), tree) := by
        simp only [Disk.generate, compiled]
      rw [ran]
      exact ⟨rfl, rfl⟩
  | ok result =>
      obtain ⟨target, placed, done⟩ | ⟨cause, stopped⟩ := disk.writeFile_spec path result.ddl tree
      · have ran : disk.generate settings diagram path shown tree =
            (.ok result, tree.write target result.ddl) := by
          simp only [Disk.generate, compiled, done]
        rw [ran]
        exact ⟨rfl, target, placed, FileTree.changedAt_write tree target result.ddl⟩
      · have ran : disk.generate settings diagram path shown tree =
            (.error (.delivery (.file path shown) cause), tree) := by
          simp only [Disk.generate, compiled, stopped]
        rw [ran]
        exact ⟨⟨result, rfl⟩, rfl⟩

end EntitySchema
