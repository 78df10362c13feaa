/-
# EntitySchema.Storage.Delivery -- handing over the script

A script goes to a stream or to a file.  A file is written under a temporary name
in the directory of the destination and then takes its place in one step; if that
fails the temporary file is removed again, so the tree is either as before or
differs in the destination only.
-/
import EntitySchema.Report.Failure
import EntitySchema.Storage.FileTree

namespace EntitySchema

set_option autoImplicit false

/-- A computation on a tree that may be refused. -/
abbrev Storing := ExceptT StorageError (StateM FileTree)

/-- The longest name of a file, in bytes. -/
def longestName : Nat := 255

def eightDigits (n : Nat) : String :=
  let digits := toString n
  String.ofList (List.replicate (8 - digits.length) '0') ++ digits

/-- A name for a temporary file beside a file, by number. -/
def temporaryName (name : String) (attempt : Nat) : String :=
  "." ++ name ++ "." ++ eightDigits attempt ++ ".tmp"

namespace Storing

/-- Makes a new, empty file beside the file `name` in a directory. -/
def createTemporary (directory : Path) (name : String) : Storing Path := do
  let tree ← get
  let attempts := (List.range (tree.files.length + tree.directories.length + 1)).map fun attempt =>
    directory ++ [temporaryName name attempt]
  let fresh := attempts.find? fun path => !tree.isFile path && !tree.isDirectory path
  match fresh with
  | none => throw .exists
  | some path =>
      if (temporaryName name 0).utf8ByteSize > longestName then throw .nameTooLong
      set (tree.write path "")
      return path

def fill (path : Path) (text : String) : Storing Unit := modify fun tree => tree.write path text

/-- Moves a file to another path, where it takes the place of any file. -/
def replace (source target : Path) : Storing Unit := do
  let tree ← get
  if tree.isDirectory target then throw .isDirectory
  match tree.read? source with
  | none => throw .missing
  | some text => set ((tree.remove source).write target text)

def discard (path : Path) : Storing Unit := modify fun tree => tree.remove path

/-- Writes a text to a path through a temporary file. -/
def writeFile (path : Path) (text : String) : Storing Unit := do
  match path.getLast? with
  | none => throw .isDirectory
  | some name =>
      let directory ← liftExcept ((← get).enter [] path.dropLast)
      let temporary ← createTemporary directory name
      fill temporary text
      let target := if name = ".." then directory.dropLast else directory ++ [name]
      tryCatch (replace temporary target) fun cause => do
        discard temporary
        throw cause
where
  liftExcept {α : Type} : Except StorageError α → Storing α
    | .ok value => return value
    | .error cause => throw cause

end Storing

/-- Where a script goes. -/
inductive Destination where
  | stream
  | closedStream
  /-- A file, by the path from the root and as it is called in messages. -/
  | file (path : Path) (shown : String)
  deriving DecidableEq, Repr

def Destination.deliver (destination : Destination) (text : String) : Storing Unit :=
  match destination with
  | .stream => return ()
  | .closedStream => throw .streamClosed
  | .file path _ => Storing.writeFile path text

def Destination.failure (destination : Destination) (cause : StorageError) : Failure :=
  let place := match destination with
    | .file _ shown => { pass := "emit", details := .record [(.text "path", .text shown)] }
    | _ => { pass := "emit" }
  let target := match destination with
    | .file _ shown => shown
    | _ => "stream"
  { kind := .writeFailure
    message := "Cannot write DDL to " ++ target ++ ": " ++ cause.reason
    place }

end EntitySchema
