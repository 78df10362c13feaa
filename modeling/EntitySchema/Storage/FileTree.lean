/-
# EntitySchema.Storage.FileTree -- files and directories

A tree holds texts under paths and knows its directories; the root is always
one.  A path is a list of names from the root on.  Operations that a file system
may refuse say why (`StorageError`), and one that is refused changes nothing.
-/

namespace EntitySchema

set_option autoImplicit false

abbrev Path := List String

/-- The names of a written path; a name that is empty or a dot leads nowhere. -/
def Path.ofText (text : String) : Path :=
  (text.splitOn "/").filter fun name => !name.isEmpty && name != "."

def Path.text (path : Path) : String := String.intercalate "/" path

/-- Why an operation is refused. -/
inductive StorageError where
  | missing
  | notDirectory
  | isDirectory
  | exists
  | nameTooLong
  | streamClosed
  deriving DecidableEq, Repr

def StorageError.reason : StorageError → String
  | .missing => "No such file or directory"
  | .notDirectory => "Not a directory"
  | .isDirectory => "Is a directory"
  | .exists => "File exists"
  | .nameTooLong => "File name too long"
  | .streamClosed => "I/O operation on closed file."

/-- Files and directories below a root. -/
structure FileTree where
  files : List (Path × String) := []
  directories : List Path := []
  deriving DecidableEq, Repr

namespace FileTree

def isDirectory (tree : FileTree) (path : Path) : Bool :=
  path.isEmpty || tree.directories.contains path

def isFile (tree : FileTree) (path : Path) : Bool := tree.files.any (·.1 == path)

def read? (tree : FileTree) (path : Path) : Option String := tree.files.lookup path

def write (tree : FileTree) (path : Path) (text : String) : FileTree :=
  if tree.isFile path then
    { tree with files := tree.files.map fun file => if file.1 == path then (path, text) else file }
  else { tree with files := tree.files ++ [(path, text)] }

def remove (tree : FileTree) (path : Path) : FileTree :=
  { tree with files := tree.files.filter (·.1 != path) }

def addDirectory (tree : FileTree) (path : Path) : FileTree :=
  if tree.isDirectory path then tree
  else { tree with directories := tree.directories ++ [path] }

/-- The tree with all directories along a path. -/
def addDirectories (tree : FileTree) (path : Path) : FileTree :=
  (List.range path.length).foldl (fun tree count => tree.addDirectory (path.take (count + 1))) tree

/-- The tree with a file, and the directories that lead to it. -/
def put (tree : FileTree) (path : Path) (text : String) : FileTree :=
  (tree.addDirectories path.dropLast).write path text

/-- The directory that a path leads to from `here`; two dots lead one up. -/
def enter (tree : FileTree) (here : Path) : Path → Except StorageError Path
  | [] => .ok here
  | name :: rest =>
      if name = ".." then tree.enter here.dropLast rest
      else
        let next := here ++ [name]
        if tree.isDirectory next then tree.enter next rest
        else .error (if tree.isFile next then .notDirectory else .missing)

/-- Makes a directory and those above it, unless a file is in the way. -/
def makeDirectories (tree : FileTree) (path : Path) : Except StorageError FileTree :=
  match (List.range path.length).find? fun count => tree.isFile (path.take (count + 1)) with
  | none => .ok (tree.addDirectories path)
  | some count => .error (if count + 1 = path.length then .exists else .notDirectory)

end FileTree

end EntitySchema
