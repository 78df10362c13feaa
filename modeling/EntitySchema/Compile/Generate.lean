/-
# EntitySchema.Compile.Generate -- compiling and handing over in one go

The destination is only touched after the last phase, so a run that fails
leaves it alone.
-/
import EntitySchema.Compile.Basic
import EntitySchema.Storage.Delivery

namespace EntitySchema

set_option autoImplicit false

/-- Why no script was handed over. -/
inductive GenerateError where
  | compile (cause : CompileError)
  | delivery (destination : Destination) (cause : StorageError)
  deriving DecidableEq, Repr

def GenerateError.failure : GenerateError → Failure
  | .compile cause => cause.failure
  | .delivery destination cause => destination.failure cause

def generate (settings : Settings) (diagram : Diagram) (destination : Destination)
    (tree : FileTree) : Except GenerateError CompileResult × FileTree :=
  match compile settings diagram with
  | .error cause => (.error (.compile cause), tree)
  | .ok result =>
      match (destination.deliver result.ddl).run tree with
      | (.ok (), after) => (.ok result, after)
      | (.error cause, after) => (.error (.delivery destination cause), after)

end EntitySchema
