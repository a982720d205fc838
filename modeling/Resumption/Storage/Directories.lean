import Resumption.Storage.Script

/-!
Directories are made together with those around them. The path itself is tried first, so that
nothing outside of it is touched when the directory around it exists.
-/

namespace Resumption.Script

/-- Makes the first of some paths a directory, each of which lies in the next. A directory that
exists is left as it is. -/
def makeDirectoriesAlong : List Path → Script (Except StorageError Unit)
  | [] => return .error .notFound
  | path :: around => do
    if path.text = "" then return .ok ()
    match ← request (.makeDirectory path) with
    | .ok () => return .ok ()
    | .error .notFound =>
      match ← makeDirectoriesAlong around with
      | .error e => return .error e
      | .ok () => settle path (← request (.makeDirectory path))
    | .error e => settle path (.error e)
where
  /-- A directory that could not be made may stand there already. -/
  settle (path : Path) (made : Except StorageError Unit) : Script (Except StorageError Unit) := do
    match made with
    | .ok () => return .ok ()
    | .error e => if ← request (.isDirectory path) then return .ok () else return .error e

/-- Makes a directory and those around it, as far as they do not exist. -/
def makeDirectories (path : Path) : Script (Except StorageError Unit) :=
  makeDirectoriesAlong path.ancestors

end Resumption.Script
