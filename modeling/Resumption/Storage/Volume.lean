import Resumption.Path
import Resumption.Wire.Octets

/-!
The files and directories of a host. Every entry but the root has a place, the names on the way to
it, and every operation gives a changed volume or the reason why nothing changed. A path is followed
piece by piece; whatever is not its last piece has to be a directory that exists.

There are no links and no permissions: an entry is reached under its own names alone, and whoever
asks may do with it what its kind allows. What is said of volumes is said of plain files and
directories.
-/

namespace Resumption

/-- Why an operation on files fails. -/
inductive StorageError
  | notFound
  | busy
  | alreadyExists
  | notDirectory
  | isDirectory
  | nameTooLong
  /-- A name holds the character with code zero. -/
  | invalidName
  /-- A file that should hold text does not. -/
  | noText
deriving DecidableEq, Repr

/-- The error in words. -/
def StorageError.message : StorageError → String
  | notFound => "No such file or directory (os error 2)"
  | busy => "Device or resource busy (os error 16)"
  | alreadyExists => "File exists (os error 17)"
  | notDirectory => "Not a directory (os error 20)"
  | isDirectory => "Is a directory (os error 21)"
  | nameTooLong => "File name too long (os error 36)"
  | invalidName => "file name contained an unexpected NUL byte"
  | noText => "stream did not contain valid UTF-8"

/-- What stands at a place. -/
inductive Entry
  | file (content : Bytes)
  | directory
deriving DecidableEq, Repr

/-- The names on the way from the root. -/
abbrev Place := List String

/-- The entries below the root: plain files and directories, without links and permissions. -/
structure Volume where
  entries : List (Place × Entry)
deriving DecidableEq, Repr

/-- The most bytes in the name of an entry. -/
def nameLimit : Nat := 255

/-- The most bytes in a path. -/
def pathLimit : Nat := 4095

namespace Volume

/-- A volume with nothing below its root. -/
def empty : Volume := ⟨[]⟩

/-- The entry at a place. -/
def get? (v : Volume) (place : Place) : Option Entry :=
  if place = [] then some .directory
  else (v.entries.find? fun entry => entry.1 = place).map Prod.snd

/-- The volume with an entry at a place, in the place of what stood there. -/
def put (v : Volume) (place : Place) (entry : Entry) : Volume :=
  ⟨(place, entry) :: v.entries.filter fun other => other.1 ≠ place⟩

/-- The volume without the entry at a place. -/
def drop (v : Volume) (place : Place) : Volume :=
  ⟨v.entries.filter fun other => other.1 ≠ place⟩

/-- The volume without the entry at a place and all below it. -/
def dropTree (v : Volume) (place : Place) : Volume :=
  ⟨v.entries.filter fun other => !place.isPrefixOf other.1⟩

/-- The names in a directory, those of directories with a slash behind them, in order. -/
def list (v : Volume) (place : Place) : List String :=
  let inside := v.entries.filterMap fun (other, entry) =>
    match other.getLast? with
    | some name =>
      if other.dropLast = place then
        some (if entry = .directory then name ++ "/" else name)
      else none
    | none => none
  inside.mergeSort fun a b => decide (a ≤ b)

theorem get?_put (v : Volume) (place other : Place) (entry : Entry) (below : place ≠ []) :
    (v.put place entry).get? other = if other = place then some entry else v.get? other := by
  unfold get? put
  by_cases same : other = place
  · simp [same, below]
  · by_cases root : other = []
    · simp [root, Ne.symm below]
    · have away : ¬ place = other := fun h => same h.symm
      simp only [root, same, away, if_false, List.find?_cons, decide_false, List.find?_filter]
      congr 2
      funext entry
      by_cases here : entry.1 = other <;> simp [here, same]

theorem get?_drop (v : Volume) (place other : Place) (below : place ≠ []) :
    (v.drop place).get? other = if other = place then none else v.get? other := by
  unfold get? drop
  by_cases same : other = place
  · simp [same, below]
  · by_cases root : other = []
    · simp [root, Ne.symm below]
    · simp only [root, same, if_false, List.find?_filter]
      congr 2
      funext entry
      by_cases here : entry.1 = other <;> simp [here, same]

/-! Paths -/

/-- The place that the pieces of a path lead to. Two dots lead back, and the root is above
itself. -/
def follow (v : Volume) : (here : Place) → (pieces : List String) → Except StorageError Place
  | here, [] => .ok here
  | here, piece :: pieces =>
    match v.get? here with
    | none => .error .notFound
    | some (.file _) => .error .notDirectory
    | some .directory =>
      if Path.isIdle piece then v.follow here pieces
      else if piece = ".." then v.follow here.dropLast pieces
      else if nameLimit < piece.utf8ByteSize then .error .nameTooLong
      else v.follow (here ++ [piece]) pieces

/-- Why a path leads nowhere, whatever a volume holds. -/
def check (path : Path) : Except StorageError Unit :=
  if path.pieces.any fun piece => piece.toList.contains '\x00' then .error .invalidName
  else if path.text = "" then .error .notFound
  else if pathLimit < path.text.utf8ByteSize then .error .nameTooLong
  else .ok ()

/-- The place that a path leads to. Something may or may not stand there. -/
def locate (v : Volume) (path : Path) : Except StorageError Place := do
  check path
  v.follow [] path.pieces

/-- A path without slashes at its end. -/
def unslashed (path : Path) : Path :=
  match (path.pieces.reverse.dropWhile (· = "")).reverse with
  | [] => path
  | pieces => ⟨pieces⟩

/-- Whether there is a slash at the end of a path. -/
def endsInSlash (path : Path) : Bool :=
  path.pieces.getLast? = some ""

/-- Whether a path ends in the name of an entry, and not in dots or at the root. -/
def endsInName (path : Path) : Bool :=
  (unslashed path).pieces.getLast?.any fun piece => !Path.isIdle piece && piece ≠ ".."

/-- The place of the directory around the last piece of a path, which is not followed. -/
def locateAround (v : Volume) (path : Path) : Except StorageError Place := do
  check path
  v.follow [] ((unslashed path).pieces.dropLast ++ [""])

/-- The place where a path asks for a file. A path that ends in a slash or in dots asks for a
directory instead, and its last piece is not followed. -/
def locateFile (v : Volume) (path : Path) : Except StorageError Place := do
  if endsInName path && !endsInSlash path then v.locate path
  else
    let _ ← v.locateAround path
    throw .isDirectory

/-! Operations -/

/-- Whether a path leads to an entry. -/
def isPresent (v : Volume) (path : Path) : Bool :=
  match v.locate path with
  | .ok place => (v.get? place).isSome
  | .error _ => false

/-- Whether a path leads to a directory. -/
def isDirectory (v : Volume) (path : Path) : Bool :=
  match v.locate path with
  | .ok place => v.get? place = some .directory
  | .error _ => false

/-- The content of a file. -/
def read (v : Volume) (path : Path) : Except StorageError Bytes := do
  match v.get? (← v.locate path) with
  | none => throw .notFound
  | some .directory => throw .isDirectory
  | some (.file content) => return content

/-- Makes a directory where nothing stands. -/
def makeDirectory (v : Volume) (path : Path) : Except StorageError Volume := do
  let place ← v.locate (unslashed path)
  match v.get? place with
  | some _ => throw .alreadyExists
  | none => return v.put place .directory

/-- Writes a file, in the place of one that stands there. -/
def write (v : Volume) (path : Path) (content : Bytes) : Except StorageError Volume := do
  let place ← v.locateFile path
  match v.get? place with
  | some .directory => throw .isDirectory
  | _ => return v.put place (.file content)

/-- Makes an empty file where nothing stands. -/
def create (v : Volume) (path : Path) : Except StorageError Volume := do
  let place ← v.locateFile path
  match v.get? place with
  | some _ => throw .alreadyExists
  | none => return v.put place (.file [])

/-- Moves a file, in the place of one that stands at the target. Both changes are one step. Both
paths have to end in a name. -/
def move (v : Volume) (source target : Path) : Except StorageError Volume := do
  let _ ← v.locateAround source
  let _ ← v.locateAround target
  if !(endsInName source && endsInName target) then throw .busy
  let sourcePlace ← v.locate source
  match v.get? sourcePlace with
  | none => throw .notFound
  | some .directory => throw .isDirectory
  | some (.file content) =>
    let targetPlace ← v.locate (unslashed target)
    if endsInSlash target then throw .notDirectory
    match v.get? targetPlace with
    | some .directory => throw .isDirectory
    | _ => return (v.drop sourcePlace).put targetPlace (.file content)

/-- Removes a file. -/
def remove (v : Volume) (path : Path) : Except StorageError Volume := do
  let place ← v.locate path
  match v.get? place with
  | none => throw .notFound
  | some .directory => throw .isDirectory
  | some (.file _) => return v.drop place

end Volume
end Resumption
