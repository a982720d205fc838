import Resumption.Text.Pieces

/-!
Paths of files and directories as people write them: the pieces between the slashes, in order. A
leading empty piece makes a path absolute; other empty pieces and single dots mean nothing.
-/

namespace Resumption

/-- A path by the pieces between its slashes. -/
structure Path where
  pieces : List String
deriving DecidableEq, Repr

namespace Path

/-- The path that a text spells. -/
def ofText (text : String) : Path :=
  ⟨(Text.pieces '/' text.toList).map String.ofList⟩

/-- The path as text. -/
def text (path : Path) : String :=
  "/".intercalate path.pieces

/-- Whether the path begins with a slash. -/
def isAbsolute (path : Path) : Bool :=
  match path.pieces with
  | first :: _ :: _ => first = ""
  | _ => false

/-- A path continued by another with exactly one slash between them; an absolute path stands for
itself. -/
def join (base next : Path) : Path :=
  if next.isAbsolute then next
  else if base.pieces.getLast? = some "" then ⟨base.pieces.dropLast ++ next.pieces⟩
  else ⟨base.pieces ++ next.pieces⟩

/-- The path of a name inside a directory. -/
def child (directory : Path) (name : String) : Path :=
  directory.join ⟨[name]⟩

/-- Whether a piece that is not the first means nothing. -/
def isIdle (piece : String) : Bool :=
  piece = "" || piece = "."

/-- The pieces without idle ones at the end; the first piece always stays. -/
def trimEnd : List String → List String
  | [] => []
  | first :: rest => first :: (rest.reverse.dropWhile isIdle).reverse

/-- The last piece with a meaning and the pieces before it, if there is such a piece. -/
def last? (path : Path) : Option (List String × String) :=
  let pieces := trimEnd path.pieces
  match pieces.getLast? with
  | none | some "" => none
  | some name => some (pieces.dropLast, name)

/-- The directory of what the path names: nothing for the root and for the empty path. -/
def parent? (path : Path) : Option Path :=
  path.last?.map fun (before, _) =>
    match trimEnd before with
    | [""] => ⟨["", ""]⟩
    | [] => ⟨[""]⟩
    | pieces => ⟨pieces⟩

/-- The path and the directories around it, from the inside out. -/
def ancestors (path : Path) : List Path :=
  go path.pieces.length path
where
  go : (fuel : Nat) → Path → List Path
    | 0, path => [path]
    | fuel + 1, path => path :: (path.parent?.map (go fuel)).getD []

/-- A name up to its last dot, unless the name begins there. -/
def stem (name : String) : String :=
  let reversed := name.toList.reverse
  match reversed.dropWhile (· ≠ '.') with
  | [] | [_] => name
  | _ :: before => String.ofList before.reverse

/-- The path with another extension in the place of the last one. A path that ends in no name of its
own stays as it is. -/
def withExtension (path : Path) (extension : String) : Path :=
  match path.last? with
  | none | some (_, "..") => path
  | some (before, name) =>
    if before = [] ∧ name = "." then path else ⟨before ++ [stem name ++ "." ++ extension]⟩

end Path
end Resumption
