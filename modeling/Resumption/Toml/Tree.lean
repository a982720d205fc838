import Resumption.Decimal

/-!
A settings document as a tree: scalars, arrays, and tables whose entries keep the order in which
they were first named. Tables remember how they were written, because that decides whether a later
line may add to them. Places in a document are counted in bytes from its end, which is what a reader
of the remaining text knows.
-/

namespace Resumption.Toml

/-- A stretch of a document: the bytes that are left at its start and at its stop. -/
structure Span where
  startLeft : Nat
  stopLeft : Nat
deriving DecidableEq, Repr

/-- A value without parts. -/
inductive Scalar
  | text (content : String)
  | integer (n : Int)
  | float (x : Binary64)
  | boolean (b : Bool)
  /-- A date, a time or both. -/
  | moment
deriving DecidableEq, Repr

/-- How a table came to be. -/
inductive TableKind
  /-- Named by a header of its own. -/
  | header
  /-- Named on the way to a table with a header. -/
  | implied
  /-- Named on the way to the last part of a dotted key. -/
  | dotted
  /-- Written in braces. -/
  | inline
  /-- Named on the way to the last part of a dotted key in braces. -/
  | inlineDotted
deriving DecidableEq, Repr

/-- A part of a key, as it reads and where it stands. -/
structure Key where
  name : String
  span : Span
deriving DecidableEq, Repr

/-- A value with the places it was written in. -/
inductive Tree
  | scalar (span : Span) (value : Scalar)
  | array (span : Span) (items : List Tree)
  /-- Tables that share a header in double brackets. -/
  | sections (items : List Tree)
  | table (kind : TableKind) (span : Option Span) (entries : List (Key × Tree))

/-- The entries of a table. -/
abbrev Entries := List (Key × Tree)

/-- Where a value stands, if it stands in one place. -/
def Tree.span : Tree → Option Span
  | scalar span _ => some span
  | array span _ => some span
  | table _ span _ => span
  | sections items =>
    let placeOf : Tree → Option Span
      | table _ span _ => span
      | _ => none
    match items.head?.bind placeOf, items.getLast?.bind placeOf with
    | some first, some last => some ⟨first.startLeft, last.stopLeft⟩
    | _, _ => none

/-- The value under a name. -/
def Entries.find? (entries : Entries) (name : String) : Option Tree :=
  (List.find? (fun entry => entry.1.name = name) entries).map Prod.snd

/-- The entries with another value under a name that they hold. -/
def Entries.replace (entries : Entries) (name : String) (tree : Tree) : Entries :=
  List.map (fun entry => if entry.1.name = name then (entry.1, tree) else entry) entries

/-- The entries without a name. -/
def Entries.erase (entries : Entries) (name : String) : Entries :=
  List.filter (fun entry => entry.1.name ≠ name) entries

end Resumption.Toml
