import Resumption.Text.Quoted
import Resumption.Toml.Tree

/-!
Typed values out of a tree. What does not have the expected type is reported together with its
place: that of the value, or of its key where the value was only named by keys. A record is a table
with some of its fields, or an array of the first of them; names that are no fields are passed over.
-/

namespace Resumption.Toml

/-- What stands where something else was expected. -/
inductive Found
  | text (content : String)
  | integer (n : Int)
  | float (x : Binary64)
  | boolean (b : Bool)
  | sequence
  | map
deriving DecidableEq, Repr

namespace Found

/-- What a tree is. A date or a time counts as a table of its own. -/
def ofTree : Tree → Found
  | .scalar _ (.text content) => text content
  | .scalar _ (.integer n) => integer n
  | .scalar _ (.float x) => float x
  | .scalar _ (.boolean b) => boolean b
  | .scalar _ .moment => map
  | .array .. | .sections .. => sequence
  | .table .. => map

/-- The value in words. -/
def describe : Found → String
  | text content => "string " ++ Text.quote content
  | integer n => "integer \x60" ++ toString n ++ "\x60"
  | float x => "floating point \x60" ++ x.text ++ "\x60"
  | boolean b => "boolean \x60" ++ (if b then "true" else "false") ++ "\x60"
  | sequence => "sequence"
  | map => "map"

end Found

/-- A value that is not of the expected type, or not in its range. -/
structure Mismatch where
  found : Found
  expected : String
  outOfRange : Bool
  place : Option Span
deriving DecidableEq, Repr

namespace Mismatch

/-- The mismatch at a place, unless it has a place of its own. -/
def locate (place : Option Span) (mismatch : Mismatch) : Mismatch :=
  { mismatch with place := mismatch.place.or place }

/-- The mismatch in words, in a document of the given size. -/
def message (mismatch : Mismatch) (documentSize : Nat) : String :=
  let kind := if mismatch.outOfRange then "invalid value: " else "invalid type: "
  let place := match mismatch.place with
    | none => ""
    | some span =>
      s!" (at position {documentSize - span.startLeft}..{documentSize - span.stopLeft})"
  kind ++ mismatch.found.describe ++ ", expected " ++ mismatch.expected ++ place

end Mismatch

/-- A typed value or the reason why there is none. -/
abbrev Decoded (α : Type) := Except Mismatch α

/-- The report that a tree is not what was expected. -/
def mismatch {α : Type} (tree : Tree) (expected : String) (outOfRange : Bool) : Decoded α :=
  .error ⟨Found.ofTree tree, expected, outOfRange, tree.span⟩

/-- An integer within bounds. -/
def decodeInteger (low high : Int) (expected : String) (tree : Tree) : Decoded Int :=
  match tree with
  | .scalar _ (.integer n) =>
    if low ≤ n ∧ n ≤ high then .ok n else mismatch tree expected true
  | _ => mismatch tree expected false

/-- A text. -/
def decodeText (expected : String) (tree : Tree) : Decoded String :=
  match tree with
  | .scalar _ (.text content) => .ok content
  | _ => mismatch tree expected false

/-- A field of a record: its name, and how a value changes a record. -/
structure Field (σ : Type) where
  name : String
  set : Tree → σ → Decoded σ

/-- The record after the entries of a table. -/
def decodeEntries {σ : Type} (fields : List (Field σ)) (record : σ) (entries : Entries) :
    Decoded σ :=
  entries.foldlM (fun record (key, tree) =>
    match fields.find? fun field => field.name = key.name with
    | some field => (field.set tree record).mapError (·.locate key.span)
    | none => .ok record) record

/-- The record after the items of an array, which stand for the first fields. -/
def decodeItems {σ : Type} (fields : List (Field σ)) (record : σ) (items : List Tree) :
    Decoded σ :=
  (fields.zip items).foldlM (fun record (field, tree) => field.set tree record) record

/-- The record that a tree gives, beginning with the values of fields that are not given. -/
def decodeRecord {σ : Type} (expected : String) (fields : List (Field σ)) (record : σ)
    (tree : Tree) : Decoded σ :=
  match tree with
  | .table _ _ entries => decodeEntries fields record entries
  | .array _ items => decodeItems fields record items
  | .sections items => decodeItems fields record items
  | .scalar _ .moment => .ok record
  | .scalar _ _ => mismatch tree expected false

end Resumption.Toml
