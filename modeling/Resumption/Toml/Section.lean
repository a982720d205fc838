import Resumption.Toml.Tree

/-!
Tables that grow line by line. A dotted key names the tables on the way to its last part, and makes
those that are missing. Which tables it may pass depends on how they were written: a key passes
tables that no header and no braces have closed, and ends in one that keys made; a header passes any
table that is not in braces, and in the place of shared tables the last of them.
-/

namespace Resumption.Toml

/-- How a chain of names goes through tables. -/
structure Descent where
  passes : TableKind → Bool
  fresh : TableKind

namespace Descent

/-- The way of a header. -/
def ofHeader : Descent where
  passes kind := kind = .header || kind = .implied || kind = .dotted
  fresh := .implied

/-- The way of a dotted key. -/
def ofKey : Descent where
  passes kind := kind = .implied || kind = .dotted
  fresh := .dotted

/-- The way of a dotted key in braces. -/
def ofInlineKey : Descent where
  passes kind := kind = .inlineDotted
  fresh := .inlineDotted

end Descent

/-- A change of the entries of a table that may be refused for how the table was written. -/
abbrev Change := TableKind → Entries → Option Entries

/-- The last of the tables that share a header, changed. -/
def changeLast (change : TableKind → Entries → Option Entries) : List Tree → Option (List Tree)
  | [] => none
  | [.table kind span entries] =>
    (change kind entries).map fun entries => [.table kind span entries]
  | [_] => none
  | item :: items => (changeLast change items).map (item :: ·)

/-- The entries of a table after a change of the table at the end of a chain of names. -/
def Descent.change (way : Descent) : (names : List Key) → Change → Change
  | [], change => change
  | key :: names, change => fun _ entries =>
    let inner := way.change names change
    match entries.find? key.name with
    | none =>
      (inner way.fresh []).map fun made => entries ++ [(key, .table way.fresh none made)]
    | some (.table kind span held) =>
      if way.passes kind then
        (inner kind held).map fun held => entries.replace key.name (.table kind span held)
      else none
    | some (.sections items) =>
      (changeLast inner items).map fun items => entries.replace key.name (.sections items)
    | some _ => none

/-- The addition of a value under a name that is not taken. -/
def Entries.add (entries : Entries) (key : Key) (tree : Tree) : Option Entries :=
  match entries.find? key.name with
  | none => some (entries ++ [(key, tree)])
  | some _ => none

/-- The last part of a key and the parts before it. -/
def splitKey (key : List Key) : Option (List Key × Key) :=
  key.getLast?.map fun last => (key.dropLast, last)

/-- The entries of a section with one more line. A dotted key has to end in a table made by keys. -/
def Entries.assign (entries : Entries) (key : List Key) (tree : Tree) : Option Entries := do
  let (names, last) ← splitKey key
  Descent.ofKey.change names (fun kind entries =>
    if names ≠ [] ∧ kind ≠ .dotted then none else entries.add last tree) .header entries

/-- The entries of a table in braces with one more pair. -/
def Entries.assignInline (entries : Entries) (key : List Key) (tree : Tree) : Option Entries := do
  let (names, last) ← splitKey key
  Descent.ofInlineKey.change names (fun _ entries => entries.add last tree) .inline entries

end Resumption.Toml
