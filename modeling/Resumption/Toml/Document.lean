import Resumption.Toml.Statement

/-!
The tree of a document. The lines before the first header belong to the root table, and those behind
a header to the table it names. A header may take up a table that was only named on the way to
others, which then moves to the end of the table around it; no other table is named twice. A table
reaches from its header to the last value that its lines give.
-/

namespace Resumption.Toml

/-- The table that the current lines belong to. -/
structure Section where
  name : List Key
  shared : Bool
  span : Span
  entries : Entries

/-- A document that is being put together: the tables that are complete and the one at hand, which
is the root before the first header. -/
structure Draft where
  root : Entries
  current : Option Section

namespace Draft

/-- Puts a complete section into the table around it. -/
def close (draft : Draft) : Option Entries := do
  let some current := draft.current | return draft.root
  let (names, last) ← splitKey current.name
  let tree := Tree.table .header (some current.span) current.entries
  Descent.ofHeader.change names (fun _ entries =>
    if current.shared then
      match entries.find? last.name with
      | none => some (entries ++ [(last, .sections [tree])])
      | some (.sections items) => some (entries.replace last.name (.sections (items ++ [tree])))
      | some _ => none
    else entries.add last tree) .header draft.root

/-- The entries of a table that is only named on the way to others, and the root without it. A name
that is not taken gives no entries; one that is taken otherwise is refused. -/
def takeUp (root : Entries) (name : List Key) : Option (Entries × Entries) := do
  let (names, last) ← splitKey name
  let held ← entriesAt names root
  match Entries.find? held last.name with
  | none => return ([], root)
  | some (.table .implied _ entries) =>
    let root ← Descent.ofHeader.change names (fun _ held => some (held.erase last.name))
      .header root
    return (entries, root)
  | some _ => none
where
  /-- The entries of the table at the end of a chain of names; a missing table has none. -/
  entriesAt : List Key → Entries → Option Entries
    | [], entries => some entries
    | key :: names, entries =>
      match entries.find? key.name with
      | none => some []
      | some (.table kind _ held) =>
        if Descent.ofHeader.passes kind then entriesAt names held else none
      | some (.sections items) =>
        match items.getLast? with
        | some (.table _ _ held) => entriesAt names held
        | _ => none
      | some _ => none

/-- The draft after one more statement. -/
def next (draft : Draft) : Statement → Option Draft
  | .assign key value =>
    match draft.current with
    | none => do return { draft with root := ← draft.root.assign key value }
    | some current => do
      let entries ← current.entries.assign key value
      let stopLeft := (value.span.map Span.stopLeft).getD current.span.stopLeft
      return { draft with current := some { current with entries, span.stopLeft := stopLeft } }
  | .header name span => do
    let (entries, root) ← takeUp (← draft.close) name
    return ⟨root, some ⟨name, false, span, entries⟩⟩
  | .sharedHeader name span => do
    let root ← draft.close
    return ⟨root, some ⟨name, true, span, []⟩⟩

end Draft

/-- The root table of a document, or nothing where the document is in error. -/
def parse (document : String) : Option Entries := do
  let draft ← (← statements document.toList).foldlM Draft.next ⟨[], none⟩
  draft.close

end Resumption.Toml
