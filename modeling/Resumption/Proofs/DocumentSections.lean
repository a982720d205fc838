import Resumption.Proofs.DocumentLines
import Resumption.Proofs.DocumentNames

/-! A document that is written section by section reads back as its sections,
in their order, each with its names and values. A draft of such a document is
followed statement by statement: a pair adds to the section at hand, and a
title completes it and begins the next one. -/
namespace Resumption.Toml

/-- A section as it is written: its title, and the names and values below it. -/
structure Block where
  title : String
  pairs : List (String × Scalar)
deriving DecidableEq, Repr

namespace Block

/-- The lines of a section. -/
def lines (block : Block) : List Line :=
  .title block.title :: block.pairs.map fun (name, value) => .pair name value

/-- The names of a section are bare, and none is given twice. -/
structure Proper (block : Block) : Prop where
  bare : IsBareName block.title
  names : ∀ pair ∈ block.pairs, IsBareName pair.1
  once : (block.pairs.map Prod.fst).Nodup

end Block

/-- An entry of a table shows a name with its value. -/
def ShowsPair (pair : String × Scalar) (entry : Key × Tree) : Prop :=
  entry.1.name = pair.1 ∧ ∃ span, entry.2 = .scalar span pair.2

/-- An entry of the root table shows a section. -/
def ShowsBlock (block : Block) (entry : Key × Tree) : Prop :=
  entry.1.name = block.title ∧
    ∃ span held, entry.2 = .table .header (some span) held ∧
      List.Forall₂ ShowsPair block.pairs held

section Rows

variable {α β : Type} {shows : α → β → Prop} {written : List α} {entries : List β}

theorem exists_shown (all : List.Forall₂ shows written entries) {a : α} (among : a ∈ written) :
    ∃ entry ∈ entries, shows a entry := by
  induction all with
  | nil => cases among
  | cons here _ ih =>
    rcases List.mem_cons.mp among with rfl | among
    · exact ⟨_, List.mem_cons_self, here⟩
    · obtain ⟨entry, held, there⟩ := ih among
      exact ⟨entry, List.mem_cons_of_mem _ held, there⟩

theorem exists_written_of_shown (all : List.Forall₂ shows written entries) {entry : β}
    (held : entry ∈ entries) : ∃ a ∈ written, shows a entry :=
  exists_shown all.flip held

end Rows

/-! ## What lines tell -/

theorem Tells.unblank {lines : List Line} {told : List Statement} (tells : Tells lines told) :
    Tells (lines.filter (· ≠ .blank)) told := by
  induction tells with
  | nil => exact .nil
  | blank _ ih =>
    rw [List.filter_cons_of_neg (by simp)]
    exact ih
  | title name place span _ ih =>
    rw [List.filter_cons_of_pos (by simp)]
    exact .title name place span ih
  | pair name value place span _ ih =>
    rw [List.filter_cons_of_pos (by simp)]
    exact .pair name value place span ih

theorem Tells.split {before after : List Line} {told : List Statement}
    (tells : Tells (before ++ after) told) :
    ∃ first rest, told = first ++ rest ∧ Tells before first ∧ Tells after rest := by
  induction before generalizing told with
  | nil => exact ⟨[], told, rfl, .nil, tells⟩
  | cons line before ih =>
    cases tells with
    | blank later =>
      obtain ⟨first, rest, rfl, here, there⟩ := ih later
      exact ⟨first, rest, rfl, .blank here, there⟩
    | title name place span later =>
      obtain ⟨first, rest, rfl, here, there⟩ := ih later
      exact ⟨_ :: first, rest, rfl, .title name place span here, there⟩
    | pair name value place span later =>
      obtain ⟨first, rest, rfl, here, there⟩ := ih later
      exact ⟨_ :: first, rest, rfl, .pair name value place span here, there⟩

/-! ## Drafts -/

theorem assign_of_free {entries : Entries} (key : Key) (free : entries.find? key.name = none)
    (tree : Tree) : entries.assign [key] tree = some (entries ++ [(key, tree)]) := by
  simp [Entries.assign, splitKey, Descent.change, Entries.add, free]

theorem takeUp_of_free {root : Entries} (key : Key) (free : root.find? key.name = none) :
    Draft.takeUp root [key] = some ([], root) := by
  simp [Draft.takeUp, splitKey, Draft.takeUp.entriesAt, free]

theorem close_of_free {root : Entries} (key : Key) (free : root.find? key.name = none)
    (span : Span) (entries : Entries) :
    (⟨root, some ⟨[key], false, span, entries⟩⟩ : Draft).close =
      some (root ++ [(key, .table .header (some span) entries)]) := by
  simp [Draft.close, splitKey, Descent.change, Entries.add, free]

/-- Pairs are added to the section at hand in their order. -/
theorem foldlM_pairs {pairs : List (String × Scalar)} {told : List Statement} (root : Entries)
    (current : Section) (tells : Tells (pairs.map fun (name, value) => .pair name value) told)
    (once : (current.entries.map (fun entry => entry.1.name) ++ pairs.map Prod.fst).Nodup) :
    ∃ span held, List.Forall₂ ShowsPair pairs held ∧
      told.foldlM Draft.next ⟨root, some current⟩ =
        some ⟨root, some ⟨current.name, current.shared, span, current.entries ++ held⟩⟩ := by
  induction pairs generalizing told current with
  | nil =>
    cases tells
    exact ⟨current.span, [], .nil, by simp⟩
  | cons pair pairs ih =>
    cases tells with
    | pair name value place span later =>
      have free : current.entries.find? pair.1 = none :=
        Entries.find?_eq_none_iff.mpr fun held =>
          List.disjoint_of_nodup_append once held List.mem_cons_self
      let entry : Key × Tree := (⟨pair.1, place⟩, .scalar span pair.2)
      obtain ⟨reach, step⟩ : ∃ reach, Draft.next ⟨root, some current⟩ (.assign [entry.1] entry.2) =
          some ⟨root, some ⟨current.name, current.shared, reach, current.entries ++ [entry]⟩⟩ := by
        simp only [Draft.next, assign_of_free entry.1 free]
        exact ⟨_, rfl⟩
      obtain ⟨span', held, shown, made⟩ :=
        ih ⟨current.name, current.shared, reach, current.entries ++ [entry]⟩ later
          (by simpa [entry] using once)
      refine ⟨span', entry :: held, .cons ⟨rfl, span, rfl⟩ shown, ?_⟩
      rw [List.foldlM_cons, step]
      simpa using made

/-- A section is complete when its lines have been read. -/
theorem foldlM_block {block : Block} {told : List Statement} {draft : Draft} {root : Entries}
    (tells : Tells block.lines told) (once : (block.pairs.map Prod.fst).Nodup)
    (closed : draft.close = some root)
    (free : block.title ∉ root.map fun entry => entry.1.name) :
    ∃ draft' entry, ShowsBlock block entry ∧ told.foldlM Draft.next draft = some draft' ∧
      draft'.close = some (root ++ [entry]) := by
  have absent := Entries.find?_eq_none_iff.mpr free
  cases tells with
  | title _ place span later =>
    have begun : draft.next (.header [⟨block.title, place⟩] span) =
        some ⟨root, some ⟨[⟨block.title, place⟩], false, span, []⟩⟩ := by
      simp [Draft.next, closed, takeUp_of_free ⟨block.title, place⟩ absent]
    obtain ⟨span', held, shown, made⟩ := foldlM_pairs root
      ⟨[⟨block.title, place⟩], false, span, []⟩ later (by simpa using once)
    refine ⟨_, (⟨block.title, place⟩, .table .header (some span') held),
      ⟨rfl, span', held, rfl, shown⟩, ?_, close_of_free _ absent span' held⟩
    rw [List.foldlM_cons, begun]
    exact made

theorem foldlM_blocks {blocks : List Block} {told : List Statement} {draft : Draft}
    {root : Entries} (tells : Tells (blocks.flatMap Block.lines) told)
    (proper : ∀ block ∈ blocks, block.Proper) (closed : draft.close = some root)
    (once : (root.map (fun entry => entry.1.name) ++ blocks.map Block.title).Nodup) :
    ∃ draft' shown, List.Forall₂ ShowsBlock blocks shown ∧
      told.foldlM Draft.next draft = some draft' ∧ draft'.close = some (root ++ shown) := by
  induction blocks generalizing told draft root with
  | nil =>
    cases tells
    exact ⟨draft, [], .nil, rfl, by simpa using closed⟩
  | cons block blocks ih =>
    obtain ⟨first, others⟩ := List.forall_mem_cons.mp proper
    rw [List.flatMap_cons] at tells
    obtain ⟨here, there, rfl, now, later⟩ := tells.split
    have free : block.title ∉ root.map fun entry => entry.1.name := fun held =>
      List.disjoint_of_nodup_append once held List.mem_cons_self
    obtain ⟨between, entry, shown, step, complete⟩ := foldlM_block now first.once closed free
    obtain ⟨draft', behind, all, made, complete'⟩ := ih later others complete
      (by simpa [shown.1] using once)
    refine ⟨draft', entry :: behind, .cons shown all, ?_, by simpa using complete'⟩
    rw [List.foldlM_append, step]
    exact made

/-! ## Documents -/

theorem Block.Proper.isBare {block : Block} (proper : block.Proper) :
    ∀ line ∈ block.lines, line.IsBare := by
  intro line member
  rcases List.mem_cons.mp member with rfl | member
  · exact proper.bare
  · obtain ⟨pair, held, rfl⟩ := List.mem_map.mp member
    exact proper.names pair held

/-- A document that is written section by section, with empty lines anywhere,
reads back as its sections. -/
theorem parse_of_blocks {lines : List Line} {blocks : List Block} {document : String}
    (written : document? lines = some document)
    (parts : lines.filter (· ≠ .blank) = blocks.flatMap Block.lines)
    (proper : ∀ block ∈ blocks, block.Proper) (once : (blocks.map Block.title).Nodup) :
    ∃ entries, parse document = some entries ∧ List.Forall₂ ShowsBlock blocks entries := by
  have bare : ∀ line ∈ lines, line.IsBare := by
    intro line member
    by_cases blank : line = .blank
    · subst blank
      trivial
    · have held : line ∈ lines.filter (· ≠ .blank) := by simp [member, blank]
      rw [parts] at held
      obtain ⟨block, among, held⟩ := List.mem_flatMap.mp held
      exact (proper block among).isBare line held
  obtain ⟨told, tells, reads⟩ := statements_of_document bare written
  have tells' := tells.unblank
  rw [parts] at tells'
  have empty : (⟨[], none⟩ : Draft).close = some [] := rfl
  obtain ⟨draft, shown, all, made, closed⟩ := foldlM_blocks tells' proper empty once
  refine ⟨shown, ?_, all⟩
  unfold parse
  rw [reads, Option.bind_eq_bind, Option.bind_some, made, Option.bind_eq_bind, Option.bind_some]
  exact closed

/-! ## Sections with empty lines between them -/

/-- The document of sections, with an empty line between two of them. -/
def ofBlocks? (blocks : List Block) : Option String :=
  document? ([Line.blank].intercalate (blocks.map Block.lines))

theorem Block.filter_lines (block : Block) : block.lines.filter (· ≠ .blank) = block.lines := by
  refine List.filter_eq_self.mpr fun line held => decide_eq_true ?_
  rintro rfl
  simp [lines] at held

theorem filter_intercalate_lines (blocks : List Block) :
    ([Line.blank].intercalate (blocks.map Block.lines)).filter (· ≠ .blank) =
      blocks.flatMap Block.lines := by
  induction blocks with
  | nil => rfl
  | cons block blocks ih =>
    cases blocks with
    | nil => simpa [List.intercalate] using block.filter_lines
    | cons next blocks =>
      rw [List.map_cons] at ih
      rw [List.map_cons, List.map_cons, List.intercalate_cons_cons, List.filter_append,
        List.filter_append, block.filter_lines, ih, List.filter_cons_of_neg (by simp),
        List.filter_nil, List.append_nil, List.flatMap_cons (x := block)]

/-- A document of sections can be written if all values in them can. -/
theorem isSome_ofBlocks?_iff (blocks : List Block) :
    (ofBlocks? blocks).isSome ↔
      ∀ block ∈ blocks, ∀ pair ∈ block.pairs, pair.2.written?.isSome := by
  rw [ofBlocks?, isSome_document?_iff]
  constructor
  · intro all block among pair held
    have line : Line.pair pair.1 pair.2 ∈ blocks.flatMap Block.lines :=
      List.mem_flatMap.mpr ⟨block, among, List.mem_cons_of_mem _ (List.mem_map_of_mem held)⟩
    rw [← filter_intercalate_lines] at line
    have written := all _ (List.mem_filter.mp line).1
    rwa [Line.written?, Option.isSome_map] at written
  · intro all line held
    by_cases blank : line = .blank
    · rw [blank]
      rfl
    · have inside : line ∈ blocks.flatMap Block.lines := by
        rw [← filter_intercalate_lines]
        exact List.mem_filter.mpr ⟨held, decide_eq_true blank⟩
      obtain ⟨block, among, inside⟩ := List.mem_flatMap.mp inside
      rcases List.mem_cons.mp inside with rfl | inside
      · rfl
      · obtain ⟨pair, member, rfl⟩ := List.mem_map.mp inside
        rw [Line.written?, Option.isSome_map]
        exact all block among pair member

end Resumption.Toml
