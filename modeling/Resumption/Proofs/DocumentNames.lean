import Mathlib.Data.List.Nodup
import Resumption.Toml.Document

/-! No table of a document names anything twice, however it is put together:
line by line, from headers and dotted keys in any order, or in braces. All ways
of adding to a table go through a change at the end of a chain of names, so one
lemma about these changes carries the invariant from a line to the document. -/
namespace Resumption.Toml

open Text

/-- No table of a value names anything twice. -/
inductive Tree.Distinct : Tree → Prop
  | scalar (span : Span) (value : Scalar) : Distinct (.scalar span value)
  | array (span : Span) {items : List Tree} (inside : ∀ item ∈ items, Distinct item) :
      Distinct (.array span items)
  | sections {items : List Tree} (inside : ∀ item ∈ items, Distinct item) :
      Distinct (.sections items)
  | table (kind : TableKind) (span : Option Span) {entries : Entries}
      (names : (entries.map fun entry => entry.1.name).Nodup)
      (inside : ∀ entry ∈ entries, Distinct entry.2) : Distinct (.table kind span entries)

/-- No name is given twice, nor in any table below. -/
structure Entries.Distinct (entries : Entries) : Prop where
  names : (entries.map fun entry => entry.1.name).Nodup
  inside : ∀ entry ∈ entries, entry.2.Distinct

theorem Tree.distinct_table_iff {kind : TableKind} {span : Option Span} {entries : Entries} :
    (table kind span entries).Distinct ↔ entries.Distinct :=
  ⟨fun | .table _ _ names inside => ⟨names, inside⟩, fun d => .table kind span d.names d.inside⟩

namespace Entries

variable {entries held : Entries} {key : Key} {name : String} {tree : Tree}

theorem exists_of_find? (found : entries.find? name = some tree) :
    ∃ key, (key, tree) ∈ entries ∧ key.name = name := by
  obtain ⟨⟨key, _⟩, first, rfl⟩ := Option.map_eq_some_iff.mp found
  exact ⟨key, List.mem_of_find?_eq_some first, by simpa using List.find?_some first⟩

theorem find?_eq_none_iff :
    entries.find? name = none ↔ name ∉ entries.map fun entry => entry.1.name := by
  simp [find?]

/-- Where names are distinct, every entry is found under its name. -/
theorem Distinct.find?_of_mem (distinct : entries.Distinct) (held : (key, tree) ∈ entries) :
    entries.find? key.name = some tree := by
  cases found : entries.find? key.name with
  | none => exact absurd (List.mem_map_of_mem held) (find?_eq_none_iff.mp found)
  | some other =>
    obtain ⟨key', member, same⟩ := exists_of_find? found
    have alike := List.inj_on_of_nodup_map distinct.names member held same
    rw [(Prod.mk.inj alike).2]

namespace Distinct

theorem nil : Distinct [] :=
  ⟨List.nodup_nil, fun _ found => absurd found List.not_mem_nil⟩

theorem found (distinct : entries.Distinct) (found : entries.find? name = some tree) :
    tree.Distinct := by
  obtain ⟨key, held, -⟩ := exists_of_find? found
  exact distinct.inside _ held

theorem concat (distinct : entries.Distinct) (free : entries.find? key.name = none)
    (inner : tree.Distinct) : Distinct (entries ++ [(key, tree)]) where
  names := by
    rw [List.map_append, List.map_singleton, ← List.concat_eq_append, List.nodup_concat]
    exact ⟨find?_eq_none_iff.mp free, distinct.names⟩
  inside := by
    intro entry held
    rcases List.mem_append.mp held with held | held
    · exact distinct.inside entry held
    · rw [List.mem_singleton.mp held]
      exact inner

theorem replace (distinct : entries.Distinct) (name : String) (inner : tree.Distinct) :
    (entries.replace name tree).Distinct where
  names := by
    have same : (entries.replace name tree).map (fun entry => entry.1.name) =
        entries.map fun entry => entry.1.name := by
      simp only [Entries.replace, List.map_map]
      refine List.map_congr_left fun entry _ => ?_
      simp only [Function.comp_apply]
      split <;> rfl
    rw [same]
    exact distinct.names
  inside := by
    intro entry held
    obtain ⟨before, member, rfl⟩ := List.mem_map.mp held
    split
    · exact inner
    · exact distinct.inside _ member

theorem erase (distinct : entries.Distinct) (name : String) : (entries.erase name).Distinct where
  names := distinct.names.sublist (List.filter_sublist.map _)
  inside _ held := distinct.inside _ (List.mem_filter.mp held).1

theorem add {entries' : Entries} (distinct : entries.Distinct) (inner : tree.Distinct)
    (added : entries.add key tree = some entries') : entries'.Distinct := by
  unfold Entries.add at added
  split at added
  · next free =>
    obtain rfl := Option.some.inj added
    exact distinct.concat free inner
  · cases added

end Distinct
end Entries

/-! ## Changes -/

/-- A change that names nothing twice where nothing was. -/
def Change.KeepsDistinct (change : Change) : Prop :=
  ∀ kind entries entries', entries.Distinct → change kind entries = some entries' →
    entries'.Distinct

theorem changeLast_distinct {change : Change} (keeps : change.KeepsDistinct)
    {items items' : List Tree} (distinct : ∀ item ∈ items, item.Distinct)
    (changed : changeLast change items = some items') : ∀ item ∈ items', item.Distinct := by
  induction items generalizing items' with
  | nil => cases changed
  | cons item items ih =>
    obtain ⟨first, others⟩ := List.forall_mem_cons.mp distinct
    unfold changeLast at changed
    split at changed
    · cases changed
    · next kind span entries same =>
      obtain ⟨rfl, rfl⟩ := List.cons.inj same
      obtain ⟨entries', made, rfl⟩ := Option.map_eq_some_iff.mp changed
      have inner := keeps _ _ _ (Tree.distinct_table_iff.mp first) made
      exact List.forall_mem_singleton.mpr (Tree.distinct_table_iff.mpr inner)
    · cases changed
    · next same =>
      obtain ⟨rfl, rfl⟩ := List.cons.inj same
      obtain ⟨items', made, rfl⟩ := Option.map_eq_some_iff.mp changed
      exact List.forall_mem_cons.mpr ⟨first, ih others made⟩

theorem Descent.change_keepsDistinct (way : Descent) (names : List Key) {change : Change}
    (keeps : change.KeepsDistinct) : Change.KeepsDistinct (way.change names change) := by
  induction names with
  | nil => exact keeps
  | cons key names ih =>
    intro kind entries entries' distinct changed
    unfold Descent.change at changed
    dsimp only at changed
    split at changed
    · next free =>
      obtain ⟨made, inner, rfl⟩ := Option.map_eq_some_iff.mp changed
      exact distinct.concat free (Tree.distinct_table_iff.mpr (ih _ _ _ .nil inner))
    · next kind span held found =>
      split at changed
      · obtain ⟨held', inner, rfl⟩ := Option.map_eq_some_iff.mp changed
        have whole := Tree.distinct_table_iff.mp (distinct.found found)
        exact distinct.replace _ (Tree.distinct_table_iff.mpr (ih _ _ _ whole inner))
      · cases changed
    · next items found =>
      obtain ⟨items', inner, rfl⟩ := Option.map_eq_some_iff.mp changed
      have .sections whole := distinct.found found
      exact distinct.replace _ (.sections (changeLast_distinct ih whole inner))
    · cases changed

theorem Entries.Distinct.assign {entries entries' : Entries} {key : List Key} {tree : Tree}
    (distinct : entries.Distinct) (inner : tree.Distinct)
    (assigned : entries.assign key tree = some entries') : entries'.Distinct := by
  obtain ⟨⟨names, last⟩, -, changed⟩ := Option.bind_eq_some_iff.mp assigned
  refine Descent.ofKey.change_keepsDistinct names ?_ _ _ _ distinct changed
  intro kind held held' whole added
  dsimp only at added
  split at added
  · cases added
  · exact whole.add inner added

theorem Entries.Distinct.assignInline {entries entries' : Entries} {key : List Key} {tree : Tree}
    (distinct : entries.Distinct) (inner : tree.Distinct)
    (assigned : entries.assignInline key tree = some entries') : entries'.Distinct := by
  obtain ⟨⟨names, last⟩, -, changed⟩ := Option.bind_eq_some_iff.mp assigned
  exact Descent.ofInlineKey.change_keepsDistinct names
    (fun _ _ _ whole added => whole.add inner added) _ _ _ distinct changed

/-! ## Readers -/

/-- A reader of values in which nothing is named twice. -/
def YieldsDistinct (read : Reader Tree) : Prop :=
  ∀ text tree rest, read text = some (tree, rest) → tree.Distinct

theorem readItems_distinct {item : Reader Tree} (yields : YieldsDistinct item) (fuel : Nat)
    {text rest : List Char} {items : List Tree}
    (read : readItems item fuel text = some (items, rest)) : ∀ item ∈ items, item.Distinct := by
  induction fuel generalizing text items with
  | zero => cases read
  | succ fuel ih =>
    simp only [readItems, Option.bind_eq_bind, Option.bind_eq_some_iff] at read
    obtain ⟨begun, -, read⟩ := read
    split at read
    · obtain ⟨rfl, -⟩ := Prod.mk.inj (Option.some.inj read)
      exact fun _ held => absurd held List.not_mem_nil
    · obtain ⟨⟨first, behind⟩, found, read⟩ := Option.bind_eq_some_iff.mp read
      obtain ⟨next, -, read⟩ := Option.bind_eq_some_iff.mp read
      have inner := yields _ _ _ found
      split at read
      · obtain ⟨rfl, -⟩ := Prod.mk.inj (Option.some.inj read)
        exact List.forall_mem_singleton.mpr inner
      · obtain ⟨⟨others, _⟩, more, read⟩ := Option.bind_eq_some_iff.mp read
        obtain ⟨rfl, rfl⟩ := Prod.mk.inj (Option.some.inj read)
        exact List.forall_mem_cons.mpr ⟨inner, ih more⟩
      · cases read

theorem readPair_distinct {value : Reader Tree} (yields : YieldsDistinct value)
    {text rest : List Char} {key : List Key} {tree : Tree}
    (read : readPair value text = some ((key, tree), rest)) : tree.Distinct := by
  simp only [readPair, Option.bind_eq_bind, Option.bind_eq_some_iff] at read
  obtain ⟨_, -, _, -, ⟨_, _⟩, found, same⟩ := read
  obtain ⟨pair, -⟩ := Prod.mk.inj (Option.some.inj same)
  rw [← (Prod.mk.inj pair).2]
  exact yields _ _ _ found

theorem readPairs_distinct {value : Reader Tree} (yields : YieldsDistinct value) (fuel : Nat)
    {entries entries' : Entries} {text rest : List Char} (distinct : entries.Distinct)
    (read : readPairs value fuel entries text = some (entries', rest)) : entries'.Distinct := by
  induction fuel generalizing entries text with
  | zero => cases read
  | succ fuel ih =>
    simp only [readPairs, Option.bind_eq_bind, Option.bind_eq_some_iff] at read
    obtain ⟨⟨⟨key, tree⟩, behind⟩, pair, added, assigned, read⟩ := read
    have more := distinct.assignInline (readPair_distinct yields pair) assigned
    split at read
    · obtain ⟨rfl, -⟩ := Prod.mk.inj (Option.some.inj read)
      exact more
    · exact ih more read
    · cases read

theorem readValue_yieldsDistinct (depth : Nat) : YieldsDistinct (readValue depth) := by
  induction depth with
  | zero =>
    intro text tree rest read
    unfold readValue at read
    split at read
    · cases read
    · split at read
      · cases read
      · obtain ⟨_, -, same⟩ := Option.bind_eq_some_iff.mp read
        obtain ⟨rfl, -⟩ := Prod.mk.inj (Option.some.inj same)
        exact .scalar _ _
  | succ depth ih =>
    intro text tree rest read
    unfold readValue at read
    split at read
    · obtain ⟨⟨items, _⟩, inside, same⟩ := Option.bind_eq_some_iff.mp read
      obtain ⟨rfl, -⟩ := Prod.mk.inj (Option.some.inj same)
      exact .array _ (readItems_distinct ih _ inside)
    · dsimp only at read
      split at read
      · obtain ⟨rfl, -⟩ := Prod.mk.inj (Option.some.inj read)
        exact Tree.distinct_table_iff.mpr .nil
      · obtain ⟨⟨entries, _⟩, inside, same⟩ := Option.bind_eq_some_iff.mp read
        obtain ⟨rfl, -⟩ := Prod.mk.inj (Option.some.inj same)
        exact Tree.distinct_table_iff.mpr (readPairs_distinct ih _ .nil inside)
    · obtain ⟨_, -, same⟩ := Option.bind_eq_some_iff.mp read
      obtain ⟨rfl, -⟩ := Prod.mk.inj (Option.some.inj same)
      exact .scalar _ _

/-! ## Documents -/

/-- Nothing is named twice in what a statement gives. -/
def Statement.Distinct : Statement → Prop
  | header _ _ | sharedHeader _ _ => True
  | assign _ value => value.Distinct

theorem readStatement_distinct {text rest : List Char} {statement : Statement}
    (read : readStatement text = some (statement, rest)) : statement.Distinct := by
  unfold readStatement at read
  split at read
  · unfold readHeader at read
    split at read
    · obtain ⟨_, -, read⟩ := Option.bind_eq_some_iff.mp read
      obtain ⟨_, -, same⟩ := Option.bind_eq_some_iff.mp read
      obtain ⟨rfl, -⟩ := Prod.mk.inj (Option.some.inj same)
      trivial
    · obtain ⟨_, -, read⟩ := Option.bind_eq_some_iff.mp read
      obtain ⟨_, -, same⟩ := Option.bind_eq_some_iff.mp read
      obtain ⟨rfl, -⟩ := Prod.mk.inj (Option.some.inj same)
      trivial
  · obtain ⟨⟨⟨key, value⟩, _⟩, pair, same⟩ := Option.map_eq_some_iff.mp read
    obtain ⟨rfl, -⟩ := Prod.mk.inj same
    exact readPair_distinct (readValue_yieldsDistinct _) pair

theorem readLines_distinct (fuel : Nat) {text : List Char} {told : List Statement}
    (read : readLines fuel text = some told) : ∀ statement ∈ told, statement.Distinct := by
  induction fuel generalizing text told with
  | zero => cases read
  | succ fuel ih =>
    unfold readLines at read
    split at read
    · obtain rfl := Option.some.inj read
      exact fun _ held => absurd held List.not_mem_nil
    · obtain ⟨_, -, read⟩ := Option.bind_eq_some_iff.mp read
      exact ih read
    · exact ih read
    · obtain ⟨_, -, read⟩ := Option.bind_eq_some_iff.mp read
      exact ih read
    · simp only [Option.bind_eq_bind, Option.bind_eq_some_iff] at read
      obtain ⟨⟨statement, _⟩, first, _, -, told, later, same⟩ := read
      obtain rfl := Option.some.inj same
      exact List.forall_mem_cons.mpr ⟨readStatement_distinct first, ih later⟩

namespace Draft

/-- Nothing is named twice, neither in the complete tables nor in the one at
hand. -/
structure Distinct (draft : Draft) : Prop where
  root : draft.root.Distinct
  current : ∀ current, draft.current = some current → current.entries.Distinct

theorem Distinct.close {draft : Draft} {entries : Entries} (distinct : draft.Distinct)
    (closed : draft.close = some entries) : entries.Distinct := by
  unfold Draft.close at closed
  split at closed
  · next current here =>
    obtain ⟨⟨names, last⟩, -, changed⟩ := Option.bind_eq_some_iff.mp closed
    have inner : (Tree.table .header (some current.span) current.entries).Distinct :=
      Tree.distinct_table_iff.mpr (distinct.current current here)
    refine Descent.ofHeader.change_keepsDistinct names ?_ _ _ _ distinct.root changed
    intro kind held held' whole added
    dsimp only at added
    split at added
    · split at added
      · next free =>
        obtain rfl := Option.some.inj added
        exact whole.concat free (.sections (List.forall_mem_singleton.mpr inner))
      · next items found =>
        obtain rfl := Option.some.inj added
        have .sections others := whole.found found
        refine whole.replace _ (.sections fun item member => ?_)
        rcases List.mem_append.mp member with member | member
        · exact others item member
        · rw [List.mem_singleton.mp member]
          exact inner
      · cases added
    · exact whole.add inner added
  · obtain rfl := Option.some.inj closed
    exact distinct.root

theorem entriesAt_distinct (names : List Key) {entries held : Entries}
    (distinct : entries.Distinct) (found : takeUp.entriesAt names entries = some held) :
    held.Distinct := by
  induction names generalizing entries with
  | nil =>
    obtain rfl := Option.some.inj found
    exact distinct
  | cons key names ih =>
    unfold takeUp.entriesAt at found
    split at found
    · obtain rfl := Option.some.inj found
      exact .nil
    · next kind span inside here =>
      split at found
      · exact ih (Tree.distinct_table_iff.mp (distinct.found here)) found
      · cases found
    · next items here =>
      have .sections whole := distinct.found here
      split at found
      · next last =>
        have inner := whole _ (List.mem_of_getLast? last)
        exact ih (Tree.distinct_table_iff.mp inner) found
      · cases found
    · cases found

theorem takeUp_distinct {root entries rest : Entries} {name : List Key} (distinct : root.Distinct)
    (taken : takeUp root name = some (entries, rest)) : entries.Distinct ∧ rest.Distinct := by
  unfold takeUp at taken
  obtain ⟨⟨names, last⟩, -, taken⟩ := Option.bind_eq_some_iff.mp taken
  obtain ⟨held, at', taken⟩ := Option.bind_eq_some_iff.mp taken
  split at taken
  · obtain ⟨rfl, rfl⟩ := Prod.mk.inj (Option.some.inj taken)
    exact ⟨.nil, distinct⟩
  · next span inside here =>
    obtain ⟨root', changed, same⟩ := Option.bind_eq_some_iff.mp taken
    obtain ⟨rfl, rfl⟩ := Prod.mk.inj (Option.some.inj same)
    refine ⟨Tree.distinct_table_iff.mp ((entriesAt_distinct names distinct at').found here), ?_⟩
    refine Descent.ofHeader.change_keepsDistinct names ?_ _ _ _ distinct changed
    intro kind held held' whole erased
    obtain rfl := Option.some.inj erased
    exact whole.erase _
  · cases taken

theorem Distinct.next {draft draft' : Draft} {statement : Statement} (distinct : draft.Distinct)
    (inner : statement.Distinct) (made : draft.next statement = some draft') :
    draft'.Distinct := by
  cases statement with
  | assign key value =>
    simp only [Draft.next] at made
    split at made
    · next first =>
      obtain ⟨root, assigned, same⟩ := Option.bind_eq_some_iff.mp made
      obtain rfl := Option.some.inj same
      exact ⟨distinct.root.assign inner assigned, distinct.current⟩
    · next current here =>
      obtain ⟨entries, assigned, same⟩ := Option.bind_eq_some_iff.mp made
      obtain rfl := Option.some.inj same
      refine ⟨distinct.root, fun _ new => ?_⟩
      obtain rfl := Option.some.inj new
      exact (distinct.current current here).assign inner assigned
  | header name span =>
    obtain ⟨closed, complete, made⟩ := Option.bind_eq_some_iff.mp made
    obtain ⟨⟨entries, root⟩, taken, same⟩ := Option.bind_eq_some_iff.mp made
    obtain rfl := Option.some.inj same
    obtain ⟨inside, around⟩ := takeUp_distinct (distinct.close complete) taken
    refine ⟨around, fun _ new => ?_⟩
    obtain rfl := Option.some.inj new
    exact inside
  | sharedHeader name span =>
    obtain ⟨root, complete, same⟩ := Option.bind_eq_some_iff.mp made
    obtain rfl := Option.some.inj same
    refine ⟨distinct.close complete, fun _ new => ?_⟩
    obtain rfl := Option.some.inj new
    exact .nil

theorem foldlM_distinct {told : List Statement} {draft draft' : Draft} (distinct : draft.Distinct)
    (inner : ∀ statement ∈ told, statement.Distinct)
    (made : told.foldlM Draft.next draft = some draft') : draft'.Distinct := by
  induction told generalizing draft with
  | nil =>
    obtain rfl := Option.some.inj made
    exact distinct
  | cons statement told ih =>
    obtain ⟨first, others⟩ := List.forall_mem_cons.mp inner
    rw [List.foldlM_cons] at made
    obtain ⟨between, step, made⟩ := Option.bind_eq_some_iff.mp made
    exact ih (distinct.next first step) others made

end Draft

/-- No table of a document names anything twice. -/
theorem distinct_of_parse {document : String} {entries : Entries}
    (parsed : parse document = some entries) : entries.Distinct := by
  obtain ⟨told, reads, parsed⟩ := Option.bind_eq_some_iff.mp parsed
  obtain ⟨draft, made, closed⟩ := Option.bind_eq_some_iff.mp parsed
  have empty : (⟨[], none⟩ : Draft).Distinct := ⟨.nil, fun _ new => by cases new⟩
  exact (Draft.foldlM_distinct empty (readLines_distinct _ reads) made).close closed

end Resumption.Toml
