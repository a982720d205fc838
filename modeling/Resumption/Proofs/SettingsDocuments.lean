import Mathlib.Data.Finset.Insert
import Mathlib.Data.List.Dedup
import Resumption.Proofs.DocumentSections
import Resumption.Proofs.SettingsDecoding

/-! Documents that give some of the settings, and what is read from them: the
settings that a document gives have its values, and all others those that hold
when nothing is set. The document of all settings is one of these. -/
namespace Resumption

open Toml (Block Entries Key Line Scalar Tree)

theorem Setting.isBareName_title (s : Setting) : Toml.IsBareName s.title := by
  cases s <;> simp [Toml.IsBareName, Toml.isBare, Setting.title]

theorem Setting.isBareName_name (s : Setting) : Toml.IsBareName s.name := by
  cases s <;> simp [Toml.IsBareName, Toml.isBare, Setting.name]

namespace Settings

/-- A tree gives some of the settings the values that they have in `settings`,
and it does not name the others. Sections are tables, however they are written,
or they are missing. -/
structure GivenBy (settings : Settings) (given : Finset Setting) (entries : Entries) :
    Prop where
  tables (s : Setting) (tree : Tree) (found : entries.find? s.title = some tree) :
    ∃ kind span held, tree = .table kind span held
  values (s : Setting) (among : s ∈ given) :
    ∃ span, s.find? entries = some (.scalar span (s.value settings))
  others (s : Setting) (missing : s ∉ given) : s.find? entries = none

/-- A document gives some of the settings the values that they have in `settings`,
and it does not name the others. -/
def Gives (settings : Settings) (given : Finset Setting) (document : String) : Prop :=
  ∃ entries, Toml.parse document = some entries ∧ settings.GivenBy given entries

instance (tree : Tree) : Decidable (∃ kind span held, tree = .table kind span held) :=
  match tree with
  | .table kind span held => isTrue ⟨kind, span, held, rfl⟩
  | .scalar .. | .array .. | .sections .. => isFalse nofun

instance (found : Option Tree) (value : Scalar) :
    Decidable (∃ span, found = some (.scalar span value)) :=
  match found with
  | some (.scalar span held) =>
    decidable_of_iff (held = value) (by simp)
  | some (.table ..) | some (.array ..) | some (.sections ..) | none => isFalse nofun

/-- What a tree gives is checked setting by setting. -/
instance (settings : Settings) (given : Finset Setting) (entries : Entries) :
    Decidable (settings.GivenBy given entries) :=
  decidable_of_iff
    (∀ s : Setting,
      (∀ tree ∈ entries.find? s.title, ∃ kind span held, tree = .table kind span held) ∧
      (s ∈ given → ∃ span, s.find? entries = some (.scalar span (s.value settings))) ∧
      (s ∉ given → s.find? entries = none))
    ⟨fun each => ⟨fun s => (each s).1, fun s => (each s).2.1, fun s => (each s).2.2⟩,
      fun gives s => ⟨gives.tables s, gives.values s, gives.others s⟩⟩

instance (settings : Settings) (given : Finset Setting) (document : String) :
    Decidable (settings.Gives given document) :=
  decidable_of_iff (∃ entries ∈ Toml.parse document, settings.GivenBy given entries) Iff.rfl

/-- The pairs of a section for those of its settings that are given. -/
def pairs (settings : Settings) (given : Finset Setting) (title : String) :
    List (String × Scalar) :=
  (Setting.all.filter fun s => s.title = title ∧ s ∈ given).map fun s =>
    (s.name, s.value settings)

/-- The sections of a document that gives some of the settings. A section
without any of them is left out. -/
def blocks (settings : Settings) (given : Finset Setting) : List Block :=
  ((Setting.all.map Setting.title).dedup.map fun title =>
    ⟨title, settings.pairs given title⟩).filter (·.pairs ≠ [])

/-- A document that gives some of the settings, if their numbers can be
written. -/
def partialText? (settings : Settings) (given : Finset Setting) : Option String :=
  Toml.ofBlocks? (settings.blocks given)

variable {settings : Settings} {given : Finset Setting}

/-! ## Reading -/

theorem GivenBy.fits {entries : Entries} (gives : settings.GivenBy given entries)
    (distinct : entries.Distinct) {entry : Key × Tree} (held : entry ∈ entries) :
    settings.Fits entry := by
  have found := distinct.find?_of_mem held
  refine ⟨fun s here => gives.tables s entry.2 (here ▸ found), fun s here tree inside => ?_⟩
  have whole : s.find? entries = some tree := by
    rw [Setting.find?, ← here, found]
    exact inside
  by_cases among : s ∈ given
  · obtain ⟨span, scalar⟩ := gives.values s among
    exact ⟨span, Option.some.inj (whole.symm.trans scalar)⟩
  · rw [gives.others s among] at whole
    cases whole

theorem GivenBy.isSome_iff {entries : Entries} (gives : settings.GivenBy given entries)
    (s : Setting) : (s.find? entries).isSome ↔ s ∈ given := by
  by_cases among : s ∈ given
  · obtain ⟨span, found⟩ := gives.values s among
    simp [among, found]
  · simp [among, gives.others s among]

/-- What a document does not give is as if nothing was set. -/
theorem Gives.adopts (e : Environment) {document : String} (gives : settings.Gives given document) :
    ∃ read, ofText (default e) document = .ok read ∧
      settings.Adopts (· ∈ given) (default e) read := by
  obtain ⟨entries, parsed, gives⟩ := gives
  have distinct := Toml.distinct_of_parse parsed
  obtain ⟨read, made, adopts⟩ := decode_sections distinct
    (fun _ held => gives.fits distinct held) (default e) fun _ => rfl
  refine ⟨read, ?_, adopts.congr gives.isSome_iff⟩
  unfold ofText
  rw [parsed]
  dsimp only
  rw [made]
  rfl

/-! ## Writing -/

theorem mem_pairs_iff {title : String} {pair : String × Scalar} :
    pair ∈ settings.pairs given title ↔
      ∃ s ∈ given, s.title = title ∧ (s.name, s.value settings) = pair := by
  simp only [pairs, List.mem_map, List.mem_filter, Setting.mem_all, true_and, decide_eq_true_eq]
  exact exists_congr fun s => by rw [and_assoc, and_left_comm]

theorem mem_blocks_iff {block : Block} :
    block ∈ settings.blocks given ↔
      block.pairs = settings.pairs given block.title ∧ block.pairs ≠ [] := by
  obtain ⟨title, pairs⟩ := block
  simp only [blocks, List.mem_filter, List.mem_map, List.mem_dedup, Block.mk.injEq,
    decide_eq_true_eq]
  constructor
  · rintro ⟨⟨_, -, rfl, rfl⟩, filled⟩
    exact ⟨rfl, filled⟩
  · rintro ⟨rfl, filled⟩
    obtain ⟨pair, held⟩ := List.exists_mem_of_ne_nil _ filled
    obtain ⟨s, -, here, -⟩ := mem_pairs_iff.mp held
    exact ⟨⟨title, ⟨s, s.mem_all, here⟩, rfl, rfl⟩, filled⟩

/-- What is given stands in the section of its title. -/
theorem exists_block {s : Setting} (among : s ∈ given) :
    ∃ block ∈ settings.blocks given, block.title = s.title ∧
      (s.name, s.value settings) ∈ block.pairs := by
  have held : (s.name, s.value settings) ∈ settings.pairs given s.title :=
    mem_pairs_iff.mpr ⟨s, among, rfl, rfl⟩
  exact ⟨⟨s.title, settings.pairs given s.title⟩,
    mem_blocks_iff.mpr ⟨rfl, List.ne_nil_of_mem held⟩, rfl, held⟩

theorem blocks_proper (settings : Settings) (given : Finset Setting) :
    ∀ block ∈ settings.blocks given, block.Proper := by
  intro block among
  obtain ⟨same, filled⟩ := mem_blocks_iff.mp among
  refine ⟨?_, fun pair held => ?_, ?_⟩
  · obtain ⟨pair, held⟩ := List.exists_mem_of_ne_nil _ filled
    rw [same] at held
    obtain ⟨s, -, here, -⟩ := mem_pairs_iff.mp held
    exact here ▸ s.isBareName_title
  · rw [same] at held
    obtain ⟨s, -, -, rfl⟩ := mem_pairs_iff.mp held
    exact s.isBareName_name
  · rw [same, pairs, List.map_map]
    exact (Setting.all_nodup.filter _).map Setting.name_injective

theorem blocks_nodup (settings : Settings) (given : Finset Setting) :
    ((settings.blocks given).map Block.title).Nodup := by
  have titles : ((Setting.all.map Setting.title).dedup.map fun title =>
      (⟨title, settings.pairs given title⟩ : Block)).map Block.title =
        (Setting.all.map Setting.title).dedup := by
    rw [List.map_map]
    exact List.map_id _
  refine List.Nodup.sublist (List.filter_sublist.map _) ?_
  rw [titles]
  exact List.nodup_dedup _

/-- What is read from the sections of given settings gives these settings. -/
theorem givenBy_of_shown {entries : Entries} (distinct : entries.Distinct)
    (shown : List.Forall₂ Toml.ShowsBlock (settings.blocks given) entries) :
    settings.GivenBy given entries := by
  refine ⟨fun s tree found => ?_, fun s among => ?_, fun s missing => ?_⟩
  · obtain ⟨key, held, -⟩ := Entries.exists_of_find? found
    obtain ⟨block, -, -, span, inside, rfl, -⟩ := Toml.exists_written_of_shown shown held
    exact ⟨_, _, inside, rfl⟩
  · obtain ⟨block, member, title, pair⟩ := exists_block among
    obtain ⟨⟨key, tree⟩, held, named, span, inside, rfl, all⟩ := Toml.exists_shown shown member
    obtain ⟨⟨key', tree'⟩, held', named', place, rfl⟩ := Toml.exists_shown all pair
    have inner := Tree.distinct_table_iff.mp (distinct.inside _ held)
    have found := distinct.find?_of_mem held
    have found' := inner.find?_of_mem held'
    rw [named, title] at found
    rw [named'] at found'
    refine ⟨place, ?_⟩
    rw [Setting.find?, found]
    exact found'
  · by_contra some
    obtain ⟨tree, found⟩ := Option.ne_none_iff_exists'.mp some
    obtain ⟨table, outer, within⟩ := Option.bind_eq_some_iff.mp found
    obtain ⟨key, held, titled⟩ := Entries.exists_of_find? outer
    obtain ⟨block, member, named, span, inside, rfl, all⟩ :=
      Toml.exists_written_of_shown shown held
    obtain ⟨key', held', named'⟩ := Entries.exists_of_find? within
    obtain ⟨pair, written, same, -⟩ := Toml.exists_written_of_shown all held'
    rw [(mem_blocks_iff.mp member).1] at written
    obtain ⟨s', among, -, rfl⟩ := mem_pairs_iff.mp written
    have alike : s' = s := Setting.name_injective (same.symm.trans named')
    exact missing (alike ▸ among)

/-- A document of given settings gives them. -/
theorem gives_of_partialText? {document : String}
    (written : settings.partialText? given = some document) : settings.Gives given document := by
  obtain ⟨entries, parsed, shown⟩ := Toml.parse_of_blocks written
    (Toml.filter_intercalate_lines _) (settings.blocks_proper given) (settings.blocks_nodup given)
  exact ⟨entries, parsed, givenBy_of_shown (Toml.distinct_of_parse parsed) shown⟩

theorem written?_natural (n : Nat) :
    (Scalar.integer n).written? = if n ≤ maxInteger then some (toString n) else none := by
  have low : minInteger ≤ n := by unfold minInteger; omega
  have digits : toString (n : Int) = toString n := rfl
  simp only [Scalar.written?, low, true_and, digits]

theorem written?_first (settings : Settings) :
    (Scalar.integer settings.tickets.first.toInt).written? =
      some settings.tickets.first.text :=
  if_pos ⟨settings.tickets.first.minInteger_le, settings.tickets.first.le_maxInteger⟩

theorem header_le_maxInteger (settings : Settings) :
    (settings.tickets.header.toNat : Int) ≤ maxInteger := by
  have := settings.tickets.header.toNat_lt
  unfold maxInteger
  omega

/-- Only the two counts can be too large to be written. -/
theorem isSome_written?_iff (settings : Settings) (s : Setting) :
    (s.value settings).written?.isSome ↔
      (s = .capacity → settings.tickets.capacity.toNat ≤ maxInteger) ∧
        (s = .reserveBlock → settings.reserveBlock.toNat ≤ maxInteger) := by
  cases s with
  | dataDir | logLevel => simp [Setting.value, Scalar.written?]
  | first => simp [Setting.value, written?_first]
  | header => simp [Setting.value, written?_natural, settings.header_le_maxInteger]
  | capacity | reserveBlock => simp [Setting.value, written?_natural]

theorem isSome_partialText?_iff (settings : Settings) (given : Finset Setting) :
    (settings.partialText? given).isSome ↔
      (.capacity ∈ given → settings.tickets.capacity.toNat ≤ maxInteger) ∧
        (.reserveBlock ∈ given → settings.reserveBlock.toNat ≤ maxInteger) := by
  rw [partialText?, Toml.isSome_ofBlocks?_iff]
  constructor
  · intro all
    have each (s : Setting) (among : s ∈ given) : (s.value settings).written?.isSome := by
      obtain ⟨block, member, -, pair⟩ := exists_block among
      exact all block member _ pair
    exact ⟨fun among => ((settings.isSome_written?_iff _).mp (each _ among)).1 rfl,
      fun among => ((settings.isSome_written?_iff _).mp (each _ among)).2 rfl⟩
  · rintro ⟨capacity, reserveBlock⟩ block member pair held
    rw [(mem_blocks_iff.mp member).1] at held
    obtain ⟨s, among, -, rfl⟩ := mem_pairs_iff.mp held
    refine (settings.isSome_written?_iff s).mpr ⟨?_, ?_⟩
    · rintro rfl
      exact capacity among
    · rintro rfl
      exact reserveBlock among

theorem blocks_univ (settings : Settings) :
    settings.blocks Finset.univ =
      [⟨"host", [("data_dir", .text settings.dataDir), ("log_level", .text settings.logLevel)]⟩,
        ⟨"resume", [("first_ticket_index", .integer settings.tickets.first.toInt),
          ("capacity", .integer settings.tickets.capacity.toNat),
          ("ticket_header", .integer settings.tickets.header.toNat)]⟩,
        ⟨"persistence", [("reserve_block", .integer settings.reserveBlock.toNat)]⟩] := by
  have titles : (Setting.all.map Setting.title).dedup = ["host", "resume", "persistence"] := by
    decide
  rw [blocks, titles]
  simp [pairs, Setting.all, Setting.title, Setting.name, Setting.value]

theorem text?_of_fits (capacity : settings.tickets.capacity.toNat ≤ maxInteger)
    (reserveBlock : settings.reserveBlock.toNat ≤ maxInteger) :
    settings.text? = settings.partialText? Finset.univ := by
  have texts (content : String) :
      (Scalar.text content).written? = some (Toml.quote content) := rfl
  have header := settings.header_le_maxInteger
  have first := settings.written?_first
  have characters : settings.text?.map String.toList =
      (settings.partialText? Finset.univ).map String.toList := by
    simp [text?, TicketSettings.lines?, partialText?, Toml.ofBlocks?, Toml.document?, blocks_univ,
      Block.lines, Line.written?, texts, written?_natural, first, header, capacity, reserveBlock,
      List.intercalate, String.join, toString]
  exact Option.map_injective (fun _ _ => String.toList_injective) characters

/-- The document of the settings is the one that gives all of them. -/
theorem text?_eq_partialText? (settings : Settings) :
    settings.text? = settings.partialText? Finset.univ := by
  by_cases fits : settings.tickets.capacity.toNat ≤ maxInteger ∧
      settings.reserveBlock.toNat ≤ maxInteger
  · exact text?_of_fits fits.1 fits.2
  · have partly : settings.partialText? Finset.univ = none := by
      rw [← Option.not_isSome_iff_eq_none, isSome_partialText?_iff]
      simpa using fits
    rw [partly, text?, TicketSettings.lines?]
    split
    · next capacity =>
      exact if_neg fun reserveBlock => fits ⟨capacity, reserveBlock⟩
    · rfl

/-! ## Round trips -/

/-- All settings of which no number is too large can be written, and what is
written reads back, whatever characters their texts have. A document that gives
only some of the settings reads as these settings, with those that hold when
nothing is set for the rest, and there is such a document for any of them. -/
theorem documents_round_trip (e : Environment) (settings : Settings) :
    (settings.text?.isSome ↔ settings.tickets.capacity.toNat ≤ maxInteger ∧
      settings.reserveBlock.toNat ≤ maxInteger) ∧
    (∀ document, settings.text? = some document → ofText (default e) document = .ok settings) ∧
    ∀ given : Finset Setting,
      ((settings.partialText? given).isSome ↔
        (.capacity ∈ given → settings.tickets.capacity.toNat ≤ maxInteger) ∧
          (.reserveBlock ∈ given → settings.reserveBlock.toNat ≤ maxInteger)) ∧
      (∀ document, settings.partialText? given = some document →
        settings.Gives given document) ∧
      ∀ document, settings.Gives given document → ∃ read,
        ofText (default e) document = .ok read ∧ ∀ s : Setting,
          s.value read = if s ∈ given then s.value settings else s.value (default e) := by
  refine ⟨?_, fun document written => ?_, fun given => ⟨settings.isSome_partialText?_iff given,
    fun document => gives_of_partialText?, fun document gives => ?_⟩⟩
  · rw [text?_eq_partialText?, isSome_partialText?_iff]
    simp only [Finset.mem_univ, true_imp_iff]
  · rw [text?_eq_partialText?] at written
    obtain ⟨read, made, adopts⟩ := (gives_of_partialText? written).adopts e
    rw [made, ext_value fun s => adopts.adopted s (Finset.mem_univ s)]
  · obtain ⟨read, made, adopts⟩ := gives.adopts e
    refine ⟨read, made, fun s => ?_⟩
    split
    · next among => exact adopts.adopted s among
    · next missing => exact adopts.kept s missing

/-- Quotes, a line break, a control character and a backslash survive, and so
does a capacity that is the only thing a document gives, by a dotted name. -/
theorem quoted_document_round_trip :
    let settings : Settings :=
      { dataDir := "/srv/\"a\"\n\x01\\", tickets := { capacity := 7 } }
    (∃ document, settings.text? = some document ∧ ofText (default {}) document = .ok settings) ∧
    settings.Gives {.dataDir}
      "[host]\ndata_dir = \"\"\"\n/srv/\"a\"\n\\u0001\\\\\"\"\"\n" ∧
    ∃ read, ofText (default {}) "resume.capacity = 7\n[host]\n" = .ok read ∧ ∀ s : Setting,
      s.value read = if s ∈ ({.capacity} : Finset Setting) then s.value settings
        else s.value (default {}) := by
  intro settings
  obtain ⟨fits, whole, partly⟩ := documents_round_trip {} settings
  obtain ⟨document, written⟩ := Option.isSome_iff_exists.mp (fits.mpr (by decide))
  exact ⟨⟨document, written, whole document written⟩, (partly _).2.1 _ (by decide +kernel),
    (partly _).2.2 _ (by decide +kernel)⟩

end Settings
end Resumption
