import Mathlib.Data.Fintype.Defs
import Resumption.Proofs.DocumentNames
import Resumption.Proofs.IndexRange
import Resumption.Settings.Text

/-! What a document's tree makes of settings: those that it gives take their
values from it, and all others keep theirs. The office's settings are put
together from nothing wherever their section stands, so they keep what they were
only because nothing was set before. -/
namespace Resumption

open Toml (Scalar Tree Entries Key Span)

/-! ## Fields of records -/

namespace Toml

variable {σ : Type}

theorem decodeInteger_bind {low high n : Int} (bounds : low ≤ n ∧ n ≤ high) (expected : String)
    (span : Span) (record : Int → σ) :
    (do let n ← decodeInteger low high expected (.scalar span (.integer n)); return record n) =
      (.ok (record n) : Decoded σ) := by
  have decoded : decodeInteger low high expected (.scalar span (.integer n)) = .ok n :=
    if_pos bounds
  rw [decoded]
  rfl

variable {fields : List (Field σ)} {entry : Key × Tree}

theorem decodeEntries_cons {record record' : σ} (entries : Entries)
    (step : decodeEntries fields record [entry] = .ok record') :
    decodeEntries fields record (entry :: entries) = decodeEntries fields record' entries := by
  have apart : decodeEntries fields record ([entry] ++ entries) =
      decodeEntries fields record [entry] >>= (decodeEntries fields · entries) :=
    List.foldlM_append
  rw [← List.singleton_append, apart, step]
  rfl

theorem decodeEntries_known {record record' : σ} {field : Field σ}
    (found : fields.find? (fun field => field.name = entry.1.name) = some field)
    (set : field.set entry.2 record = .ok record') :
    decodeEntries fields record [entry] = .ok record' := by
  simp only [decodeEntries, List.foldlM_cons, List.foldlM_nil, found, set]
  rfl

theorem decodeEntries_unknown (record : σ)
    (missing : fields.find? (fun field => field.name = entry.1.name) = none) :
    decodeEntries fields record [entry] = .ok record := by
  simp only [decodeEntries, List.foldlM_cons, List.foldlM_nil, missing]
  rfl

end Toml

/-! ## Settings by their names -/

/-- The settings of a host, each by itself. -/
inductive Setting
  | dataDir
  | logLevel
  | first
  | capacity
  | header
  | reserveBlock
deriving DecidableEq, Repr

namespace Setting

/-- All settings, in the order in which documents give them. -/
def all : List Setting :=
  [dataDir, logLevel, first, capacity, header, reserveBlock]

/-- The section that documents give a setting under. -/
def title : Setting → String
  | dataDir | logLevel => "host"
  | first | capacity | header => "resume"
  | reserveBlock => "persistence"

/-- The name that documents give a setting by. -/
def name : Setting → String
  | dataDir => "data_dir"
  | logLevel => "log_level"
  | first => "first_ticket_index"
  | capacity => "capacity"
  | header => "ticket_header"
  | reserveBlock => "reserve_block"

/-- The value of a setting. -/
def value (settings : Settings) : Setting → Scalar
  | dataDir => .text settings.dataDir
  | logLevel => .text settings.logLevel
  | first => .integer settings.tickets.first.toInt
  | capacity => .integer settings.tickets.capacity.toNat
  | header => .integer settings.tickets.header.toNat
  | reserveBlock => .integer settings.reserveBlock.toNat

/-- Settings with one of them taken from others. -/
def copy (source target : Settings) : Setting → Settings
  | dataDir => { target with dataDir := source.dataDir }
  | logLevel => { target with logLevel := source.logLevel }
  | first => { target with tickets.first := source.tickets.first }
  | capacity => { target with tickets.capacity := source.tickets.capacity }
  | header => { target with tickets.header := source.tickets.header }
  | reserveBlock => { target with reserveBlock := source.reserveBlock }

/-- What the table of a section holds for a setting. -/
def within? (s : Setting) : Tree → Option Tree
  | .table _ _ held => Entries.find? held s.name
  | _ => none

/-- What a document's tree holds for a setting: what stands under its name in
the table of its section. -/
def find? (entries : Entries) (s : Setting) : Option Tree :=
  (entries.find? s.title).bind s.within?

theorem mem_all (s : Setting) : s ∈ all := by
  cases s <;> decide

theorem all_nodup : all.Nodup := by
  decide

instance : Fintype Setting where
  elems := ⟨all, all_nodup⟩
  complete := mem_all

theorem name_injective : Function.Injective name := by
  intro s s' same
  cases s <;> cases s' <;> first | rfl | exact absurd same (by decide)

theorem value_copy (source target : Settings) (s s' : Setting) :
    s'.value (s.copy source target) = if s' = s then s'.value source else s'.value target := by
  cases s <;> cases s' <;> rfl

theorem find?_cons (entry : Key × Tree) (entries : Entries) (s : Setting) :
    s.find? (entry :: entries) =
      if entry.1.name = s.title then s.within? entry.2 else s.find? entries := by
  unfold find? Entries.find?
  rw [List.find?_cons]
  by_cases same : entry.1.name = s.title <;> simp [same]

end Setting

namespace Settings

theorem tickets_eq_of_values {a b : Settings}
    (same : ∀ s : Setting, s.title = "resume" → s.value a = s.value b) :
    a.tickets = b.tickets := by
  have parts {t u : TicketSettings} (first : t.first = u.first) (capacity : t.capacity = u.capacity)
      (header : t.header = u.header) : t = u := by
    cases t
    cases u
    simp_all only
  have first := Scalar.integer.inj (same .first rfl)
  have capacity := Scalar.integer.inj (same .capacity rfl)
  have header := Scalar.integer.inj (same .header rfl)
  exact parts (Int64.toInt_inj.mp first) (UInt64.toNat_inj.mp (Int.ofNat.inj capacity))
    (UInt8.toNat_inj.mp (Int.ofNat.inj header))

/-- Settings are equal if each of them is. -/
theorem ext_value {a b : Settings} (same : ∀ s : Setting, s.value a = s.value b) : a = b := by
  have dataDir := Scalar.text.inj (same .dataDir)
  have logLevel := Scalar.text.inj (same .logLevel)
  have tickets := tickets_eq_of_values fun s _ => same s
  have reserveBlock :=
    UInt64.toNat_inj.mp (Int.ofNat.inj (Scalar.integer.inj (same .reserveBlock)))
  cases a
  cases b
  simp_all only

/-- The settings that are named have their values from others, and the rest are
as before. -/
structure Adopts (settings : Settings) (named : Setting → Prop) (before after : Settings) :
    Prop where
  adopted (s : Setting) (here : named s) : s.value after = s.value settings
  kept (s : Setting) (other : ¬named s) : s.value after = s.value before

namespace Adopts

variable {settings before between after : Settings} {named named' : Setting → Prop}

theorem nothing (unnamed : ∀ s, ¬named s) : settings.Adopts named before before where
  adopted s here := absurd here (unnamed s)
  kept _ _ := rfl

theorem copy (settings before : Settings) (s : Setting) :
    settings.Adopts (· = s) before (s.copy settings before) where
  adopted s' here := by rw [Setting.value_copy, if_pos here]
  kept s' other := by rw [Setting.value_copy, if_neg other]

theorem trans (first : settings.Adopts named before between)
    (second : settings.Adopts named' between after) :
    settings.Adopts (fun s => named s ∨ named' s) before after where
  adopted s here := by
    by_cases later : named' s
    · exact second.adopted s later
    · rw [second.kept s later, first.adopted s (here.resolve_right later)]
  kept s other := by
    rw [second.kept s fun later => other (.inr later), first.kept s fun now => other (.inl now)]

theorem congr (adopts : settings.Adopts named before after) (same : ∀ s, named s ↔ named' s) :
    settings.Adopts named' before after where
  adopted s here := adopts.adopted s ((same s).mpr here)
  kept s other := adopts.kept s (mt (same s).mp other)

end Adopts

/-! ## Sections -/

/-- Fields take the settings of one section from a document, into a record that
is a part of all settings. -/
structure Takes {σ : Type} (settings : Settings) (title : String) (fields : List (Toml.Field σ))
    (whole : σ → Settings) : Prop where
  known (s : Setting) (here : s.title = title) (span : Span) (record : σ) :
    ∃ field record', fields.find? (fun field => field.name = s.name) = some field ∧
      field.set (.scalar span (s.value settings)) record = .ok record' ∧
      whole record' = s.copy settings (whole record)
  unknown (name : String) (other : ∀ s : Setting, s.title = title → s.name ≠ name) :
    fields.find? (fun field => field.name = name) = none

private theorem word_bounds (word : UInt64) :
    (0 : Int) ≤ word.toNat ∧ (word.toNat : Int) ≤ maxWord := by
  have := word.toNat_lt
  unfold maxWord
  omega

theorem takes_host (settings : Settings) : settings.Takes "host" hostFields id where
  known s here span record := by
    cases s
    case dataDir | logLevel => exact ⟨_, _, rfl, rfl, rfl⟩
    all_goals exact absurd here (by decide)
  unknown name other := by
    have dataDir := other .dataDir rfl
    have logLevel := other .logLevel rfl
    simp_all [hostFields, Setting.name]

theorem takes_resume (settings others : Settings) :
    settings.Takes "resume" TicketSettings.fields fun tickets => { others with tickets } where
  known s here span record := by
    cases s
    case first =>
      have bounds := And.intro settings.tickets.first.minInteger_le
        settings.tickets.first.le_maxInteger
      refine ⟨_, _, rfl, Toml.decodeInteger_bind bounds .., ?_⟩
      simp [Setting.copy]
    case capacity =>
      refine ⟨_, _, rfl, Toml.decodeInteger_bind (word_bounds _) .., ?_⟩
      simp [Setting.copy]
    case header =>
      have bounds : (0 : Int) ≤ settings.tickets.header.toNat ∧
          (settings.tickets.header.toNat : Int) ≤ 255 := by
        have := settings.tickets.header.toNat_lt
        omega
      refine ⟨_, _, rfl, Toml.decodeInteger_bind bounds .., ?_⟩
      simp [Setting.copy]
    all_goals exact absurd here (by decide)
  unknown name other := by
    have first := other .first rfl
    have capacity := other .capacity rfl
    have header := other .header rfl
    simp_all [TicketSettings.fields, Setting.name]

theorem takes_persistence (settings : Settings) :
    settings.Takes "persistence" persistenceFields id where
  known s here span record := by
    cases s
    case reserveBlock =>
      refine ⟨_, _, rfl, Toml.decodeInteger_bind (word_bounds _) .., ?_⟩
      simp [Setting.copy]
    all_goals exact absurd here (by decide)
  unknown name other := by
    have reserveBlock := other .reserveBlock rfl
    simp_all [persistenceFields, Setting.name]

namespace Takes

variable {σ : Type} {settings : Settings} {title : String} {fields : List (Toml.Field σ)}
  {whole : σ → Settings}

/-- An entry of a section gives the setting that it names, if there is one. -/
theorem decode_entry (takes : settings.Takes title fields whole) (record : σ)
    {entry : Key × Tree}
    (gives : ∀ s : Setting, s.title = title → entry.1.name = s.name →
      ∃ span, entry.2 = .scalar span (s.value settings)) :
    ∃ record', Toml.decodeEntries fields record [entry] = .ok record' ∧
      settings.Adopts (fun s => s.title = title ∧ s.name = entry.1.name)
        (whole record) (whole record') := by
  by_cases known : ∃ s : Setting, s.title = title ∧ entry.1.name = s.name
  · obtain ⟨s, here, same⟩ := known
    obtain ⟨span, scalar⟩ := gives s here same
    obtain ⟨field, record', found, set, copied⟩ := takes.known s here span record
    rw [← same] at found
    rw [← scalar] at set
    refine ⟨record', Toml.decodeEntries_known found set, ?_⟩
    rw [copied]
    refine (Adopts.copy settings (whole record) s).congr fun s' => ?_
    rw [same, Setting.name_injective.eq_iff]
    exact ⟨fun alike => ⟨alike ▸ here, alike⟩, And.right⟩
  · have other (s : Setting) (here : s.title = title) : s.name ≠ entry.1.name :=
      fun same => known ⟨s, here, same.symm⟩
    exact ⟨record, Toml.decodeEntries_unknown record (takes.unknown _ other),
      .nothing fun s named => other s named.1 named.2⟩

/-- The entries of a section give the settings that they name. -/
theorem decode_entries (takes : settings.Takes title fields whole) (record : σ) {held : Entries}
    (gives : ∀ entry ∈ held, ∀ s : Setting, s.title = title → entry.1.name = s.name →
      ∃ span, entry.2 = .scalar span (s.value settings)) :
    ∃ record', Toml.decodeEntries fields record held = .ok record' ∧
      settings.Adopts (fun s => s.title = title ∧ s.name ∈ held.map fun entry => entry.1.name)
        (whole record) (whole record') := by
  induction held generalizing record with
  | nil => exact ⟨record, rfl, .nothing (by simp)⟩
  | cons entry held ih =>
    obtain ⟨now, later⟩ := List.forall_mem_cons.mp gives
    obtain ⟨between, step, first⟩ := takes.decode_entry record now
    obtain ⟨record', made, others⟩ := ih between later
    refine ⟨record', (Toml.decodeEntries_cons held step).trans made,
      (first.trans others).congr fun s => ?_⟩
    rw [List.map_cons, List.mem_cons, and_or_left]

end Takes

/-! ## Documents -/

/-- Where a section is decoded: into all settings, or into those of the office,
which begin with nothing. -/
theorem exists_section (settings record : Settings) (s : Setting)
    (fresh : s.title = "resume" → record.tickets = {}) :
    ∃ (field : Toml.Field Settings) (σ : Type) (fields : List (Toml.Field σ))
      (whole : σ → Settings) (start : σ),
      sections.find? (fun field => field.name = s.title) = some field ∧
        settings.Takes s.title fields whole ∧ whole start = record ∧
        ∀ kind span held, field.set (.table kind span held) record =
          (Toml.decodeEntries fields start held).map whole := by
  have same (decoded : Toml.Decoded Settings) : decoded = decoded.map id := by
    cases decoded <;> rfl
  cases s
  case dataDir | logLevel =>
    exact ⟨_, _, hostFields, id, record, rfl, settings.takes_host, rfl, fun _ _ _ => same _⟩
  case first | capacity | header =>
    refine ⟨_, _, TicketSettings.fields, _, {}, rfl, settings.takes_resume record, ?_, ?_⟩
    · rw [← fresh rfl]
    · intro kind span held
      dsimp only [Toml.decodeRecord]
      cases Toml.decodeEntries TicketSettings.fields {} held <;> rfl
  case reserveBlock =>
    exact ⟨_, _, persistenceFields, id, record, rfl, settings.takes_persistence, rfl,
      fun _ _ _ => same _⟩

theorem sections_find?_eq_none {name : String} (other : ∀ s : Setting, s.title ≠ name) :
    sections.find? (fun field => field.name = name) = none := by
  have host := other .dataDir
  have resume := other .first
  have persistence := other .reserveBlock
  simp_all [sections, Setting.title]

/-- An entry of a document is a table, if it is a section at all, and every
setting that it holds has its value. -/
structure Fits (settings : Settings) (entry : Key × Tree) : Prop where
  table (s : Setting) (here : entry.1.name = s.title) :
    ∃ kind span held, entry.2 = .table kind span held
  values (s : Setting) (here : entry.1.name = s.title) (tree : Tree)
    (found : s.within? entry.2 = some tree) : ∃ span, tree = .scalar span (s.value settings)

theorem Fits.decode_entry {settings : Settings} {entry : Key × Tree} (fits : settings.Fits entry)
    (distinct : entry.2.Distinct) (record : Settings)
    (fresh : entry.1.name = "resume" → record.tickets = {}) :
    ∃ record', Toml.decodeEntries sections record [entry] = .ok record' ∧
      settings.Adopts (fun s => entry.1.name = s.title ∧ (s.within? entry.2).isSome)
        record record' := by
  by_cases known : ∃ s : Setting, entry.1.name = s.title
  · obtain ⟨s, same⟩ := known
    obtain ⟨kind, span, held, table⟩ := fits.table s same
    rw [same] at fresh
    rw [table] at distinct
    have inner := Toml.Tree.distinct_table_iff.mp distinct
    have within (s' : Setting) : s'.within? entry.2 = Entries.find? held s'.name := by
      rw [table]
      rfl
    obtain ⟨field, σ, fields, whole, start, found, takes, begins, set⟩ :=
      exists_section settings record s fresh
    obtain ⟨read, made, adopts⟩ := takes.decode_entries start fun entry' among s' here named => by
      refine fits.values s' (same.trans here.symm) _ ?_
      rw [within, ← named]
      exact inner.find?_of_mem among
    refine ⟨whole read, Toml.decodeEntries_known (same ▸ found) ?_, ?_⟩
    · rw [table, set, made]
      rfl
    · rw [begins] at adopts
      refine adopts.congr fun s' => ?_
      rw [within, same, Option.isSome_iff_ne_none, ne_eq, Entries.find?_eq_none_iff, not_not,
        eq_comm]
  · have other (s : Setting) : s.title ≠ entry.1.name := fun same => known ⟨s, same.symm⟩
    exact ⟨record, Toml.decodeEntries_unknown record (sections_find?_eq_none other),
      .nothing fun s named => other s named.1.symm⟩

/-- The sections of a document give the settings that are found in them. -/
theorem decode_sections {settings : Settings} {entries : Entries} (distinct : entries.Distinct)
    (fits : ∀ entry ∈ entries, settings.Fits entry) (record : Settings)
    (fresh : "resume" ∈ entries.map (fun entry => entry.1.name) → record.tickets = {}) :
    ∃ record', Toml.decodeEntries sections record entries = .ok record' ∧
      settings.Adopts (fun s => (s.find? entries).isSome) record record' := by
  induction entries generalizing record with
  | nil => exact ⟨record, rfl, .nothing fun s found => by cases found⟩
  | cons entry entries ih =>
    obtain ⟨now, later⟩ := List.forall_mem_cons.mp fits
    obtain ⟨first, rest⟩ := List.forall_mem_cons.mp distinct.inside
    obtain ⟨alone, names⟩ := List.nodup_cons.mp distinct.names
    rw [List.map_cons, List.mem_cons] at fresh
    obtain ⟨between, step, adopts⟩ := now.decode_entry first record fun same =>
      fresh (.inl same.symm)
    -- The office's section comes once, so it is not behind itself.
    have untouched (behind : "resume" ∈ entries.map fun entry => entry.1.name) :
        between.tickets = {} := by
      rw [← fresh (.inr behind)]
      refine tickets_eq_of_values fun s here => adopts.kept s fun named => ?_
      have same : entry.1.name = "resume" := named.1.trans here
      rw [← same] at behind
      exact alone behind
    obtain ⟨record', made, adopts'⟩ := ih ⟨names, rest⟩ later between untouched
    refine ⟨record', (Toml.decodeEntries_cons entries step).trans made,
      (adopts.trans adopts').congr fun s => ?_⟩
    rw [Setting.find?_cons]
    split
    · next same =>
      have missing : s.find? entries = none := by
        rw [Setting.find?, Entries.find?_eq_none_iff.mpr (same ▸ alone)]
        rfl
      simp [same, missing]
    · next other => simp [other]

end Settings
end Resumption
