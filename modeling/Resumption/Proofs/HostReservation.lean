import Resumption.Host
import Resumption.Proofs.OfficeCalls
import Resumption.Proofs.WatermarkDurability

/-! What a host reserves before it issues. A host that is ready has the watermark
on disk that it remembers; starting, reserving and issuing keep it so through
every failure, and an index is only issued once the watermark on disk is above
it. Sums that stop at the last index do no harm, as that index is never issued. -/
namespace Resumption

namespace Host

open Watermark

variable {path : Path} {issued : List Index} {host : Host} {m : Machine}

theorem le_raise {i block : Index} (positive : 0 < block) : i ≤ raise i block := by
  have low := i.minInteger_le
  have high := i.le_maxInteger
  have reserves : 0 < block.toInt := Int64.lt_iff_toInt_lt.mp positive
  rw [Int64.le_iff_toInt_le, raise, Index.toInt_clamp]
  omega

/-- Every index but the last is raised above itself. -/
theorem lt_raise {i block : Index} (positive : 0 < block) (more : i ≠ Index.last) :
    i < raise i block := by
  have low := i.minInteger_le
  have below := Index.toInt_lt_of_ne_last more
  have reserves : 0 < block.toInt := Int64.lt_iff_toInt_lt.mp positive
  rw [Int64.lt_iff_toInt_lt, raise, Index.toInt_clamp]
  omega

/-- A reservation either finds that it reaches far enough, or it saves the next
block as the watermark. If it does not save less than the watermark on disk, the
watermark does not fall. -/
theorem reserve_ensures (apart : (temporary host.watermark).place ≠ host.watermark.place)
    (positive : 0 < host.reserveBlock)
    (bounded : host.reservedUntil ≤ host.office.window.next →
      Bounded host.watermark (raise host.office.window.next host.reserveBlock) m) :
    Work.Ensures (Rises host.watermark)
      (fun host' m' =>
        (host' = host ∧ m' = m ∨
          host.reservedUntil ≤ host.office.window.next ∧
            host' = { host with
              reservedUntil := raise host.office.window.next host.reserveBlock } ∧
            kept host.watermark m' =
              some (raise host.office.window.next host.reserveBlock)) ∧
          (host.office.window.next ≠ Index.last →
            host.office.window.next < host'.reservedUntil))
      (fun _ m' => Machine.Keeps host.watermark.place m m') host.reserve m := by
  unfold Host.reserve
  dsimp only
  by_cases short : host.reservedUntil ≤ host.office.window.next ∧ host.reservedUntil < Index.last
  · rw [if_pos short]
    refine (Work.ensures_within (save_ensures apart (bounded short.1))).bind fun _ m' kept => ?_
    exact ⟨.inr ⟨short.1, rfl, kept⟩, lt_raise positive⟩
  · -- The reservation reaches further, or it already reaches to the last index.
    rw [if_neg short]
    refine ⟨.inl ⟨rfl, rfl⟩, fun more => ?_⟩
    have below := Index.toInt_lt_of_ne_last more
    rw [Int64.le_iff_toInt_le, Int64.lt_iff_toInt_lt, Index.toInt_last] at short
    rw [Int64.lt_iff_toInt_lt]
    omega

/-- A host that can go on: its reservation is the watermark on disk, and it has
passed every index that was ever issued. -/
structure Ready (path : Path) (issued : List Index) (host : Host) (m : Machine) : Prop where
  watermark : host.watermark = path
  block : 0 < host.reserveBlock
  kept : kept path m = some host.reservedUntil
  passed : ∀ i ∈ issued, i < host.office.window.next

/-- A host in itself, whatever is on disk: it knows its watermark's path, its
reservation does not end below the next index, and its cipher is the service's own. -/
structure Provident (host : Host) (path : Path) : Prop where
  watermark : host.watermark = path
  block : 0 < host.reserveBlock
  reserved : host.office.window.next ≤ host.reservedUntil
  cipher : ∃ key, host.office.cipher = Cipher.chacha key

/-- A host that has answered a call for a ticket: it is ready, and the index of a
ticket that it gives is new and below the watermark on disk. -/
def Answered (path : Path) (issued : List Index) :
    Except HostError Envelope × Host → Machine → Prop
  | (.ok ticket, host), m => Ready path (issued ++ [ticket.index]) host m ∧
      ticket.index ∉ issued ∧ ticket.index < host.reservedUntil
  | (.error _, host), m => Ready path issued host m

/-- A check does not change which index comes next. -/
theorem next_check (host : Host) (ticket : Envelope) :
    (host.check ticket).2.office.window.next = host.office.window.next := by
  rcases host.office.check_cases ticket with same | ⟨session, -, -, -, same⟩ <;>
    simp [Host.check, same, Window.clear]

namespace Ready

/-- What a failed attempt leaves alone does not matter to the host. -/
theorem later {m' : Machine} (ready : Ready path issued host m)
    (keeps : Machine.Keeps path.place m m') : Ready path issued host m' :=
  { ready with kept := kept_of_keeps keeps ready.kept }

theorem check (ready : Ready path issued host m) (ticket : Envelope) :
    Ready path issued (host.check ticket).2 m :=
  ⟨ready.watermark, ready.block, ready.kept, by rw [next_check]; exact ready.passed⟩

/-- A reservation reaches above the next index, or there is no index left. A
reservation that fails leaves the host as ready as it was. -/
theorem reserve (ready : Ready path issued host m)
    (apart : (temporary path).place ≠ path.place) :
    Work.Ensures (Rises path)
      (fun host' m' => Ready path issued host' m' ∧ host'.office = host.office ∧
        (host.office.window.next ≠ Index.last → host.office.window.next < host'.reservedUntil))
      (fun _ m' => Ready path issued host m') host.reserve m := by
  obtain rfl := ready.watermark
  refine (reserve_ensures apart ready.block fun short => bounded_of_kept ready.kept
    (Int64.le_trans short (le_raise ready.block))).mono (fun _ _ => id) ?_
    fun _ _ keeps => ready.later keeps
  rintro host' m' ⟨⟨rfl, rfl⟩ | ⟨-, rfl, kept⟩, reserved⟩
  · exact ⟨ready, rfl, reserved⟩
  · exact ⟨⟨rfl, ready.block, kept, ready.passed⟩, rfl, reserved⟩

/-- Issuing a ticket takes the watermark up first where it has to. -/
theorem issue (ready : Ready path issued host m)
    (apart : (temporary path).place ≠ path.place) (session : Session) (hostData : HostData) :
    (host.issue session hostData).Ensures (Rises path) (Answered path issued) m := by
  unfold Host.issue
  refine Script.Ensures.bind (ready.reserve apart) fun answer m' holds => ?_
  cases answer with
  | error e => exact holds
  | ok host' =>
    obtain ⟨ready, office, reserved⟩ := holds
    rw [← office] at reserved
    rcases host'.office.issue_cases session hostData with
      ⟨e, same⟩ | ⟨ticket, more, wrapped, same⟩
    · simp only [same]
      exact ready
    · simp only [same]
      have index := ((Office.wrap_eq_ok_iff _).mp wrapped).2.1
      refine ⟨⟨ready.watermark, ready.block, ready.kept, ?_⟩, ?_, index ▸ reserved more⟩
      · have ahead := Index.lt_succ more
        intro i member
        rcases List.mem_append.mp member with member | member
        · exact Int64.lt_trans (ready.passed i member) ahead
        · rw [List.mem_singleton.mp member, index]
          exact ahead
      · intro member
        exact Int64.lt_irrefl (index ▸ ready.passed _ member)

end Ready

/-- Settings that are accepted reserve at least one index at a time. -/
theorem block_pos {settings : Settings} (valid : settings.validate = .ok ()) :
    0 < Index.clamp settings.reserveBlock.toNat := by
  have refused : settings.reserveBlock ≠ 0 := by
    intro zero
    unfold Settings.validate at valid
    split at valid
    · split at valid
      · cases valid
      · cases valid
    · cases valid
  have positive : settings.reserveBlock.toNat ≠ 0 :=
    fun zero => refused (UInt64.toNat_inj.mp zero)
  rw [Int64.lt_iff_toInt_lt, Index.toInt_clamp, Int64.toInt_zero]
  unfold minInteger maxInteger
  omega

theorem window_ofSettings {key : TicketKey} {settings : TicketSettings} {office : Office}
    (opened : Office.ofSettings key settings = .ok office) :
    Window.new settings.first settings.capacity.toNat = .ok office.window := by
  obtain ⟨-, -, opened⟩ := bind_eq_ok_iff.mp opened
  obtain ⟨started, opened', same⟩ := bind_eq_ok_iff.mp opened
  obtain ⟨window, made, rest⟩ := bind_eq_ok_iff.mp opened'
  cases same
  cases rest
  exact made

theorem next_ofSettings {key : TicketKey} {settings : TicketSettings} {office : Office}
    (opened : Office.ofSettings key settings = .ok office) :
    office.window.next = settings.first := by
  have rep := Window.Represents.of_new (window_ofSettings opened)
  exact Int64.toInt_inj.mp rep.next.symm

theorem cipher_ofSettings {key : TicketKey} {settings : TicketSettings} {office : Office}
    (opened : Office.ofSettings key settings = .ok office) :
    office.cipher = Cipher.chacha key := by
  obtain ⟨-, -, opened⟩ := bind_eq_ok_iff.mp opened
  obtain ⟨started, opened', same⟩ := bind_eq_ok_iff.mp opened
  obtain ⟨window, made, rest⟩ := bind_eq_ok_iff.mp opened'
  cases same
  cases rest
  rfl

/-- A host whose window is new has issued nothing. -/
def Fresh (host : Host) : Prop :=
  ∃ first capacity, Window.new first capacity = .ok host.office.window

/-- The end of starting: the reservation is saved, and an office opens at the
index it was made for. -/
private theorem open_ensures {block first : Index} (key : TicketKey) (tickets : TicketSettings)
    {before : Machine} (apart : (temporary path).place ≠ path.place) (positive : 0 < block)
    (bounded : Watermark.Bounded path (raise first block) m)
    (above : ∀ i, Watermark.kept path before = some i → i ≤ first) :
    Work.Ensures (Rises path)
      (fun host m' => Ready path [] host m' ∧ host.Provident path ∧ host.Fresh ∧
        ∀ i, Watermark.kept path before = some i → i ≤ host.office.window.next)
      (fun _ _ => True) (do
        Watermark.save path (raise first block)
        match Office.ofSettings key { tickets with first } with
        | .ok office =>
          return {
            office, watermark := path, reservedUntil := raise first block, reserveBlock := block
            keyFingerprint := key.fingerprint }
        | .error e => throw (.during .startOffice (.protocol e)) : Work Host) m := by
  refine ((save_ensures apart bounded).onSuccess fun _ _ => id).bind fun _ m' kept => ?_
  cases opened : Office.ofSettings key { tickets with first } with
  | error e => trivial
  | ok office =>
    have fresh : ∀ i ∈ ([] : List Index), i < office.window.next := nofun
    have next := next_ofSettings opened
    refine ⟨⟨rfl, positive, kept, fresh⟩, ⟨rfl, positive, ?_, key, cipher_ofSettings opened⟩,
      ⟨_, _, window_ofSettings opened⟩, ?_⟩
    · exact next ▸ le_raise positive
    · exact next ▸ above

/-- A host that starts is ready, has issued nothing, and begins at or above the
watermark that was on disk before. -/
theorem start_ensures {settings : Settings} {directory : Path}
    (named : Path.ofText settings.dataDir = directory) (m : Machine) :
    Work.Ensures (Rises (directory.child Watermark.name))
      (fun host m' => Ready (directory.child Watermark.name) [] host m' ∧
        host.Provident (directory.child Watermark.name) ∧ host.Fresh ∧
        ∀ i, Watermark.kept (directory.child Watermark.name) m = some i →
          i ≤ host.office.window.next)
      (fun _ _ => True) (start settings) m := by
  have making := (Work.makeDirectories_ensures (directory.child Watermark.name).place
    (.makeDataDirectory directory) directory m).onSuccess fun _ _ => rises_of_keeps
  have spared : Work.Spares (directory.child Watermark.name).place
      (KeyFile.load (directory.child KeyFile.name)) := by
    apply KeyFile.load_spares
    · exact Path.place_child_ne directory (by decide) (by decide) (by decide)
    · rw [KeyFile.temporary_child]
      exact Path.place_child_ne directory (by decide) (by decide) (by decide)
  unfold start
  apply Work.Ensures.bind
  case first =>
    show Work.Ensures _ (fun _ m' => m' = m ∧ settings.validate = .ok ()) _ _ m
    refine Work.ensures_within ?_
    cases settings.validate with
    | error e => trivial
    | ok u => exact ⟨rfl, rfl⟩
  rintro - m' ⟨rfl, valid⟩
  dsimp only
  rw [named]
  refine making.bind ?_
  rintro - m₁ ⟨keeps₁, opens₁⟩
  have looking := (spared.ensures m₁).onSuccess fun _ _ => rises_of_keeps
  refine looking.bind fun key m₂ keeps₂ => ?_
  have loading := (load_ensures (directory.child Watermark.name).place
    (directory.child Watermark.name) m₂).onSuccess fun _ _ => rises_of_keeps
  refine loading.bind ?_
  rintro found m₃ ⟨rfl, loaded⟩
  have positive := block_pos valid
  have opening := fun first (above : ∀ i, found = some i → i ≤ first) =>
    open_ensures key settings.tickets (temporary_apart directory) positive
      (loaded.bounded (keeps₂.opens opens₁) fun i same =>
        Int64.le_trans (above i same) (le_raise positive))
      fun i held => above i (loaded.found_of_kept (kept_of_keeps (keeps₁.trans keeps₂) held))
  -- A host that finds no watermark begins where it is told to.
  cases found with
  | none => exact opening settings.tickets.first nofun
  | some i =>
    refine opening (if settings.tickets.first < i then i else settings.tickets.first) ?_
    rintro j ⟨⟩
    split
    · exact Int64.le_refl i
    · next above => exact Int64.not_lt.mp above

end Host
end Resumption
