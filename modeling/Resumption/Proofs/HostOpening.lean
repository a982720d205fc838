import Resumption.Proofs.HostReservation
import Resumption.Proofs.StateFiles

/-! The work of a host that starts, on a machine that serves every request: its
directory is made, the key is loaded or kept, and the first block is reserved. Each of
these leaves the files of the others as they are. -/
namespace Resumption

namespace Host

variable {settings : Settings} {m m' : Machine} {directory : Path}

/-- Where a host begins: at a watermark that was found, if that is higher than the first
index of its settings. -/
def begins (first : Index) : Option Index → Index
  | some kept => if first < kept then kept else first
  | none => first

/-- The beginning of starting: the settings are checked. -/
def examine (settings : Settings) : Work Unit :=
  Work.within .checkSettings do
    if let .error e := settings.validate then throw (.settings e)

/-- The end of starting: the first block is reserved, and the office opens. -/
def finish (settings : Settings) (watermark : Path) (key : TicketKey) (found : Option Index) :
    Work Host := do
  let first := begins settings.tickets.first found
  let reserveBlock := Index.clamp settings.reserveBlock.toNat
  let reservedUntil := raise first reserveBlock
  Watermark.save watermark reservedUntil
  match Office.ofSettings key { settings.tickets with first } with
  | .ok office =>
    return { office, watermark, reservedUntil, reserveBlock, keyFingerprint := key.fingerprint }
  | .error e => throw (.during .startOffice (.protocol e))

theorem start_eq (settings : Settings) : start settings = (do
    examine settings
    let directory := Path.ofText settings.dataDir
    Work.step (.makeDataDirectory directory) (Script.makeDirectories directory)
    let key ← KeyFile.load (directory.child KeyFile.name)
    let found ← Watermark.load (directory.child Watermark.name)
    finish settings (directory.child Watermark.name) key found) := by
  rfl

theorem run_examine_ok (valid : settings.validate = .ok ()) (m : Machine) :
    (examine settings).run.run m = (.ok (), m) := by
  rw [examine, valid]
  rfl

theorem run_examine_error {e : SettingsError} (invalid : settings.validate = .error e)
    (m : Machine) :
    (examine settings).run.run m = (.error (.during .checkSettings (.settings e)), m) := by
  rw [examine, invalid]
  rfl

/-- The names of the files that a host keeps in its directory, and of those beside them. -/
def fileNames : List String :=
  [KeyFile.name, KeyFile.temporaryName, Watermark.name, Watermark.temporaryName]

@[simp] theorem key_mem : KeyFile.name ∈ fileNames := by simp [fileNames]

@[simp] theorem temporaryKey_mem : KeyFile.temporaryName ∈ fileNames := by simp [fileNames]

@[simp] theorem watermark_mem : Watermark.name ∈ fileNames := by simp [fileNames]

@[simp] theorem temporaryWatermark_mem : Watermark.temporaryName ∈ fileNames := by
  simp [fileNames]

theorem plain_of_mem {name : String} (member : name ∈ fileNames) :
    Path.isPlain name = true ∧ name.utf8ByteSize ≤ nameLimit := by
  revert name
  decide

theorem place_ne (directory : Path) {name other : String} (member : name ∈ fileNames)
    (member' : other ∈ fileNames) (differ : name ≠ other) :
    (directory.child name).place ≠ (directory.child other).place :=
  Path.place_child_ne directory (plain_of_mem member).1 (plain_of_mem member').1 differ

/-- A machine on which a directory can be made for a host. Every entry of its volume
lies in a directory; the path of the directory does not lead back out of one that is
missing; and the paths of the files are not too long, and no directory has one of them. -/
structure CanOpen (directory : Path) (m : Machine) : Prop where
  rooted : m.volume.Rooted
  direct : m.volume.isDirect directory = true
  made : ((Script.makeDirectories directory).run m).1 = .ok ()
  valid : ∀ name ∈ fileNames, Volume.check (directory.child name) = .ok ()
  free : ∀ name ∈ fileNames, m.volume.view (directory.child name) ≠ some .directory

/-- A machine with a directory in which a host can keep its files. -/
structure Opens (directory : Path) (m : Machine) : Prop where
  admits : ∀ name ∈ fileNames, m.volume.Admits directory name
  free : ∀ name ∈ fileNames, m.volume.get? (directory.child name).place ≠ some .directory

/-- Making a directory shows nothing new under the names in it. -/
theorem made_steady {name : String} (plain : Path.isPlain name = true) (directory : Path)
    (m : Machine) :
    Machine.Steady (directory.child name) m ((Script.makeDirectories directory).run m).2 := by
  have making := Script.makeDirectories_ensures_of (G := Machine.Steady (directory.child name))
    (.refl _) (fun _ _ _ => .trans)
    (fun a around => Machine.reply_makeDirectory_steady (Path.encloses_child around plain)) m
  have ends := (making.mono (fun _ _ _ => trivial) fun _ _ => id).of_play []
  rw [Script.play_nil] at ends
  cases made : ((Script.makeDirectories directory).run m).1 with
  | ok u =>
    rw [made] at ends
    exact ends.1
  | error e =>
    rw [made] at ends
    exact ends

/-- When the directory was made, the files are what they were, and the host can keep
them. -/
theorem CanOpen.opens (can : CanOpen directory m) :
    ∃ m₁, (Script.makeDirectories directory).run m = (.ok (), m₁) ∧ Opens directory m₁ ∧
      ∀ name ∈ fileNames,
        m₁.volume.view (directory.child name) = m.volume.view (directory.child name) := by
  have ran : (Script.makeDirectories directory).run m =
      (.ok (), ((Script.makeDirectories directory).run m).2) :=
    Prod.ext can.made rfl
  have opens : ((Script.makeDirectories directory).run m).2.volume.opens directory := by
    have ends := ((Script.makeDirectories_ensures [] directory m).mono (fun _ _ _ => trivial)
      fun _ _ => id).of_play []
    rw [Script.play_nil, can.made] at ends
    exact ends.2
  have same : ∀ name ∈ fileNames,
      ((Script.makeDirectories directory).run m).2.volume.view (directory.child name) =
        m.volume.view (directory.child name) := by
    intro name member
    have plain := (plain_of_mem member).1
    have direct := (Volume.isDirect_child directory plain).trans can.direct
    exact ((made_steady plain directory m).volume can.rooted direct).2.2
  have admits : ∀ name ∈ fileNames,
      ((Script.makeDirectories directory).run m).2.volume.Admits directory name :=
    fun name member => ⟨opens, (plain_of_mem member).1, (plain_of_mem member).2,
      can.valid name member⟩
  refine ⟨_, ran, ⟨admits, fun name member => ?_⟩, same⟩
  rw [← (admits name member).view, same name member]
  exact can.free name member

/-- What stands under the names in the directory. -/
theorem Opens.view (opens : Opens directory m) {name : String} (member : name ∈ fileNames) :
    m.volume.view (directory.child name) = m.volume.get? (directory.child name).place :=
  (opens.admits name member).view

/-- Replacing one of the files leaves a directory in which the host can keep them. -/
theorem Opens.replaced (opens : Opens directory m) {target beside : String} {content : Bytes}
    (member : target ∈ fileNames) (member' : beside ∈ fileNames)
    (replaced : m.volume.Replaced m'.volume (directory.child beside).place
      (directory.child target).place content) : Opens directory m' := by
  have stay := replaced.directories (opens.free beside member') (opens.free target member)
  refine ⟨fun name member => (opens.admits name member).later stay, fun name member'' => ?_⟩
  by_cases same : (directory.child name).place = (directory.child target).place
  · simp [same, replaced.stands]
  · by_cases aside : (directory.child name).place = (directory.child beside).place
    · simp [aside, replaced.gone]
    · rw [replaced.others _ same aside]
      exact opens.free name member''

/-- Replacing one of the files leaves what stands under the names of the others. -/
theorem Opens.view_of_replaced (opens : Opens directory m) {volume : Volume}
    {target beside name : String} {content : Bytes} (member : target ∈ fileNames)
    (member' : beside ∈ fileNames) (replaced : m.volume.Replaced volume
      (directory.child beside).place (directory.child target).place content)
    (member'' : name ∈ fileNames) (away : name ≠ target) (aside : name ≠ beside) :
    volume.view (directory.child name) = m.volume.view (directory.child name) := by
  have opens' : Opens directory { m with volume } := opens.replaced member member' replaced
  rw [opens.view member'', ← replaced.others, ← opens'.view member'']
  · exact place_ne directory member'' member away
  · exact place_ne directory member'' member' aside

/-- Whether a host can have the key in a file: there is none yet, or it is whole. -/
def Usable (directory : Path) (m : Machine) : Prop :=
  m.volume.view (directory.child KeyFile.name) = none ∨
    ∃ content, m.volume.view (directory.child KeyFile.name) = some (.file content) ∧
      content.length = keySize

/-- The work on the key, in a directory that opens: it gives a key exactly if it can, and
leaves a key file and what is loaded as a watermark. -/
theorem run_key (opens : Opens directory m) :
    (¬ Usable directory m ∧ ∃ e,
      (KeyFile.load (directory.child KeyFile.name)).run.run m = (.error e, m)) ∨
    (Usable directory m ∧ ∃ key m',
      (KeyFile.load (directory.child KeyFile.name)).run.run m = (.ok key, m') ∧
      Opens directory m' ∧
      (∀ content, m.volume.view (directory.child KeyFile.name) = some (.file content) → m' = m) ∧
      m'.volume.view (directory.child Watermark.name) =
        m.volume.view (directory.child Watermark.name)) := by
  have free := opens.free KeyFile.name key_mem
  cases stands : m.volume.view (directory.child KeyFile.name) with
  | none =>
    obtain ⟨volume, ran, replaced⟩ := KeyFile.run_load_of_absent (opens.admits _ key_mem)
      (opens.admits _ temporaryKey_mem) (opens.free _ temporaryKey_mem)
      ((opens.view key_mem).symm.trans stands)
    let m' : Machine := ⟨volume, m.keys, m.drawn + 1⟩
    refine .inr ⟨.inl stands, _, m', ran, ?_, nofun, ?_⟩
    · exact opens.replaced key_mem temporaryKey_mem replaced
    · exact opens.view_of_replaced key_mem temporaryKey_mem replaced watermark_mem
        (by decide) (by decide)
  | some entry =>
    cases entry with
    | directory => exact absurd ((opens.view key_mem).symm.trans stands) free
    | file content =>
      have ran := KeyFile.run_load_of_file stands
      by_cases fits : content.length = keySize
      · obtain ⟨octets, rfl⟩ : ∃ octets : Octets 32, octets.toList = content :=
          ⟨⟨content, fits⟩, rfl⟩
        rw [KeyFile.interpret_toList ⟨octets⟩] at ran
        exact .inr ⟨.inr ⟨_, stands, fits⟩, _, m, ran, opens, fun _ _ => rfl, rfl⟩
      · rw [KeyFile.interpret_of_length fits] at ran
        refine .inl ⟨?_, _, ran⟩
        rintro (absent | ⟨content', stands', fits'⟩)
        · simp [stands] at absent
        · rw [stands] at stands'
          cases stands'
          exact fits fits'

/-- An office opens at every index but the last. -/
theorem ofSettings_cases {settings : TicketSettings} (valid : settings.validate = .ok ())
    (key : TicketKey) (first : Index) :
    (first = Index.last ∧ ∃ e, Office.ofSettings key { settings with first } = .error e) ∨
      first ≠ Index.last ∧ ∃ office, Office.ofSettings key { settings with first } = .ok office ∧
        office.window.next = first := by
  unfold TicketSettings.validate at valid
  split at valid
  · cases valid
  · next sized =>
    have admissible : 0 < settings.capacity.toNat ∧ settings.capacity.toNat ≤ maxCapacity := by
      omega
    unfold Office.ofSettings TicketSettings.validate Office.start
    rw [if_neg sized]
    by_cases last : first = Index.last
    · exact .inl ⟨last, _, by rw [if_pos last]; rfl⟩
    · refine .inr ⟨last, ?_⟩
      rw [if_neg last, Window.new, dif_pos admissible]
      exact ⟨_, rfl, rfl⟩

theorem tickets_valid (valid : settings.validate = .ok ()) :
    settings.tickets.validate = .ok () := by
  unfold Settings.validate at valid
  split at valid
  · split at valid
    · cases valid
    · assumption
  · cases valid

/-- How starting ends once the block from the first index on is reserved: at the last
index it fails, and elsewhere a host begins. -/
def Ends (first reserved : Index) (answer : Except HostError Host) : Prop :=
  first = Index.last ∧ (∃ e, answer = .error e) ∨ first ≠ Index.last ∧
    ∃ host, answer = .ok host ∧ host.office.window.next = first ∧ host.reservedUntil = reserved

/-- The end of starting, in a directory that opens. -/
theorem run_finish (opens : Opens directory m) (valid : settings.validate = .ok ())
    (key : TicketKey) (found : Option Index) :
    let first := begins settings.tickets.first found
    let reserved := raise first (Index.clamp settings.reserveBlock.toNat)
    ∃ answer m', (finish settings (directory.child Watermark.name) key found).run.run m =
        (answer, m') ∧ Ends first reserved answer ∧
      Watermark.kept (directory.child Watermark.name) m' = some reserved ∧
      m'.volume.view (directory.child KeyFile.name) =
        m.volume.view (directory.child KeyFile.name) := by
  intro first reserved
  obtain ⟨volume, saved, replaced⟩ := Watermark.run_save (opens.admits _ watermark_mem)
    (opens.admits _ temporaryWatermark_mem) (opens.free _ temporaryWatermark_mem)
    (opens.free _ watermark_mem) reserved
  have opens' : Opens directory { m with volume } :=
    opens.replaced watermark_mem temporaryWatermark_mem replaced
  have kept : Watermark.kept (directory.child Watermark.name) { m with volume } = some reserved :=
    Watermark.kept_eq_some_iff.mpr ⟨_, Volume.read_eq_ok_iff_view.mpr
      ((opens'.view watermark_mem).trans replaced.stands), Watermark.interpret_text _ _⟩
  have same : volume.view (directory.child KeyFile.name) =
      m.volume.view (directory.child KeyFile.name) :=
    opens.view_of_replaced watermark_mem temporaryWatermark_mem
      replaced key_mem (by decide) (by decide)
  rcases ofSettings_cases (tickets_valid valid) key first with
    ⟨last, e, refused⟩ | ⟨more, office, opened, next⟩
  · refine ⟨.error (.during .startOffice (.protocol e)), { m with volume }, ?_,
      .inl ⟨last, _, rfl⟩, kept, same⟩
    refine (Work.run_bind_ok saved _).trans ?_
    dsimp only
    rw [refused]
    rfl
  · let host : Host := {
      office, watermark := directory.child Watermark.name, reservedUntil := reserved
      reserveBlock := Index.clamp settings.reserveBlock.toNat
      keyFingerprint := key.fingerprint }
    refine ⟨.ok host, { m with volume }, ?_, .inr ⟨more, host, rfl, next, rfl⟩, kept, same⟩
    refine (Work.run_bind_ok saved _).trans ?_
    dsimp only
    rw [opened]
    rfl

end Host
end Resumption
