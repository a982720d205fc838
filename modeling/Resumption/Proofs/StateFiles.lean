import Resumption.Proofs.KeyPersistence
import Resumption.Proofs.OpenDirectory
import Resumption.Proofs.WatermarkAtomicity

/-! The two files of a host in a directory that opens, on a machine that serves every
request. Keys and watermarks are kept there unless a directory is in the way, and all
other files stay as they are. -/
namespace Resumption

namespace KeyFile

variable {m : Machine} {directory : Path}

/-- The name of the file in which a new key is written first. -/
def temporaryName : String := "ticket.key.tmp"

variable (admits : m.volume.Admits directory name)
  (beside : m.volume.Admits directory temporaryName)
  (free' : m.volume.get? (directory.child name).place ≠ some .directory)
include admits beside free'

/-- The last steps of keeping a key, where nothing is beside it any more. -/
private theorem run_create (absent : m.volume.get? (directory.child temporaryName).place = none)
    (key : TicketKey) :
    ∃ volume, (do
        Work.step (.createKey (directory.child temporaryName))
          (Script.request (.create (directory.child temporaryName)))
        Work.step (.writeKey (directory.child temporaryName))
          (Script.request (.write (directory.child temporaryName) key.octets.toList))
        Work.step (.moveKey (directory.child temporaryName) (directory.child name))
          (Script.request
            (.move (directory.child temporaryName) (directory.child name)))).run.run m =
        (.ok (), { m with volume }) ∧
      m.volume.Replaced volume (directory.child temporaryName).place (directory.child name).place
        key.octets.toList := by
  have free : m.volume.get? (directory.child temporaryName).place ≠ some .directory := by
    simp [absent]
  have inside := Volume.ne_nil_of_free free
  have apart := Path.place_child_ne directory beside.plain admits.plain (by decide)
  have stay := Volume.directories_put free (.file [])
  let made : Machine :=
    { m with volume := m.volume.put (directory.child temporaryName).place (.file []) }
  have created : (Script.request (.create (directory.child temporaryName))).run m =
      (.ok (), made) := by
    show m.after (m.volume.create (directory.child temporaryName)) = _
    rw [beside.create absent]
    rfl
  have others : ∀ other, other ≠ (directory.child temporaryName).place →
      made.volume.get? other = m.volume.get? other := by
    intro other away
    simp [made, Volume.get?_put _ _ _ _ inside, away]
  rw [Work.run_bind_ok (Work.run_step_ok created _)]
  obtain ⟨volume, ran, replaced⟩ := Work.run_replace (m := made) (beside.later stay)
    (admits.later stay) (by decide) (by simp [made, Volume.get?_put _ _ _ _ inside])
    (by rwa [others _ apart.symm]) key.octets.toList _ _
  exact ⟨volume, ran, replaced.since others⟩

/-- A key is kept, and what an earlier attempt left behind is removed. -/
theorem run_save (free : m.volume.get? (directory.child temporaryName).place ≠ some .directory)
    (key : TicketKey) :
    ∃ volume, (save (directory.child name) key).run.run m = (.ok (), { m with volume }) ∧
      m.volume.Replaced volume (directory.child temporaryName).place (directory.child name).place
        key.octets.toList := by
  have inside := Volume.ne_nil_of_free free
  have apart := Path.place_child_ne directory beside.plain admits.plain (by decide)
  unfold save
  rw [temporary_child, Work.run_present_bind, Volume.isPresent_eq_view]
  dsimp only
  rw [show "ticket.key.tmp" = temporaryName from rfl, beside.view]
  cases stale : m.volume.get? (directory.child temporaryName).place with
  | none => exact run_create admits beside free' stale key
  | some entry =>
    cases entry with
    | directory => exact absurd stale free
    | file content =>
      have stay := Volume.directories_drop free
      let cleared : Machine :=
        { m with volume := m.volume.drop (directory.child temporaryName).place }
      have removed : (Script.request (.remove (directory.child temporaryName))).run m =
          (.ok (), cleared) := by
        show m.after (m.volume.remove (directory.child temporaryName)) = _
        rw [beside.remove stale]
        rfl
      have others : ∀ other, other ≠ (directory.child temporaryName).place →
          cleared.volume.get? other = m.volume.get? other := by
        intro other away
        simp [cleared, Volume.get?_drop _ _ _ inside, away]
      obtain ⟨volume, ran, replaced⟩ := run_create (m := cleared) (admits.later stay)
        (beside.later stay) (by rwa [others _ apart.symm])
        (by simp [cleared, Volume.get?_drop _ _ _ inside]) key
      exact ⟨volume, (Work.run_bind_ok (Work.run_step_ok removed _) _).trans ran,
        replaced.since others⟩

omit free' in
/-- Where there is no key, the next one is drawn and kept. -/
theorem run_load_of_absent
    (free : m.volume.get? (directory.child temporaryName).place ≠ some .directory)
    (absent : m.volume.get? (directory.child name).place = none) :
    ∃ volume, (load (directory.child name)).run.run m =
        (.ok (m.keys m.drawn), ⟨volume, m.keys, m.drawn + 1⟩) ∧
      m.volume.Replaced volume (directory.child temporaryName).place (directory.child name).place
        (m.keys m.drawn).octets.toList := by
  let drawn : Machine := ⟨m.volume, m.keys, m.drawn + 1⟩
  obtain ⟨volume, saved, replaced⟩ := run_save (m := drawn) admits beside
    (show m.volume.get? _ ≠ _ by simp [absent]) free (m.keys m.drawn)
  obtain ⟨around, parent, made⟩ := Script.run_makeDirectories_of_admits (m := drawn) admits
  refine ⟨volume, ?_, replaced⟩
  unfold load
  rw [Work.run_present_bind, Volume.isPresent_eq_view, admits.view, absent, parent]
  show (Work.step (.makeKeyDirectory around) (Script.makeDirectories around) >>= fun _ =>
    (do save (directory.child name) (m.keys m.drawn); pure (m.keys m.drawn))).run.run drawn = _
  rw [Work.run_bind_ok (Work.run_step_ok made _), Work.run_bind_ok saved]
  rfl

end KeyFile

namespace Watermark

variable {m : Machine} {path directory : Path}

/-- The watermark under a path: there is no file, or it holds a watermark of the version
that is read. -/
def Reads (path : Path) (v : Volume) (found : Option Index) : Prop :=
  v.view path = none ∧ found = none ∨
    ∃ content text i, v.view path = some (.file content) ∧ content.text? = some text ∧
      ofText? text = some (version, i) ∧ found = some i

theorem interpret_eq_ok_iff {content : Bytes} {found : Option Index} :
    interpret path content = .ok found ↔
      ∃ text i, content.text? = some text ∧ ofText? text = some (version, i) ∧
        found = some i := by
  unfold interpret
  cases content.text? with
  | none => simp
  | some text =>
    cases parsed : ofText? text with
    | none => simp [parsed]
    | some pair =>
      obtain ⟨number, i⟩ := pair
      by_cases same : number = version
      · simp [parsed, same, eq_comm]
      · simp [parsed, same]

/-- Loading succeeds exactly where the file is absent or gives a watermark. -/
theorem run_load_eq_ok_iff {found : Option Index} :
    ((load path).run.run m).1 = .ok found ↔ Reads path m.volume found := by
  rw [run_load]
  unfold inspect Reads
  rw [Volume.isPresent_eq_view]
  rcases Volume.read_of_view m.volume path with
    ⟨stands, reads⟩ | ⟨content, stands, reads⟩ | ⟨stands, -⟩
  · simp [stands, reads]
  · simp [stands, reads, interpret_eq_ok_iff]
  · simp [stands, eq_comm]

/-- The name of the file in which a watermark is written first. -/
def temporaryName : String := "ticket_index.json.tmp"

/-- A watermark is kept if no directory has one of the two names. -/
theorem run_save (admits : m.volume.Admits directory name)
    (beside : m.volume.Admits directory temporaryName)
    (free : m.volume.get? (directory.child temporaryName).place ≠ some .directory)
    (free' : m.volume.get? (directory.child name).place ≠ some .directory) (i : Index) :
    ∃ volume, (save (directory.child name) i).run.run m = (.ok (), { m with volume }) ∧
      m.volume.Replaced volume (directory.child temporaryName).place (directory.child name).place
        (Bytes.ofText (text i)) := by
  obtain ⟨volume, saved, replaced⟩ := Work.run_replace beside admits (by decide) free free'
    (Bytes.ofText (text i)) (.writeWatermark (directory.child temporaryName))
    (.moveWatermark (directory.child temporaryName) (directory.child name))
  obtain ⟨around, parent, made⟩ := Script.run_makeDirectories_of_admits admits
  refine ⟨volume, ?_, replaced⟩
  unfold save
  rw [parent, temporary_child, ← saved]
  exact Work.run_bind_ok (Work.run_step_ok made _) _

end Watermark
end Resumption
