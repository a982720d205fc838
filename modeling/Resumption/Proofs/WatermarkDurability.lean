import Resumption.Proofs.FileReplacement
import Resumption.Proofs.WorkRuns
import Resumption.Proofs.WatermarkText

/-! A watermark on a machine that may fail. What `load` finds is what the file
says; every step of `save` but the last leaves the file alone, and the last puts
a whole watermark in its place. The watermark on disk therefore never falls, as
long as nobody saves less than the file says. -/
namespace Resumption

namespace Watermark

variable {path : Path} {m m' : Machine} {i : Index}

/-- What the content of a watermark file says. -/
def interpret (path : Path) (content : Bytes) : Except HostError (Option Index) :=
  match content.text? with
  | none => .error (.during (.readWatermark path) (.storage .noText))
  | some text =>
    match ofText? text with
    | none => .error (.unreadableWatermark path)
    | some (found, next) =>
      if found = version then .ok (some next) else .error (.watermarkVersion found path)

/-- What is read under a path, said without a script. -/
def inspect (path : Path) (v : Volume) : Except HostError (Option Index) :=
  if v.isPresent path then
    match v.read path with
    | .error e => .error (.during (.readWatermark path) (.storage e))
    | .ok content => interpret path content
  else .ok none

theorem load_eq (path : Path) : load path = (do
    let present ← (liftM (Script.request (.isPresent path)) : Work Bool)
    if present = true then do
      let content ← Work.step (.readWatermark path) (Script.request (.read path))
      ExceptT.mk (Script.done (interpret path content))
    else pure none) := by
  unfold load
  congr 1
  funext present
  congr 1
  congr 1
  funext content
  unfold interpret
  cases content.text? with
  | none => rfl
  | some text =>
    dsimp only
    cases ofText? text with
    | none => rfl
    | some found =>
      dsimp only
      split <;> rfl

theorem run_load (path : Path) (m : Machine) :
    (load path).run.run m = (inspect path m.volume, m) := by
  rw [load_eq, Work.run_present_bind]
  unfold inspect
  by_cases present : m.volume.isPresent path = true
  · rw [if_pos present, if_pos present, Work.run_read_bind]
    cases m.volume.read path <;> rfl
  · rw [if_neg present, if_neg present]
    rfl

/-- The watermark that `load` finds under a path, if it finds one. -/
def kept (path : Path) (m : Machine) : Option Index :=
  match ((load path).run.run m).1 with
  | .ok found => found
  | .error _ => none

theorem kept_eq_some_iff :
    kept path m = some i ↔
      ∃ content, m.volume.read path = .ok content ∧ interpret path content = .ok (some i) := by
  unfold kept
  rw [run_load]
  unfold inspect
  by_cases present : m.volume.isPresent path = true
  · rw [if_pos present]
    cases m.volume.read path with
    | error e => simp
    | ok content => cases found : interpret path content <;> simp [found]
  · rw [if_neg present]
    refine iff_of_false nofun ?_
    rintro ⟨content, reads, -⟩
    exact present (Volume.isPresent_of_read reads)

theorem run_load_of_kept (held : kept path m = some i) :
    (load path).run.run m = (.ok (some i), m) := by
  unfold kept at held
  rw [run_load] at held ⊢
  cases found : inspect path m.volume with
  | error e => simp [found] at held
  | ok found' =>
    rw [found] at held
    rw [show found' = some i from held]

theorem run_load_iff : (load path).run.run m = (.ok (some i), m) ↔ kept path m = some i :=
  ⟨fun loads => by rw [kept, loads], run_load_of_kept⟩

theorem interpret_text (path : Path) (i : Index) :
    interpret path (Bytes.ofText (text i)) = .ok (some i) := by
  simp [interpret, Bytes.text?_ofText, ofText?_text]

theorem interpret_ne_none (path : Path) (content : Bytes) :
    interpret path content ≠ .ok none := by
  unfold interpret
  repeat' split
  all_goals nofun

/-- A kept file keeps its watermark. -/
theorem kept_of_keeps (keeps : Machine.Keeps path.place m m') (found : kept path m = some i) :
    kept path m' = some i := by
  obtain ⟨content, reads, held⟩ := kept_eq_some_iff.mp found
  exact kept_eq_some_iff.mpr ⟨content, keeps.read reads, held⟩

/-- A watermark on disk stays there or gives way to a higher one. -/
def Rises (path : Path) (m m' : Machine) : Prop :=
  ∀ i, kept path m = some i → ∃ j, kept path m' = some j ∧ i ≤ j

theorem rises_of_keeps (keeps : Machine.Keeps path.place m m') : Rises path m m' :=
  fun i found => ⟨i, kept_of_keeps keeps found, Int64.le_refl i⟩

theorem Rises.refl (path : Path) (m : Machine) : Rises path m m :=
  rises_of_keeps (.refl path.place m)

theorem Rises.trans {m'' : Machine} (first : Rises path m m') (second : Rises path m' m'') :
    Rises path m m'' := by
  intro i found
  obtain ⟨j, found, le⟩ := first i found
  obtain ⟨j', found, le'⟩ := second j found
  exact ⟨j', found, Int64.le_trans le le'⟩

/-- As long as the file is left alone, no more than some index is found in it. -/
def Bounded (path : Path) (i : Index) (m : Machine) : Prop :=
  ∀ m', Machine.Keeps path.place m m' → ∀ j, kept path m' = some j → j ≤ i

theorem bounded_of_kept {j : Index} (found : kept path m = some j) (le : j ≤ i) :
    Bounded path i m := by
  intro m' keeps k found'
  rw [kept_of_keeps keeps found] at found'
  exact Option.some.inj found' ▸ le

/-- What was found under a path is the watermark on disk, and nothing was found
only where there is no file. -/
structure Loaded (path : Path) (found : Option Index) (m : Machine) : Prop where
  kept : ∀ i, found = some i → kept path m = some i
  absent : found = none → m.volume.isPresent path = false

theorem Loaded.found_of_kept {found : Option Index} (loaded : Loaded path found m)
    (held : Watermark.kept path m = some i) : found = some i := by
  cases found with
  | some j => exact (loaded.kept j rfl).symm.trans held
  | none =>
    obtain ⟨content, reads, -⟩ := kept_eq_some_iff.mp held
    exact absurd (Volume.isPresent_of_read reads) (by simp [loaded.absent rfl])

/-- In a directory that opens, what was found is all that will be there while the
file is left alone. -/
theorem Loaded.bounded {directory : Path} {found : Option Index}
    (loaded : Loaded (directory.child name) found m) (opens : m.volume.opens directory)
    (above : ∀ j, found = some j → j ≤ i) : Bounded (directory.child name) i m := by
  cases found with
  | some j => exact bounded_of_kept (loaded.kept j rfl) (above j rfl)
  | none =>
    intro m' keeps j held
    obtain ⟨content, reads, -⟩ := kept_eq_some_iff.mp held
    exact absurd reads (keeps.missing opens (by decide) (by decide) (loaded.absent rfl) content)

/-- Loading changes nothing. -/
theorem load_ensures (place : Place) (path : Path) (m : Machine) :
    Work.Ensures (Machine.Keeps place) (fun found m' => m' = m ∧ Loaded path found m)
      (fun _ _ => True) (load path) m := by
  rw [load_eq]
  refine (Work.ensures_isPresent (.refl place m) path).bind ?_
  rintro present m' ⟨rfl, rfl⟩
  split
  · refine ((Work.ensures_read (.refl place m') (.readWatermark path) path).mono (fun _ _ => id)
      (fun _ _ => id) fun _ _ _ => trivial).bind ?_
    rintro content m'' ⟨rfl, reads⟩
    show Script.ending _ _ (interpret path content) m''
    cases held : interpret path content with
    | error e => trivial
    | ok found =>
      refine ⟨rfl, fun i same => kept_eq_some_iff.mpr ⟨content, reads, same ▸ held⟩, ?_⟩
      rintro rfl
      exact absurd held (interpret_ne_none path content)
  · next absent => exact ⟨rfl, nofun, fun _ => eq_false_of_ne_true absent⟩

theorem temporary_child (directory : Path) :
    temporary (directory.child name) = directory.child "ticket_index.json.tmp" :=
  Path.withExtension_child directory (by decide) "json.tmp"

/-- The file beside the watermark has a place of its own. -/
theorem temporary_apart (directory : Path) :
    (temporary (directory.child name)).place ≠ (directory.child name).place := by
  rw [temporary_child]
  exact Path.place_child_ne directory (by decide) (by decide) (by decide)

/-- Saving a watermark: the file changes in the last step alone, from whatever it
held to the new watermark. All steps before are work around and beside it. -/
theorem save_ensures_within {F G : Machine → Machine → Prop}
    (framing : Framing path (temporary path) F)
    (keeping : ∀ m₁ m₂, F m m₁ → F m₁ m₂ → G m₁ m₂)
    (moving : ∀ m₁ m₂, F m m₁ → kept path m₂ = some i → G m₁ m₂) :
    Work.Ensures G (fun _ m' => kept path m' = some i) (fun _ m' => F m m') (save path i) m := by
  have replacing : ∀ m', F m m' → Work.Ensures G (fun _ m'' => kept path m'' = some i)
      (fun _ m'' => F m m'') (do
        Work.step (.writeWatermark (temporary path))
          (Script.request (.write (temporary path) (Bytes.ofText (text i))))
        Work.step (.moveWatermark (temporary path) path)
          (Script.request (.move (temporary path) path))) m' :=
    fun m' begun => framing.replace _ _ begun keeping fun m₁ volume before _ reads =>
      have arrived : kept path { m₁ with volume } = some i :=
        kept_eq_some_iff.mpr ⟨_, reads, interpret_text path i⟩
      ⟨moving _ _ before arrived, arrived⟩
  unfold save
  cases parent : path.parent? with
  | none => exact replacing m (framing.refl m)
  | some directory =>
    exact ((framing.makeDirectories parent _ (framing.refl m)).mono
      (fun m₁ m₂ steps => keeping m₁ m₂ steps.1 steps.2) (fun _ _ => id) fun _ _ => id).bind
        fun _ m' begun => replacing m' begun

/-- Saving a watermark that is not below the one on disk takes it up. -/
theorem save_ensures (apart : (temporary path).place ≠ path.place) (bounded : Bounded path i m) :
    Work.Ensures (Rises path) (fun _ m' => kept path m' = some i)
      (fun _ m' => Machine.Keeps path.place m m') (save path i) m :=
  save_ensures_within (framing_keeps apart) (fun _ _ _ => rises_of_keeps)
    fun m₁ _ keeps arrived j found => ⟨i, arrived, bounded m₁ keeps j found⟩

end Watermark
end Resumption
