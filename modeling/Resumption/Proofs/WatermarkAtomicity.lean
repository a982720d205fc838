import Resumption.Proofs.PathViews
import Resumption.Proofs.WatermarkDurability

/-! Saving a watermark is one step for those who load it. Everything before the move
is work around and beside the file, and what `load` answers depends only on what
stands under the path. Whether saving fails, or is stopped on the way, `load` answers
what it answered before or gives the new watermark. This needs a path that does not
lead back with two dots out of a directory that is missing: saving makes that
directory, and then the path may lead to a file that was there all along. -/
namespace Resumption.Watermark

variable {path : Path} {m m' : Machine} {i : Index}

/-- What loading answers depends only on what stands under the path. -/
theorem run_load_congr (same : m'.volume.view path = m.volume.view path) :
    ((load path).run.run m').1 = ((load path).run.run m).1 := by
  rw [run_load, run_load]
  have present : m'.volume.isPresent path = m.volume.isPresent path := by
    rw [Volume.isPresent_eq_view, Volume.isPresent_eq_view, same]
  unfold inspect
  rw [present]
  by_cases there : m.volume.isPresent path = true
  · rw [if_pos there, if_pos there, Volume.read_congr same there]
  · rw [if_neg there, if_neg there]

theorem framing_steady (path : Path) : Framing path (temporary path) (Machine.Steady path) :=
  Machine.framing_steady (by decide) (by decide) path

/-- Saving changes what stands under the path in its last step alone. -/
theorem save_ensures_steady (path : Path) (i : Index) (m : Machine) :
    Work.Ensures (fun _ m' => Machine.Steady path m m' ∨ kept path m' = some i)
      (fun _ m' => kept path m' = some i) (fun _ m' => Machine.Steady path m m')
      (save path i) m :=
  save_ensures_within (framing_steady path)
    (fun _ _ before step => .inl (before.trans step)) fun _ _ _ arrived => .inr arrived

/-- Saving that is reported as done is done, whatever was there before. -/
theorem kept_of_save {outcomes : List Outcome}
    (saved : ((save path i).run.play outcomes m).1 = .ok ()) :
    kept path ((save path i).run.play outcomes m).2 = some i := by
  have ends := ((save_ensures_steady path i m).mono (fun _ _ _ => trivial)
    (fun _ _ => id) fun _ _ => id).of_play outcomes
  rwa [saved] at ends

/-- Saving that fails leaves everything under the path as it was. -/
theorem steady_of_save {outcomes : List Outcome} {e : HostError}
    (failed : ((save path i).run.play outcomes m).1 = .error e) :
    Machine.Steady path m ((save path i).run.play outcomes m).2 := by
  have ends := ((save_ensures_steady path i m).mono (fun _ _ _ => trivial)
    (fun _ _ => id) fun _ _ => id).of_play outcomes
  rwa [failed] at ends

/-- Wherever saving is stopped, everything under the path is as it was, or the new
watermark is there. -/
theorem stopped_save (path : Path) (i : Index) (outcomes : List Outcome) (m : Machine) :
    Machine.Steady path m ((save path i).run.stopped outcomes m) ∨
      kept path ((save path i).run.stopped outcomes m) = some i :=
  (save_ensures_steady path i m).stopped (.inl (.refl path m)) (fun _ _ _ step => step) outcomes

/-- Watermarks are saved atomically, whatever the machine does and whatever its files
are. After saving was reported as done, `load` gives the new watermark. After it
failed, at whatever step, `load` answers as before. Wherever it is stopped, also while
the file beside is written and holds anything, `load` answers as before or gives the
new watermark; and the next time saving is done, `load` gives the watermark of that
time. The middle two hold for paths that do not lead back out of a missing
directory, on volumes where every entry lies in a directory. -/
theorem saves_are_atomic (path : Path) (i : Index) (outcomes : List Outcome) (m : Machine) :
    let answer (m : Machine) := ((load path).run.run m).1
    let saved := (save path i).run.play outcomes m
    let cut := (save path i).run.stopped outcomes m
    (saved.1 = .ok () → answer saved.2 = .ok (some i)) ∧
    (m.volume.Rooted → m.volume.isDirect path = true →
      (∀ e, saved.1 = .error e → answer saved.2 = answer m) ∧
      (answer cut = answer m ∨ answer cut = .ok (some i))) ∧
    (∀ later outcomes', let saved := (save path later).run.play outcomes' cut
      saved.1 = .ok () → answer saved.2 = .ok (some later)) := by
  intro answer saved cut
  have answer_of_kept : ∀ {m j}, kept path m = some j → answer m = .ok (some j) :=
    fun held => congrArg Prod.fst (run_load_of_kept held)
  refine ⟨fun done => answer_of_kept (kept_of_save done), fun rooted direct => ⟨?_, ?_⟩,
    fun later outcomes' done => answer_of_kept (kept_of_save done)⟩
  · intro e failed
    exact run_load_congr ((steady_of_save failed).volume rooted direct).2.2
  · rcases stopped_save path i outcomes m with steady | arrived
    · exact .inl (run_load_congr (steady.volume rooted direct).2.2)
    · exact .inr (answer_of_kept arrived)

/-- A save over a broken file is cut off while the file beside is written. The file is
as broken as before. -/
theorem saves_are_atomic_over_broken_file :
    let path := Path.ofText "data/ticket_index.json"
    let i : Index := Int64.minValue
    let m : Machine :=
      ⟨⟨[(["data"], .directory), (["data", "ticket_index.json"], .file [123])]⟩,
        fun _ => ⟨⟨List.replicate 32 7, rfl⟩⟩, 0⟩
    let outcomes : List Outcome := [.served, .served, .failed (some [123, 10]) .busy]
    let answer (m : Machine) := ((load path).run.run m).1
    let cause : HostError := .during (.writeWatermark (temporary path)) (.storage .busy)
    m.volume.Rooted ∧ m.volume.isDirect path = true ∧
      ((save path i).run.play outcomes m).1 = .error cause ∧
      answer ((save path i).run.play outcomes m).2 = answer m ∧
      answer m = .error (.unreadableWatermark path) ∧
      (answer ((save path i).run.stopped outcomes m) = answer m ∨
        answer ((save path i).run.stopped outcomes m) = .ok (some i)) := by
  intro path i m outcomes answer cause
  have rooted : m.volume.Rooted := Volume.rooted_of_entries (by decide)
  have direct : m.volume.isDirect path = true := by decide
  have failed : ((save path i).run.play outcomes m).1 = .error cause := by decide +kernel
  obtain ⟨same, cut⟩ := (saves_are_atomic path i outcomes m).2.1 rooted direct
  exact ⟨rooted, direct, failed, same _ failed, by decide +kernel, cut⟩

/-- A path that leads back out of a missing directory. Loading finds nothing under it,
although the file is there. Saving makes the directory and then fails at a directory
beside the file; from then on loading finds the file, and so it does if saving is
stopped as soon as the directory is made. -/
theorem failed_save_reveals_file :
    let path := Path.ofText "a/../ticket_index.json"
    let m : Machine :=
      ⟨⟨[(["ticket_index.json"], .file (Bytes.ofText (text 5))),
          (["ticket_index.json.tmp"], .directory)]⟩,
        fun _ => ⟨⟨List.replicate 32 7, rfl⟩⟩, 0⟩
    let answer (m : Machine) := ((load path).run.run m).1
    let cause : HostError := .during (.writeWatermark (temporary path)) (.storage .isDirectory)
    let cut := (save path 9).run.stopped [.served, .served] m
    m.volume.Rooted ∧ answer m = .ok none ∧
      ((save path 9).run.run m).1 = .error cause ∧
      answer ((save path 9).run.run m).2 = .ok (some 5) ∧
      answer cut ≠ answer m ∧ answer cut ≠ .ok (some 9) := by
  intro path m answer cause cut
  refine ⟨Volume.rooted_of_entries (by decide), ?_⟩
  decide +kernel

end Resumption.Watermark
