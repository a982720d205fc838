import Resumption.Host.KeyFile
import Resumption.Proofs.DirectoryPaths
import Resumption.Proofs.ScriptCourses

/-! The work on a data directory besides the watermark: making directories, and
looking after the key file. None of it touches a file at another place, and a
directory that was made successfully opens. -/
namespace Resumption

namespace Script

variable {G : Machine → Machine → Prop}

/-- After a successful attempt the first of the paths is a directory. -/
private theorem settle_ensures {path : Path} {m : Machine} {made : Except StorageError Unit}
    (refl : ∀ m, G m m) (opens : made = .ok () → m.volume.opens path) :
    (makeDirectoriesAlong.settle path made).Ensures G
      (ending (fun _ m' => m'.volume.opens path) fun _ _ => True) m := by
  unfold makeDirectoriesAlong.settle
  cases made with
  | ok u => exact opens rfl
  | error e =>
    intro outcome
    rw [Machine.reply_isDirectory]
    refine ⟨refl m, ?_⟩
    cases stands : m.volume.isDirectory path with
    | false => exact trivial
    | true => exact Volume.opens_of_isDirectory stands

private theorem makeDirectory_ensures {path : Path} {m : Machine}
    (making : ∀ outcome, G m (m.reply (.makeDirectory path) outcome).2) :
    (request (.makeDirectory path)).Ensures G
      (fun made m' => made = .ok () → m'.volume.opens path) m := by
  intro outcome
  refine ⟨making outcome, ?_⟩
  rcases m.reply_makeDirectory path outcome with ⟨e, same⟩ | ⟨volume, done, same⟩ <;> rw [same]
  · intro impossible
    cases impossible
  · exact fun _ => Volume.opens_of_makeDirectory done

private theorem makeDirectoriesAlong_ensures (refl : ∀ m, G m m) {paths : List Path}
    (making : ∀ path ∈ paths, ∀ m outcome, G m (m.reply (.makeDirectory path) outcome).2)
    (m : Machine) :
    (makeDirectoriesAlong paths).Ensures G
      (ending (fun _ m' => ∀ path, paths.head? = some path → m'.volume.opens path)
        fun _ _ => True) m := by
  induction paths generalizing m with
  | nil => exact trivial
  | cons path around ih =>
    have first : ∀ m' : Machine, m'.volume.opens path →
        ∀ other, (path :: around).head? = some other → m'.volume.opens other := by
      rintro m' opens other same
      cases same
      exact opens
    have settled : ∀ made (m' : Machine), (made = .ok () → m'.volume.opens path) →
        (makeDirectoriesAlong.settle path made).Ensures G
          (ending (fun _ m' => ∀ other, (path :: around).head? = some other →
            m'.volume.opens other) fun _ _ => True) m' := by
      intro made m' opens
      refine (settle_ensures refl opens).mono (fun _ _ => id) fun answer m'' holds => ?_
      cases answer with
      | ok u => exact first m'' holds
      | error e => exact trivial
    unfold makeDirectoriesAlong
    by_cases empty : path.text = ""
    · rw [if_pos empty]
      exact first m (Volume.opens_of_text_eq_empty m.volume empty)
    · rw [if_neg empty]
      refine (makeDirectory_ensures (making path List.mem_cons_self m)).bind fun made m' opens => ?_
      split
      · exact first m' (opens rfl)
      · -- What became of the directories around shows in the second attempt.
        refine (ih (fun other found => making other (List.mem_cons_of_mem _ found)) m').bind
          fun answer m'' _ => ?_
        cases answer with
        | error e => exact trivial
        | ok u => exact (makeDirectory_ensures (making path List.mem_cons_self m'')).bind settled
      · exact settled _ m' (by simp)

/-- Making directories stays within every guarantee that admits each of them. Where
it succeeds, the directory opens. -/
theorem makeDirectories_ensures_of {path : Path} (refl : ∀ m, G m m)
    (trans : ∀ m m' m'', G m m' → G m' m'' → G m m'')
    (making : ∀ a ∈ path.ancestors, ∀ m outcome, G m (m.reply (.makeDirectory a) outcome).2)
    (m : Machine) :
    (makeDirectories path).Ensures G
      (ending (fun _ m' => G m m' ∧ m'.volume.opens path) fun _ m' => G m m') m := by
  have innermost : path.ancestors.head? = some path := by
    unfold Path.ancestors
    cases path.pieces.length <;> rfl
  refine ((makeDirectoriesAlong_ensures refl making m).track refl trans).mono (fun _ _ => id)
    fun answer m' holds => ?_
  cases answer with
  | ok u => exact ⟨holds.1, holds.2 path innermost⟩
  | error e => exact holds.1

/-- Making directories leaves all files alone. -/
theorem makeDirectories_ensures (place : Place) (path : Path) (m : Machine) :
    (makeDirectories path).Ensures (Machine.Keeps place)
      (ending (fun _ m' => Machine.Keeps place m m' ∧ m'.volume.opens path)
        fun _ m' => Machine.Keeps place m m') m :=
  makeDirectories_ensures_of (.refl place) (fun _ _ _ => .trans)
    (fun _ _ _ => Machine.reply_keeps (by simp [Request.changes])) m

end Script

namespace Work

variable {G : Machine → Machine → Prop}

/-- Making directories as a step of the work. -/
theorem makeDirectories_ensures_of {path : Path} (refl : ∀ m, G m m)
    (trans : ∀ m m' m'', G m m' → G m' m'' → G m m'')
    (making : ∀ a ∈ path.ancestors, ∀ m outcome, G m (m.reply (.makeDirectory a) outcome).2)
    (s : Step) (m : Machine) :
    Work.Ensures G (fun _ m' => G m m' ∧ m'.volume.opens path) (fun _ m' => G m m')
      (Work.step s (Script.makeDirectories path)) m := by
  refine Work.ensures_step ((Script.makeDirectories_ensures_of refl trans making m).mono
    (fun _ _ => id) fun answer m' holds => ?_)
  cases answer with
  | ok u => exact holds
  | error e => exact holds

theorem makeDirectories_ensures (place : Place) (s : Step) (path : Path) (m : Machine) :
    Work.Ensures (Machine.Keeps place)
      (fun _ m' => Machine.Keeps place m m' ∧ m'.volume.opens path)
      (fun _ m' => Machine.Keeps place m m') (Work.step s (Script.makeDirectories path)) m :=
  makeDirectories_ensures_of (.refl place) (fun _ _ _ => .trans)
    (fun _ _ _ => Machine.reply_keeps (by simp [Request.changes])) s m

end Work

namespace KeyFile

open Script

variable {place : Place} {path : Path}

theorem temporary_child (directory : Path) :
    temporary (directory.child name) = directory.child "ticket.key.tmp" :=
  Path.withExtension_child directory (by decide) "key.tmp"

theorem save_spares (apart : path.place ≠ place) (apart' : (temporary path).place ≠ place)
    (key : TicketKey) : Work.Spares place (save path key) := by
  have rest : Work.Spares place (do
      Work.step (.createKey (temporary path)) (request (.create (temporary path)))
      Work.step (.writeKey (temporary path))
        (request (.write (temporary path) key.octets.toList))
      Work.step (.moveKey (temporary path) path) (request (.move (temporary path) path))) := by
    refine (Work.spares_step fun _ => ensures_request (by simpa [Request.changes])).bind fun _ => ?_
    refine (Work.spares_step fun _ => ensures_request (by simpa [Request.changes])).bind fun _ => ?_
    exact Work.spares_step fun _ => ensures_request (by simp [Request.changes, apart, apart'])
  refine (Work.spares_lift (by simp [Request.changes])).bind fun stale => ?_
  cases stale with
  | false => exact rest
  | true =>
    exact (Work.spares_step fun _ => ensures_request (by simpa [Request.changes])).bind fun _ =>
      rest

/-- The work on the key file leaves all files alone but the key file and the
one beside it. -/
theorem load_spares (apart : path.place ≠ place) (apart' : (temporary path).place ≠ place) :
    Work.Spares place (load path) := by
  refine (Work.spares_lift (by simp [Request.changes])).bind fun present => ?_
  cases present with
  | true =>
    refine (Work.spares_step fun _ => ensures_request (by simp [Request.changes])).bind
      fun content => ?_
    split
    · exact Work.spares_pure _
    · exact Work.spares_throw _
  | false =>
    refine (Work.spares_lift (by simp [Request.changes])).bind fun key => ?_
    have rest : Work.Spares place (do save path key; pure key) :=
      (save_spares apart apart' key).bind fun _ => Work.spares_pure key
    cases path.parent? with
    | none => exact rest
    | some directory =>
      refine (Work.spares_step fun m => ?_).bind fun _ => rest
      exact (makeDirectories_ensures place directory m).mono (fun _ _ => id) fun _ _ _ => trivial

end KeyFile
end Resumption
