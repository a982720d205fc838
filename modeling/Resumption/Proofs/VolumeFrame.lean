import Mathlib.Data.List.TakeWhile
import Resumption.Proofs.Outcomes
import Resumption.Storage.Volume

/-! What an operation on a volume leaves alone. A path that leads anywhere leads
to the place its pieces spell, so two paths with different places never meet,
whatever the volume holds. `Keeps` is the frame of a single file: directories
stay directories, and the file is there afterwards exactly if it was before. Where
only `BringsNoFile` holds, the file may be gone, but no other one is there. -/
namespace Resumption

namespace Path

/-- Where pieces lead by their names alone. -/
def placeFrom : (here : Place) → (pieces : List String) → Place
  | here, [] => here
  | here, piece :: pieces =>
    if isIdle piece then placeFrom here pieces
    else if piece = ".." then placeFrom here.dropLast pieces
    else placeFrom (here ++ [piece]) pieces

/-- The place that a path spells. -/
def place (path : Path) : Place :=
  placeFrom [] path.pieces

theorem placeFrom_append (here : Place) (first second : List String) :
    placeFrom here (first ++ second) = placeFrom (placeFrom here first) second := by
  induction first generalizing here with
  | nil => rfl
  | cons piece first ih =>
    simp only [List.cons_append, placeFrom]
    split
    · exact ih here
    · split <;> exact ih _

theorem placeFrom_slashes (here : Place) (count : Nat) :
    placeFrom here (List.replicate count "") = here := by
  induction count with
  | zero => rfl
  | succ count ih => simpa [List.replicate_succ, placeFrom, isIdle] using ih

end Path

namespace Volume

variable {v v' : Volume} {path source target : Path} {here place : Place} {content : Bytes}

/-- The slashes at the end of a path are the pieces that `unslashed` takes off. -/
theorem pieces_unslashed (path : Path) :
    ∃ count, path.pieces = (unslashed path).pieces ++ List.replicate count "" := by
  have parts : path.pieces = (path.pieces.reverse.dropWhile (· = "")).reverse ++
      (path.pieces.reverse.takeWhile (· = "")).reverse := by
    rw [← List.reverse_append, List.takeWhile_append_dropWhile, List.reverse_reverse]
  unfold unslashed
  split
  · exact ⟨0, by simp⟩
  · next stays =>
    refine ⟨(path.pieces.reverse.takeWhile (· = "")).length, ?_⟩
    have slashes : path.pieces.reverse.takeWhile (· = "") =
        List.replicate (path.pieces.reverse.takeWhile (· = "")).length "" := by
      refine List.eq_replicate_iff.mpr ⟨rfl, fun piece found => ?_⟩
      simpa using List.mem_takeWhile_imp found
    rw [← List.reverse_replicate, ← slashes]
    exact parts

theorem place_unslashed (path : Path) : (unslashed path).place = path.place := by
  obtain ⟨count, pieces⟩ := pieces_unslashed path
  rw [Path.place, Path.place, pieces, Path.placeFrom_append, Path.placeFrom_slashes]

theorem unslashed_of_bare (bare : endsInSlash path = false) : unslashed path = path := by
  unfold endsInSlash at bare
  rw [List.getLast?_eq_head?_reverse, decide_eq_false_iff_not] at bare
  have same : path.pieces.reverse.dropWhile (· = "") = path.pieces.reverse := by
    cases reversed : path.pieces.reverse with
    | nil => rfl
    | cons piece rest =>
      have named : piece ≠ "" := fun empty => bare (by rw [reversed, List.head?_cons, empty])
      rw [List.dropWhile_cons_of_neg (by simpa using named)]
  unfold unslashed
  rw [same, List.reverse_reverse]
  split <;> rfl

/-! Following a path -/

/-- A path leads on from a directory to where its next piece spells, and from
there as it would in any volume that has the directory. -/
theorem follow_cons_cases {piece : String} {pieces : List String}
    (found : v.follow here (piece :: pieces) = .ok place) :
    v.get? here = some .directory ∧
      v.follow (Path.placeFrom here [piece]) pieces = .ok place ∧
        ∀ w : Volume, w.get? here = some .directory →
          w.follow here (piece :: pieces) = w.follow (Path.placeFrom here [piece]) pieces := by
  simp only [follow, Path.placeFrom] at found ⊢
  split at found
  · cases found
  · cases found
  · next stands =>
    refine ⟨stands, ?_⟩
    split at found
    · next idle =>
      simp only [if_pos idle]
      exact ⟨found, fun w stands => by rw [stands]⟩
    · next named =>
      simp only [if_neg named]
      split at found
      · next back =>
        simp only [if_pos back]
        exact ⟨found, fun w stands => by rw [stands]⟩
      · next further =>
        simp only [if_neg further]
        split at found
        · cases found
        · next short =>
          simp only [if_neg short]
          exact ⟨found, fun w stands => by rw [stands]⟩

/-- Following pieces leads to where they spell, if it leads anywhere. -/
theorem placeFrom_of_follow {pieces : List String} (found : v.follow here pieces = .ok place) :
    Path.placeFrom here pieces = place := by
  induction pieces generalizing here with
  | nil => exact Except.ok.inj found
  | cons piece pieces ih =>
    obtain ⟨-, rest, -⟩ := follow_cons_cases found
    rw [← List.singleton_append, Path.placeFrom_append, ih rest]

theorem follow_append (v : Volume) (here : Place) (first second : List String) :
    v.follow here (first ++ second) =
      (v.follow here first).bind fun middle => v.follow middle second := by
  induction first generalizing here with
  | nil => rfl
  | cons piece first ih =>
    simp only [List.cons_append, follow]
    split
    · rfl
    · rfl
    · split
      · exact ih here
      · split
        · exact ih here.dropLast
        · split
          · rfl
          · exact ih (here ++ [piece])

theorem follow_slashes (stands : v.get? here = some .directory) (count : Nat) :
    v.follow here (List.replicate count "") = .ok here := by
  induction count with
  | zero => rfl
  | succ count ih => simpa [List.replicate_succ, follow, stands, Path.isIdle] using ih

/-- A path leads where it led while no directory goes away. -/
theorem follow_of_directories
    (stay : ∀ other, v.get? other = some .directory → v'.get? other = some .directory)
    {pieces : List String} (found : v.follow here pieces = .ok place) :
    v'.follow here pieces = .ok place := by
  induction pieces generalizing here with
  | nil => exact found
  | cons piece pieces ih =>
    obtain ⟨stands, rest, onward⟩ := follow_cons_cases found
    rw [onward v' (stay here stands)]
    exact ih rest

theorem locate_eq_ok_iff :
    v.locate path = .ok place ↔ check path = .ok () ∧ v.follow [] path.pieces = .ok place := by
  unfold locate
  cases check path with
  | error e => simp [bind, Except.bind]
  | ok u => simp [bind, Except.bind]

theorem place_of_locate (found : v.locate path = .ok place) : path.place = place :=
  placeFrom_of_follow (locate_eq_ok_iff.mp found).2

/-- A path that leads to a place for a file leads there as a path does. -/
theorem locate_of_locateFile (found : v.locateFile path = .ok place) :
    v.locate path = .ok place := by
  unfold locateFile at found
  split at found
  · exact found
  · cases around : v.locateAround path <;> rw [around] at found <;> cases found

/-- A file reads exactly if its path leads to it. -/
theorem read_eq_ok_iff :
    v.read path = .ok content ↔
      v.locate path = .ok path.place ∧ v.get? path.place = some (.file content) := by
  unfold read
  cases located : v.locate path with
  | error e => simp [bind, Except.bind]
  | ok place =>
    rw [← place_of_locate located]
    cases stands : v.get? path.place with
    | none => simp [bind, Except.bind, stands, throw, throwThe, MonadExceptOf.throw]
    | some entry => cases entry <;> simp [bind, Except.bind, stands, pure, Except.pure]

theorem isPresent_of_read (reads : v.read path = .ok content) : v.isPresent path = true := by
  obtain ⟨located, stands⟩ := read_eq_ok_iff.mp reads
  simp [isPresent, located, stands]

/-! What operations do -/

theorem write_eq_ok (done : v.write path content = .ok v') :
    v.get? path.place ≠ some .directory ∧ v' = v.put path.place (.file content) := by
  obtain ⟨place, located, done⟩ := bind_eq_ok_iff.mp done
  obtain rfl := place_of_locate (locate_of_locateFile located)
  split at done
  · cases done
  · next free => exact ⟨free, (Except.ok.inj done).symm⟩

theorem create_eq_ok (done : v.create path = .ok v') :
    v.get? path.place = none ∧ v' = v.put path.place (.file []) := by
  obtain ⟨place, located, done⟩ := bind_eq_ok_iff.mp done
  obtain rfl := place_of_locate (locate_of_locateFile located)
  split at done
  · cases done
  · next free => exact ⟨free, (Except.ok.inj done).symm⟩

theorem makeDirectory_eq_ok (done : v.makeDirectory path = .ok v') :
    v.follow [] (unslashed path).pieces = .ok path.place ∧ v.get? path.place = none ∧
      v' = v.put path.place .directory := by
  obtain ⟨place, located, done⟩ := bind_eq_ok_iff.mp done
  obtain rfl := (place_unslashed path).symm.trans (place_of_locate located)
  split at done
  · cases done
  · next free => exact ⟨(locate_eq_ok_iff.mp located).2, free, (Except.ok.inj done).symm⟩

theorem remove_eq_ok (done : v.remove path = .ok v') :
    (∃ content, v.get? path.place = some (.file content)) ∧ v' = v.drop path.place := by
  obtain ⟨place, located, done⟩ := bind_eq_ok_iff.mp done
  obtain rfl := place_of_locate located
  split at done
  · cases done
  · cases done
  · next content stands => exact ⟨⟨content, stands⟩, (Except.ok.inj done).symm⟩

theorem move_eq_ok (done : v.move source target = .ok v') :
    ∃ content, v.get? source.place = some (.file content) ∧
      v.locate target = .ok target.place ∧ v.get? target.place ≠ some .directory ∧
      v' = (v.drop source.place).put target.place (.file content) := by
  obtain ⟨-, -, done⟩ := bind_eq_ok_iff.mp done
  obtain ⟨-, -, done⟩ := bind_eq_ok_iff.mp done
  by_cases named : (!(endsInName source && endsInName target)) = true
  · rw [if_pos named] at done
    cases done
  rw [if_neg named] at done
  obtain ⟨place, located, done⟩ := bind_eq_ok_iff.mp done
  obtain rfl := place_of_locate located
  split at done
  · cases done
  · cases done
  · next content stands =>
    obtain ⟨place, located, done⟩ := bind_eq_ok_iff.mp done
    by_cases slash : endsInSlash target = true
    · rw [if_pos slash] at done
      cases done
    rw [if_neg slash] at done
    rw [unslashed_of_bare (eq_false_of_ne_true slash)] at located
    obtain rfl := place_of_locate located
    split at done
    · cases done
    · next free => exact ⟨content, stands, located, free, (Except.ok.inj done).symm⟩

/-! The frame of a file -/

/-- Directories stay directories, and a file stands at a place exactly if the
same file stood there before. -/
structure Keeps (place : Place) (v v' : Volume) : Prop where
  directories : ∀ other, v.get? other = some .directory → v'.get? other = some .directory
  file : ∀ content, v'.get? place = some (.file content) ↔ v.get? place = some (.file content)

theorem Keeps.refl (place : Place) (v : Volume) : Keeps place v v :=
  ⟨fun _ => id, fun _ => Iff.rfl⟩

theorem Keeps.trans {v'' : Volume} (first : Keeps place v v') (second : Keeps place v' v'') :
    Keeps place v v'' :=
  ⟨fun other stands => second.directories other (first.directories other stands),
    fun content => (second.file content).trans (first.file content)⟩

/-- A kept file reads as it did. -/
theorem Keeps.read (keeps : Keeps path.place v v') (reads : v.read path = .ok content) :
    v'.read path = .ok content := by
  obtain ⟨located, stands⟩ := read_eq_ok_iff.mp reads
  obtain ⟨valid, found⟩ := locate_eq_ok_iff.mp located
  have found' := follow_of_directories keeps.directories found
  exact read_eq_ok_iff.mpr ⟨locate_eq_ok_iff.mpr ⟨valid, found'⟩, (keeps.file content).mpr stands⟩

theorem ne_nil_of_free (free : v.get? here ≠ some .directory) : here ≠ [] := by
  rintro rfl
  exact free (by simp [get?])

theorem directories_put (free : v.get? here ≠ some .directory) (entry : Entry) (other : Place)
    (stands : v.get? other = some .directory) :
    (v.put here entry).get? other = some .directory := by
  have apart : other ≠ here := fun same => free (same ▸ stands)
  rw [get?_put v here other entry (ne_nil_of_free free), if_neg apart, stands]

theorem directories_drop (free : v.get? here ≠ some .directory) (other : Place)
    (stands : v.get? other = some .directory) : (v.drop here).get? other = some .directory := by
  have apart : other ≠ here := fun same => free (same ▸ stands)
  rw [get?_drop v here other (ne_nil_of_free free), if_neg apart, stands]

theorem keeps_put (free : v.get? here ≠ some .directory) (apart : here ≠ place) (entry : Entry) :
    Keeps place v (v.put here entry) := by
  refine ⟨directories_put free entry, fun content => ?_⟩
  rw [get?_put v here place entry (ne_nil_of_free free), if_neg apart.symm]

theorem keeps_drop (free : v.get? here ≠ some .directory) (apart : here ≠ place) :
    Keeps place v (v.drop here) := by
  refine ⟨directories_drop free, fun content => ?_⟩
  rw [get?_drop v here place (ne_nil_of_free free), if_neg apart.symm]

/-- A new directory takes no file away, not even where it stands. -/
theorem keeps_put_directory (free : v.get? here = none) :
    Keeps place v (v.put here .directory) := by
  have empty : v.get? here ≠ some .directory := by simp [free]
  refine ⟨directories_put empty .directory, fun content => ?_⟩
  rw [get?_put v here place .directory (ne_nil_of_free empty)]
  split
  · next same => simp [same, free]
  · rfl

theorem free_drop (gone : v.get? here ≠ some .directory) {other : Place}
    (free : v.get? other ≠ some .directory) : (v.drop here).get? other ≠ some .directory := by
  rw [get?_drop v here other (ne_nil_of_free gone)]
  split
  · simp
  · exact free

theorem write_keeps (done : v.write path content = .ok v') (apart : path.place ≠ place) :
    Keeps place v v' := by
  obtain ⟨free, rfl⟩ := write_eq_ok done
  exact keeps_put free apart _

theorem create_keeps (done : v.create path = .ok v') (apart : path.place ≠ place) :
    Keeps place v v' := by
  obtain ⟨free, rfl⟩ := create_eq_ok done
  exact keeps_put (by simp [free]) apart _

theorem makeDirectory_keeps (done : v.makeDirectory path = .ok v') : Keeps place v v' := by
  obtain ⟨-, free, rfl⟩ := makeDirectory_eq_ok done
  exact keeps_put_directory free

theorem remove_keeps (done : v.remove path = .ok v') (apart : path.place ≠ place) :
    Keeps place v v' := by
  obtain ⟨⟨content, stands⟩, rfl⟩ := remove_eq_ok done
  exact keeps_drop (by simp [stands]) apart

theorem move_keeps (done : v.move source target = .ok v') (leaves : source.place ≠ place)
    (arrives : target.place ≠ place) : Keeps place v v' := by
  obtain ⟨content, stands, -, free, rfl⟩ := move_eq_ok done
  have gone : v.get? source.place ≠ some .directory := by simp [stands]
  exact (keeps_drop gone leaves).trans (keeps_put (free_drop gone free) arrives _)

/-- What was moved to a path reads there. -/
theorem read_move (done : v.move source target = .ok v')
    (stands : v.get? source.place = some (.file content)) : v'.read target = .ok content := by
  obtain ⟨moved, stood, located, free, rfl⟩ := move_eq_ok done
  obtain rfl : content = moved := by simpa [stands] using stood
  obtain ⟨valid, found⟩ := locate_eq_ok_iff.mp located
  have gone : v.get? source.place ≠ some .directory := by simp [stands]
  have left := free_drop gone free
  have found' := follow_of_directories
    (fun other dir => directories_put left (.file content) other (directories_drop gone other dir))
    found
  refine read_eq_ok_iff.mpr ⟨locate_eq_ok_iff.mpr ⟨valid, found'⟩, ?_⟩
  rw [get?_put _ _ _ _ (ne_nil_of_free left), if_pos rfl]

/-- A written file stands at the place of its path. -/
theorem get?_write (done : v.write path content = .ok v') :
    v'.get? path.place = some (.file content) := by
  obtain ⟨free, rfl⟩ := write_eq_ok done
  rw [get?_put _ _ _ _ (ne_nil_of_free free), if_pos rfl]

/-! What arrives at a place -/

/-- No file arrives at a place. One that stood there may be gone. -/
def BringsNoFile (place : Place) (v v' : Volume) : Prop :=
  ∀ content, v'.get? place = some (.file content) → v.get? place = some (.file content)

theorem BringsNoFile.refl (place : Place) (v : Volume) : BringsNoFile place v v :=
  fun _ => id

theorem BringsNoFile.trans {v'' : Volume} (first : BringsNoFile place v v')
    (second : BringsNoFile place v' v'') : BringsNoFile place v v'' :=
  fun content stands => first content (second content stands)

theorem Keeps.bringsNoFile (keeps : Keeps place v v') : BringsNoFile place v v' :=
  fun content => (keeps.file content).mp

/-- A removal brings a file nowhere, not even to where it takes one away. -/
theorem remove_bringsNoFile (done : v.remove path = .ok v') : BringsNoFile place v v' := by
  obtain ⟨⟨content, stands⟩, rfl⟩ := remove_eq_ok done
  have free : v.get? path.place ≠ some .directory := by simp [stands]
  intro content arrived
  rw [get?_drop v path.place place (ne_nil_of_free free)] at arrived
  split at arrived
  · cases arrived
  · exact arrived

end Volume
end Resumption
