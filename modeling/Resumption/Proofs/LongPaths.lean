import Resumption.Proofs.StateFiles

/-! Paths that are too long. The root has paths of any length, since slashes mean
nothing; where they leave no room for the name of a file, no key is kept. -/
namespace Resumption

namespace Path

/-- The root, by a path of as many slashes. -/
def slashes (count : Nat) : Path :=
  ⟨List.replicate (count + 1) ""⟩

theorem ofText_slashes (count : Nat) :
    ofText (String.ofList (List.replicate count '/')) = slashes count := by
  have cut : Text.pieces '/' (List.replicate count '/') = List.replicate (count + 1) [] := by
    induction count with
    | zero => rfl
    | succ count ih => simp [List.replicate_succ, Text.pieces, ih]
  simp [ofText, slashes, cut]

theorem utf8ByteSize_text_replicate (count : Nat) (name : String) :
    (Path.mk (List.replicate count "" ++ [name])).text.utf8ByteSize =
      count + name.utf8ByteSize := by
  unfold text
  induction count with
  | zero => simp
  | succ count ih =>
    rw [List.replicate_succ, List.cons_append, String.intercalate_cons_of_ne_nil (by simp),
      String.utf8ByteSize_append, String.utf8ByteSize_append, ih]
    show 0 + 1 + (count + name.utf8ByteSize) = count + 1 + name.utf8ByteSize
    omega

theorem utf8ByteSize_slashes (count : Nat) : (slashes count).text.utf8ByteSize = count := by
  have size := utf8ByteSize_text_replicate count ""
  rwa [← List.replicate_succ'] at size

theorem inside_slashes (count : Nat) : (slashes count).inside = List.replicate count "" := by
  simp [inside, slashes, List.getLast?_replicate]

/-- However many slashes lead to the root, around the names in it there is one. -/
theorem parent?_child_slashes {count : Nat} (many : 0 < count) {name : String}
    (plain : isPlain name = true) : ((slashes count).child name).parent? = some (slashes 1) := by
  obtain ⟨others, rfl⟩ : ∃ others, count = others + 1 := ⟨count - 1, by omega⟩
  have idle : (List.replicate others "").dropWhile isIdle = [] := by
    simp [isIdle]
  have trimmed : trimEnd (List.replicate (others + 1) "") = [""] := by
    rw [List.replicate_succ, trimEnd, List.reverse_replicate, idle, List.reverse_nil]
  rw [parent?, last?_child _ plain, inside_slashes, Option.map_some]
  dsimp only
  rw [trimmed]
  rfl

end Path

namespace Volume

/-- A path that is too long leads nowhere. -/
theorem check_of_long {path : Path} (clean : ∀ piece ∈ path.pieces, '\x00' ∉ piece.toList)
    (long : pathLimit < path.text.utf8ByteSize) : check path = .error .nameTooLong := by
  have filled : path.text ≠ "" := by
    intro empty
    simp [empty] at long
  simp [check, filled, long]
  exact clean

theorem check_child_slashes {count : Nat} {name : String} (clean : '\x00' ∉ name.toList)
    (long : pathLimit < count + name.utf8ByteSize) :
    check ((Path.slashes count).child name) = .error .nameTooLong := by
  have pieces := Path.pieces_child (Path.slashes count) name
  rw [Path.inside_slashes] at pieces
  apply check_of_long
  · intro piece found
    rw [pieces] at found
    rcases List.mem_append.mp found with slash | own
    · simp [List.eq_of_mem_replicate slash]
    · rw [List.mem_singleton.mp own]
      exact clean
  · rw [show (Path.slashes count).child name = ⟨_⟩ from congrArg Path.mk pieces,
      Path.utf8ByteSize_text_replicate]
    exact long

theorem isDirectory_slashes {v : Volume} {count : Nat} (many : 0 < count)
    (few : count ≤ pathLimit) : v.isDirectory (Path.slashes count) = true := by
  have valid : check (Path.slashes count) = .ok () := by
    have size := Path.utf8ByteSize_slashes count
    apply check_eq_ok_iff.mpr
    refine ⟨by simp [Path.slashes], fun empty => ?_, by omega⟩
    simp [empty] at size
    omega
  have located : v.locate (Path.slashes count) = .ok [] := by
    rw [locate, valid]
    exact follow_slashes v.get?_root _
  simp [isDirectory, located, v.get?_root]

/-- No file can be made under a path that leads nowhere. -/
theorem create_of_check {v : Volume} {path : Path} {e : StorageError}
    (refused : check path = .error e) : v.create path = .error e := by
  have nowhere : v.locateFile path = .error e := by
    unfold locateFile locate locateAround
    rw [refused]
    split <;> rfl
  rw [create, nowhere]
  rfl

end Volume

namespace KeyFile

variable {path around : Path} {m : Machine}

/-- Under a path that is too long no key is kept, although everything around it is
there. -/
theorem run_load_of_long (long : Volume.check path = .error .nameTooLong)
    (long' : Volume.check (temporary path) = .error .nameTooLong)
    (parent : path.parent? = some around) (stands : m.volume.isDirectory around = true) :
    ∃ m', (load path).run.run m =
      (.error (.during (.createKey (temporary path)) (.storage .nameTooLong)), m') := by
  have absent : ∀ {p}, Volume.check p = .error .nameTooLong → m.volume.isPresent p = false := by
    intro p refused
    simp [Volume.isPresent, Volume.locate, refused, bind, Except.bind]
  let drawn : Machine := { m with drawn := m.drawn + 1 }
  have made := Script.run_makeDirectories_of_isDirectory (m := drawn) stands
  have refused : (Script.request (.create (temporary path))).run drawn =
      (.error .nameTooLong, drawn) := by
    show drawn.after (drawn.volume.create (temporary path)) = _
    rw [Volume.create_of_check long']
    rfl
  have failed : (save path (m.keys m.drawn)).run.run drawn =
      (.error (.during (.createKey (temporary path)) (.storage .nameTooLong)), drawn) := by
    unfold save
    rw [Work.run_present_bind, absent long']
    exact Work.run_bind_error (Work.run_step_error refused _) _
  refine ⟨drawn, ?_⟩
  unfold load
  rw [Work.run_present_bind, absent long, parent]
  show (Work.step (.makeKeyDirectory around) (Script.makeDirectories around) >>= fun _ =>
    (do save path (m.keys m.drawn); pure (m.keys m.drawn))).run.run drawn = _
  rw [Work.run_bind_ok (Work.run_step_ok made _)]
  exact Work.run_bind_error failed _

end KeyFile

end Resumption
