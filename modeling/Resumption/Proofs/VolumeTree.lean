import Mathlib.Data.List.Induction
import Resumption.Proofs.ScriptCourses

/-! Volumes as trees. Every entry lies in a directory, and no request to a machine
changes that, however it turns out. Below a place without a directory there is
therefore nothing. -/
namespace Resumption

namespace Volume

variable {v v' : Volume} {path source target : Path} {here place : Place} {content : Bytes}

/-- Every entry lies in a directory. -/
def Rooted (v : Volume) : Prop :=
  ∀ place, v.get? place ≠ none → v.get? place.dropLast = some .directory

theorem get?_root (v : Volume) : v.get? [] = some .directory := if_pos rfl

/-- A volume is a tree if each entry of its list lies in a directory. -/
theorem rooted_of_entries
    (around : ∀ entry ∈ v.entries, v.get? entry.1.dropLast = some .directory) : v.Rooted := by
  intro place stands
  by_cases root : place = []
  · subst root
    exact get?_root v
  · unfold get? at stands
    rw [if_neg root] at stands
    obtain ⟨entry, found⟩ := Option.ne_none_iff_exists'.mp (mt Option.map_eq_none_iff.mpr stands)
    obtain rfl : entry.1 = place := by simpa using List.find?_some found
    exact around entry (List.mem_of_find?_eq_some found)

namespace Rooted

/-- Nothing stands below a place without a directory. -/
theorem get?_below (rooted : v.Rooted) (bare : v.get? here ≠ some .directory) {more : List String}
    (below : more ≠ []) : v.get? (here ++ more) = none := by
  induction more using List.reverseRecOn with
  | nil => exact absurd rfl below
  | append_singleton inner name ih =>
    by_contra stands
    have around := rooted _ stands
    rw [← List.append_assoc, List.dropLast_concat] at around
    by_cases first : inner = []
    · rw [first, List.append_nil] at around
      exact bare around
    · rw [ih first] at around
      cases around

/-- A path leads to a place in a directory. -/
theorem around_of_follow (rooted : v.Rooted) {pieces : List String}
    (around : v.get? here.dropLast = some .directory) (found : v.follow here pieces = .ok place) :
    v.get? place.dropLast = some .directory := by
  induction pieces generalizing here with
  | nil => exact Except.ok.inj found ▸ around
  | cons piece pieces ih =>
    obtain ⟨stands, rest, -⟩ := follow_cons_cases found
    refine ih ?_ rest
    simp only [Path.placeFrom]
    split
    · exact around
    · split
      · exact rooted _ (by simp [around])
      · rw [List.dropLast_concat]
        exact stands

/-- The root counts as lying in itself. -/
theorem around_of_follow_root (rooted : v.Rooted) {pieces : List String}
    (found : v.follow [] pieces = .ok place) : v.get? place.dropLast = some .directory :=
  have around : v.get? ([] : Place).dropLast = some .directory := get?_root v
  rooted.around_of_follow around found

theorem around_of_locate (rooted : v.Rooted) (found : v.locate path = .ok place) :
    v.get? place.dropLast = some .directory :=
  rooted.around_of_follow_root (locate_eq_ok_iff.mp found).2

theorem put (rooted : v.Rooted) (free : v.get? here ≠ some .directory)
    (around : v.get? here.dropLast = some .directory) (entry : Entry) :
    (v.put here entry).Rooted := by
  intro place stands
  apply directories_put free entry
  rw [get?_put _ _ _ _ (ne_nil_of_free free)] at stands
  split at stands
  · next same => exact same ▸ around
  · exact rooted place stands

theorem drop (rooted : v.Rooted) (stands : v.get? here = some (.file content)) :
    (v.drop here).Rooted := by
  have free : v.get? here ≠ some .directory := by simp [stands]
  intro place stands'
  apply directories_drop free
  rw [get?_drop _ _ _ (ne_nil_of_free free)] at stands'
  split at stands'
  · exact absurd rfl stands'
  · exact rooted place stands'

theorem write (rooted : v.Rooted) (done : v.write path content = .ok v') : v'.Rooted := by
  obtain ⟨free, rfl⟩ := write_eq_ok done
  obtain ⟨place, located, -⟩ := bind_eq_ok_iff.mp done
  have located := locate_of_locateFile located
  exact rooted.put free (place_of_locate located ▸ rooted.around_of_locate located) _

theorem create (rooted : v.Rooted) (done : v.create path = .ok v') : v'.Rooted := by
  obtain ⟨free, rfl⟩ := create_eq_ok done
  obtain ⟨place, located, -⟩ := bind_eq_ok_iff.mp done
  have located := locate_of_locateFile located
  exact rooted.put (by simp [free]) (place_of_locate located ▸ rooted.around_of_locate located) _

theorem makeDirectory (rooted : v.Rooted) (done : v.makeDirectory path = .ok v') :
    v'.Rooted := by
  obtain ⟨found, free, rfl⟩ := makeDirectory_eq_ok done
  exact rooted.put (by simp [free]) (rooted.around_of_follow_root found) _

theorem remove (rooted : v.Rooted) (done : v.remove path = .ok v') : v'.Rooted := by
  obtain ⟨⟨content, stands⟩, rfl⟩ := remove_eq_ok done
  exact rooted.drop stands

theorem move (rooted : v.Rooted) (done : v.move source target = .ok v') : v'.Rooted := by
  obtain ⟨content, stands, located, free, rfl⟩ := move_eq_ok done
  have gone : v.get? source.place ≠ some .directory := by simp [stands]
  exact (rooted.drop stands).put (free_drop gone free)
    (directories_drop gone _ (rooted.around_of_locate located)) _

end Rooted
end Volume

namespace Machine

variable {m : Machine}

private theorem after_rooted (rooted : m.volume.Rooted) {changed : Except StorageError Volume}
    (keeps : ∀ volume, changed = .ok volume → volume.Rooted) :
    (m.after changed).2.volume.Rooted := by
  rcases m.after_cases changed with ⟨e, same⟩ | ⟨volume, done, same⟩ <;> rw [same]
  · exact rooted
  · exact keeps volume done

theorem answer_rooted (rooted : m.volume.Rooted) (r : Request) :
    (m.answer r).2.volume.Rooted := by
  cases r with
  | isPresent _ | isDirectory _ | read _ | drawKey => exact rooted
  | makeDirectory _ => exact after_rooted rooted fun _ => rooted.makeDirectory
  | write _ _ => exact after_rooted rooted fun _ => rooted.write
  | create _ => exact after_rooted rooted fun _ => rooted.create
  | remove _ => exact after_rooted rooted fun _ => rooted.remove
  | move _ _ => exact after_rooted rooted fun _ => rooted.move

/-- However a request turns out, the volume stays a tree. -/
theorem reply_rooted (rooted : m.volume.Rooted) (r : Request) (outcome : Outcome) :
    (m.reply r outcome).2.volume.Rooted := by
  unfold reply
  split
  · exact answer_rooted rooted r
  · split
    · unfold spoil
      split
      · exact answer_rooted rooted _
      · exact rooted
    · exact answer_rooted rooted r

end Machine

namespace Script

variable {α : Type} {m : Machine}

/-- Wherever a script ends, the volume is a tree. -/
theorem play_rooted (rooted : m.volume.Rooted) (s : Script α) (outcomes : List Outcome) :
    (s.play outcomes m).2.volume.Rooted := by
  induction s generalizing m outcomes with
  | done a => exact rooted
  | ask r next ih => exact ih _ (Machine.reply_rooted rooted r _) outcomes.tail

/-- So it is wherever a script is stopped. -/
theorem stopped_rooted (rooted : m.volume.Rooted) (s : Script α) (outcomes : List Outcome) :
    (s.stopped outcomes m).volume.Rooted := by
  induction s generalizing m outcomes with
  | done a => exact rooted
  | ask r next ih =>
    cases outcomes with
    | nil => exact rooted
    | cons outcome outcomes => exact ih _ (Machine.reply_rooted rooted r outcome) outcomes

end Script
end Resumption
