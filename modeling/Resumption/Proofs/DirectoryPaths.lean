import Mathlib.Data.List.Basic
import Resumption.Proofs.VolumeFrame

/-! The files of one directory have different names, and therefore different
places wherever the directory lies. A directory that opens stays open while it
is kept, so a file that is missing there is missing, and not just out of reach. -/
namespace Resumption

namespace Path

/-- The pieces on the way into a directory, without a slash at the end. -/
def inside (directory : Path) : List String :=
  if directory.pieces.getLast? = some "" then directory.pieces.dropLast else directory.pieces

/-- Whether a name stands for an entry of the directory it is looked up in. -/
def isPlain (name : String) : Bool :=
  !isIdle name && name ≠ ".."

theorem pieces_child (directory : Path) (name : String) :
    (directory.child name).pieces = directory.inside ++ [name] := by
  unfold child join inside
  simp only [isAbsolute, Bool.false_eq_true, if_false]
  split <;> rfl

theorem place_child (directory : Path) {name : String} (plain : isPlain name = true) :
    (directory.child name).place = placeFrom [] directory.inside ++ [name] := by
  simp only [isPlain, Bool.and_eq_true, Bool.not_eq_true', decide_eq_true_eq] at plain
  rw [place, pieces_child, placeFrom_append]
  simp only [placeFrom, plain.1, Bool.false_eq_true, if_false, if_neg plain.2]

/-- Different names in one directory have different places. -/
theorem place_child_ne (directory : Path) {first second : String} (plain : isPlain first = true)
    (plain' : isPlain second = true) (differ : first ≠ second) :
    (directory.child first).place ≠ (directory.child second).place := by
  rw [place_child directory plain, place_child directory plain']
  intro same
  exact differ (List.singleton_inj.mp (List.append_cancel_left same))

theorem trimEnd_append_plain (before : List String) {name : String} (plain : isPlain name = true) :
    trimEnd (before ++ [name]) = before ++ [name] := by
  have busy : isIdle name = false := by
    simp only [isPlain, Bool.and_eq_true, Bool.not_eq_true'] at plain
    exact plain.1
  cases before with
  | nil => rfl
  | cons first rest =>
    have stops : (rest ++ [name]).reverse.dropWhile isIdle = name :: rest.reverse := by
      rw [List.reverse_append, List.reverse_singleton, List.singleton_append,
        List.dropWhile_cons_of_neg (by simp [busy])]
    rw [List.cons_append, trimEnd, stops, List.reverse_cons, List.reverse_reverse]

theorem last?_child (directory : Path) {name : String} (plain : isPlain name = true) :
    (directory.child name).last? = some (directory.inside, name) := by
  have named : name ≠ "" := by
    rintro rfl
    cases plain
  unfold last?
  simp only [pieces_child, trimEnd_append_plain directory.inside plain, List.getLast?_concat,
    List.dropLast_concat]

/-- Another extension makes another name in the same directory. -/
theorem withExtension_child (directory : Path) {name : String} (plain : isPlain name = true)
    (extension : String) :
    (directory.child name).withExtension extension =
      directory.child (stem name ++ "." ++ extension) := by
  have apart : name ≠ ".." ∧ name ≠ "." := by
    constructor <;> (rintro rfl; cases plain)
  have pieces : ⟨directory.inside ++ [stem name ++ "." ++ extension]⟩ =
      directory.child (stem name ++ "." ++ extension) := by
    rw [← pieces_child]
  unfold withExtension
  rw [last?_child directory plain]
  split
  · next impossible => cases impossible
  · next impossible => exact absurd (Prod.mk.inj (Option.some.inj impossible)).2 apart.1
  · next found =>
    cases found
    rw [if_neg fun bare => apart.2 bare.2, pieces]

end Path

namespace Volume

variable {v v' : Volume} {directory : Path} {place : Place} {name : String}

/-- A directory that can be entered. -/
def opens (v : Volume) (directory : Path) : Prop :=
  ∃ here, v.follow [] directory.pieces = .ok here ∧ v.get? here = some .directory

theorem Keeps.opens (keeps : Keeps place v v') (open' : v.opens directory) :
    v'.opens directory := by
  obtain ⟨here, found, stands⟩ := open'
  exact ⟨here, follow_of_directories keeps.directories found, keeps.directories here stands⟩

theorem opens_of_isDirectory (answer : v.isDirectory directory = true) : v.opens directory := by
  unfold isDirectory at answer
  split at answer
  · next here located =>
    exact ⟨here, (locate_eq_ok_iff.mp located).2, of_decide_eq_true answer⟩
  · cases answer

theorem opens_of_makeDirectory (done : v.makeDirectory directory = .ok v') :
    v'.opens directory := by
  obtain ⟨found, free, rfl⟩ := makeDirectory_eq_ok done
  obtain ⟨count, pieces⟩ := pieces_unslashed directory
  have empty : v.get? directory.place ≠ some .directory := by simp [free]
  have stands : (v.put directory.place .directory).get? directory.place = some .directory := by
    rw [get?_put _ _ _ _ (ne_nil_of_free empty), if_pos rfl]
  have found' := follow_of_directories (directories_put empty .directory) found
  refine ⟨directory.place, ?_, stands⟩
  rw [pieces, follow_append, found']
  exact follow_slashes stands count

/-- The empty path is the root. -/
theorem opens_of_text_eq_empty (v : Volume) (empty : directory.text = "") : v.opens directory := by
  obtain ⟨pieces⟩ := directory
  match pieces with
  | [] => exact ⟨[], rfl, by simp [get?]⟩
  | [piece] =>
    have empty : piece = "" := by simpa [Path.text] using empty
    exact ⟨[], by simp [follow, get?, empty, Path.isIdle], by simp [get?]⟩
  | first :: second :: rest =>
    simp [Path.text] at empty

theorem opens.inside (open' : v.opens directory) :
    ∃ here, v.follow [] directory.inside = .ok here ∧ v.get? here = some .directory := by
  obtain ⟨here, found, stands⟩ := open'
  unfold Path.inside
  split
  · next slash =>
    rw [← List.dropLast_append_getLast? "" slash, follow_append] at found
    obtain ⟨within, before, behind⟩ := bind_eq_ok_iff.mp found
    refine ⟨within, before, ?_⟩
    simp only [follow] at behind
    split at behind
    · cases behind
    · cases behind
    · assumption
  · exact ⟨here, found, stands⟩

/-- In a directory that opens, every valid path of a name leads to its place. -/
theorem locate_child (open' : v.opens directory) (plain : Path.isPlain name = true)
    (short : name.utf8ByteSize ≤ nameLimit) (valid : check (directory.child name) = .ok ()) :
    v.locate (directory.child name) = .ok (directory.child name).place := by
  obtain ⟨within, found, stands⟩ := open'.inside
  simp only [Path.isPlain, Bool.and_eq_true, Bool.not_eq_true', decide_eq_true_eq] at plain
  have further : v.follow within [name] = .ok (within ++ [name]) := by
    simp only [follow, stands, plain.1, Bool.false_eq_true, if_false, if_neg plain.2,
      if_neg (not_lt.mpr short)]
  have reached : v.follow [] (directory.child name).pieces = .ok (within ++ [name]) := by
    rw [Path.pieces_child, follow_append, found]
    exact further
  rw [Path.place, placeFrom_of_follow reached]
  exact locate_eq_ok_iff.mpr ⟨valid, reached⟩

/-- A file that is missing in a directory that opens stays missing while its
place is kept. -/
theorem Keeps.missing (open' : v.opens directory) (plain : Path.isPlain name = true)
    (short : name.utf8ByteSize ≤ nameLimit) (absent : v.isPresent (directory.child name) = false)
    (keeps : Keeps (directory.child name).place v v') (content : Bytes) :
    v'.read (directory.child name) ≠ .ok content := by
  intro reads
  obtain ⟨located, stands⟩ := read_eq_ok_iff.mp reads
  have located := locate_child open' plain short (locate_eq_ok_iff.mp located).1
  unfold isPresent at absent
  simp [located, (keeps.file content).mp stands] at absent

end Volume
end Resumption
