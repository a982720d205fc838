import Resumption.Proofs.PathViews
import Resumption.Proofs.WorkRuns

/-! What can be done in a directory that opens. Files under plain names can be written,
made, moved and removed there as long as no directory has their name, and making the
directory again changes nothing. -/
namespace Resumption

namespace Path

/-- The text of some pieces is no longer than that of more pieces. -/
theorem utf8ByteSize_text_append_le (first second : List String) :
    (Path.mk first).text.utf8ByteSize ≤ (Path.mk (first ++ second)).text.utf8ByteSize := by
  show ("/".intercalate first).utf8ByteSize ≤ ("/".intercalate (first ++ second)).utf8ByteSize
  by_cases none : first = []
  · simp [none]
  · by_cases done : second = []
    · simp [done]
    · rw [String.intercalate_append_of_ne_nil none done, String.utf8ByteSize_append,
        String.utf8ByteSize_append]
      omega

theorem text_eq_empty_iff {path : Path} :
    path.text = "" ↔ path.pieces = [] ∨ path.pieces = [""] := by
  obtain ⟨pieces⟩ := path
  match pieces with
  | [] => simp [text]
  | [piece] => simp [text]
  | first :: second :: rest => simp [text]

theorem exists_ancestors_cons (path : Path) : ∃ around, path.ancestors = path :: around := by
  unfold ancestors
  cases path.pieces.length with
  | zero => exact ⟨[], rfl⟩
  | succ fuel => exact ⟨_, rfl⟩

end Path

namespace Volume

variable {v v' : Volume} {directory path : Path} {name source target : String} {content : Bytes}

theorem check_eq_ok_iff {path : Path} :
    check path = .ok () ↔ (∀ piece ∈ path.pieces, '\x00' ∉ piece.toList) ∧ path.text ≠ "" ∧
      path.text.utf8ByteSize ≤ pathLimit := by
  unfold check
  by_cases zero : (path.pieces.any fun piece => piece.toList.contains '\x00') = true
  · rw [if_pos zero]
    refine iff_of_false nofun fun fine => ?_
    obtain ⟨piece, member, found⟩ := List.any_eq_true.mp zero
    exact fine.1 piece member (List.contains_iff_mem.mp found)
  · rw [if_neg zero]
    have fine : ∀ piece ∈ path.pieces, '\x00' ∉ piece.toList := fun piece member found =>
      zero (List.any_eq_true.mpr ⟨piece, member, List.contains_iff_mem.mpr found⟩)
    by_cases empty : path.text = ""
    · simp [empty]
    · by_cases long : pathLimit < path.text.utf8ByteSize
      · simp [empty, long, Nat.not_le.mpr long]
      · simp [empty, long, Nat.not_lt.mp long]
        exact fine

/-- A path that could be followed can be followed from any of its beginnings. -/
theorem check_of_append {first second : List String} (valid : check ⟨first ++ second⟩ = .ok ())
    (filled : (Path.mk first).text ≠ "") : check ⟨first⟩ = .ok () := by
  obtain ⟨clean, -, short⟩ := check_eq_ok_iff.mp valid
  exact check_eq_ok_iff.mpr ⟨fun piece member => clean piece (List.mem_append_left _ member),
    filled, Nat.le_trans (Path.utf8ByteSize_text_append_le first second) short⟩

theorem text_unslashed_ne {path : Path} (filled : path.text ≠ "") :
    (unslashed path).text ≠ "" := by
  unfold unslashed
  split
  · exact filled
  · next ends =>
    intro empty
    rcases Path.text_eq_empty_iff.mp empty with none | slash
    · exact ends none
    · have stops := List.head?_dropWhile_not (fun piece => decide (piece = "")) path.pieces.reverse
      rw [← List.getLast?_reverse, show (path.pieces.reverse.dropWhile _).reverse = [""] from slash]
        at stops
      simp at stops

/-- A path to a directory leads to its place. -/
theorem locate_of_isDirectory (stands : v.isDirectory path = true) :
    v.locate path = .ok path.place ∧ v.get? path.place = some .directory := by
  unfold isDirectory at stands
  split at stands
  · next place located =>
    rw [place_of_locate located]
    exact ⟨located, of_decide_eq_true stands⟩
  · cases stands

/-- A directory that is there is not made again, and that is not because anything is
missing. -/
theorem makeDirectory_of_isDirectory (stands : v.isDirectory path = true) :
    ∃ e, e ≠ .notFound ∧ v.makeDirectory path = .error e := by
  obtain ⟨located, directory⟩ := locate_of_isDirectory stands
  obtain ⟨valid, found⟩ := locate_eq_ok_iff.mp located
  have filled := (check_eq_ok_iff.mp valid).2.1
  unfold makeDirectory locate
  by_cases fine : check (unslashed path) = .ok ()
  · obtain ⟨count, pieces⟩ := pieces_unslashed path
    rw [pieces, follow_append] at found
    obtain ⟨within, found, -⟩ := bind_eq_ok_iff.mp found
    have same : within = path.place := by
      rw [← place_unslashed]
      exact (placeFrom_of_follow found).symm
    refine ⟨.alreadyExists, nofun, ?_⟩
    rw [fine]
    dsimp only [bind, Except.bind]
    rw [found, same]
    dsimp only
    rw [directory]
    rfl
  · obtain ⟨e, other, refused⟩ : ∃ e, e ≠ .notFound ∧ check (unslashed path) = .error e := by
      unfold check at fine ⊢
      rw [if_neg (text_unslashed_ne filled)] at fine ⊢
      split at fine
      · next zero => exact ⟨.invalidName, nofun, if_pos zero⟩
      · next zero =>
        split at fine
        · next long => exact ⟨.nameTooLong, nofun, by rw [if_neg zero, if_pos long]⟩
        · exact absurd rfl fine
    exact ⟨e, other, by rw [refused]; rfl⟩

/-- A name under which a file can be kept in a directory. -/
structure Admits (v : Volume) (directory : Path) (name : String) : Prop where
  opens : v.opens directory
  plain : Path.isPlain name = true
  short : name.utf8ByteSize ≤ nameLimit
  valid : check (directory.child name) = .ok ()

namespace Admits

theorem locate (admits : v.Admits directory name) :
    v.locate (directory.child name) = .ok (directory.child name).place :=
  locate_child admits.opens admits.plain admits.short admits.valid

theorem view (admits : v.Admits directory name) :
    v.view (directory.child name) = v.get? (directory.child name).place := by
  unfold Volume.view
  rw [admits.locate]
  rfl

theorem busy (admits : v.Admits directory name) : name ≠ "" := by
  have plain := admits.plain
  rintro rfl
  cases plain

theorem bare (admits : v.Admits directory name) : endsInSlash (directory.child name) = false := by
  unfold endsInSlash
  rw [Path.pieces_child, List.getLast?_concat]
  simp [admits.busy]

theorem unslashed (admits : v.Admits directory name) :
    Volume.unslashed (directory.child name) = directory.child name :=
  unslashed_of_bare admits.bare

theorem named (admits : v.Admits directory name) : endsInName (directory.child name) = true := by
  unfold endsInName
  rw [admits.unslashed, Path.pieces_child, List.getLast?_concat, Option.any_some]
  exact admits.plain

theorem locateFile (admits : v.Admits directory name) :
    v.locateFile (directory.child name) = .ok (directory.child name).place := by
  unfold Volume.locateFile
  rw [admits.named, admits.bare]
  exact admits.locate

theorem locateAround (admits : v.Admits directory name) :
    ∃ place, v.locateAround (directory.child name) = .ok place := by
  obtain ⟨here, found, stands⟩ := admits.opens.inside
  refine ⟨here, ?_⟩
  unfold Volume.locateAround
  rw [admits.valid, admits.unslashed, Path.pieces_child, List.dropLast_concat]
  show v.follow [] (directory.inside ++ [""]) = .ok here
  rw [follow_append, found]
  exact follow_slashes stands 1

theorem write (admits : v.Admits directory name)
    (free : v.get? (directory.child name).place ≠ some .directory) (content : Bytes) :
    v.write (directory.child name) content =
      .ok (v.put (directory.child name).place (.file content)) := by
  unfold Volume.write
  rw [admits.locateFile]
  dsimp only [bind, Except.bind]
  split
  · next stands => exact absurd stands free
  · rfl

theorem create (admits : v.Admits directory name)
    (absent : v.get? (directory.child name).place = none) :
    v.create (directory.child name) = .ok (v.put (directory.child name).place (.file [])) := by
  unfold Volume.create
  rw [admits.locateFile]
  dsimp only [bind, Except.bind]
  rw [absent]
  rfl

theorem remove (admits : v.Admits directory name)
    (stands : v.get? (directory.child name).place = some (.file content)) :
    v.remove (directory.child name) = .ok (v.drop (directory.child name).place) := by
  unfold Volume.remove
  rw [admits.locate]
  dsimp only [bind, Except.bind]
  rw [stands]
  rfl

theorem move (admits : v.Admits directory source) (admits' : v.Admits directory target)
    (stands : v.get? (directory.child source).place = some (.file content))
    (free : v.get? (directory.child target).place ≠ some .directory) :
    v.move (directory.child source) (directory.child target) =
      .ok ((v.drop (directory.child source).place).put (directory.child target).place
        (.file content)) := by
  obtain ⟨_, around⟩ := admits.locateAround
  obtain ⟨_, around'⟩ := admits'.locateAround
  unfold Volume.move
  rw [around, around', admits.named, admits'.named, admits.locate, admits'.unslashed,
    admits'.locate, admits'.bare]
  dsimp only [bind, Except.bind]
  rw [stands]
  dsimp
  split
  · next stands' => exact absurd stands' free
  · rfl

/-- The directory around a name is there, or its path is empty. -/
theorem parent (admits : v.Admits directory name) :
    ∃ around, (directory.child name).parent? = some around ∧
      (around.text = "" ∨ v.isDirectory around = true) := by
  obtain ⟨here, found, stands⟩ := admits.opens.inside
  obtain ⟨idle, pieces, -⟩ := Path.exists_trimEnd_append directory.inside
  unfold Path.parent?
  rw [Path.last?_child directory admits.plain]
  refine ⟨_, rfl, ?_⟩
  dsimp only
  split
  · exact .inr rfl
  · exact .inl rfl
  · next root none =>
    have filled : (Path.mk (Path.trimEnd directory.inside)).text ≠ "" := by
      intro empty
      rcases Path.text_eq_empty_iff.mp empty with none' | slash
      · exact none none'
      · exact root slash
    rw [pieces, follow_append] at found
    obtain ⟨within, found, rest⟩ := bind_eq_ok_iff.mp found
    have within_stands : v.get? within = some .directory := by
      cases idle with
      | nil =>
        cases rest
        exact stands
      | cons piece idle => exact (follow_cons_cases rest).1
    have valid : check ⟨Path.trimEnd directory.inside⟩ = .ok () := by
      have valid := admits.valid
      rw [show directory.child name = ⟨Path.trimEnd directory.inside ++ (idle ++ [name])⟩ by
        rw [← List.append_assoc, ← pieces, ← Path.pieces_child]] at valid
      exact check_of_append valid filled
    right
    unfold isDirectory
    rw [locate_eq_ok_iff.mpr ⟨valid, found⟩]
    exact decide_eq_true within_stands

/-- A name under which a file can be kept stays one while no directory goes away. -/
theorem later (admits : v.Admits directory name)
    (stay : ∀ other, v.get? other = some .directory → v'.get? other = some .directory) :
    v'.Admits directory name := by
  obtain ⟨here, found, stands⟩ := admits.opens
  exact ⟨⟨here, follow_of_directories stay found, stay here stands⟩, admits.plain, admits.short,
    admits.valid⟩

end Admits

/-- What is left when a file was replaced: the new content at its place, nothing at the
place beside it where the content was first, and all else as it was. -/
structure Replaced (v v' : Volume) (beside place : Place) (content : Bytes) : Prop where
  stands : v'.get? place = some (.file content)
  gone : v'.get? beside = none
  others : ∀ other, other ≠ place → other ≠ beside → v'.get? other = v.get? other

variable {beside place : Place}

/-- What was done to the file beside it before does not matter. -/
theorem Replaced.since {v₀ : Volume} (replaced : Replaced v v' beside place content)
    (agree : ∀ other, other ≠ beside → v.get? other = v₀.get? other) :
    Replaced v₀ v' beside place content :=
  ⟨replaced.stands, replaced.gone, fun other away aside =>
    (replaced.others other away aside).trans (agree other aside)⟩

/-- Replacing a file takes no directory away. -/
theorem Replaced.directories (replaced : Replaced v v' beside place content)
    (free : v.get? beside ≠ some .directory) (free' : v.get? place ≠ some .directory)
    (other : Place) (stands : v.get? other = some .directory) :
    v'.get? other = some .directory := by
  rw [replaced.others other (fun same => free' (same ▸ stands)) fun same => free (same ▸ stands)]
  exact stands

end Volume

namespace Script

variable {m : Machine} {path : Path}

/-- Where the directory is there already, nothing is made. -/
theorem run_makeDirectories_of_isDirectory (stands : m.volume.isDirectory path = true) :
    (makeDirectories path).run m = (.ok (), m) := by
  obtain ⟨e, other, refused⟩ := Volume.makeDirectory_of_isDirectory stands
  obtain ⟨located, -⟩ := Volume.locate_of_isDirectory stands
  have filled := (Volume.check_eq_ok_iff.mp (Volume.locate_eq_ok_iff.mp located).1).2.1
  obtain ⟨around, ancestors⟩ := path.exists_ancestors_cons
  have answered : (request (.makeDirectory path)).run m = (.error e, m) := by
    show m.after (m.volume.makeDirectory path) = _
    rw [refused]
    rfl
  have settled : (makeDirectoriesAlong.settle path (.error e)).run m = (.ok (), m) := by
    show (if m.volume.isDirectory path = true then _ else _ : Script _).run m = _
    rw [if_pos stands]
    rfl
  unfold makeDirectories
  rw [ancestors, makeDirectoriesAlong, if_neg filled, run_bind, answered]
  dsimp only
  split
  · next impossible => cases impossible
  · next impossible => exact absurd (Except.error.inj impossible) other
  · next same =>
    obtain rfl := Except.error.inj same
    exact settled

/-- Nothing has to be made around a name in a directory that opens. -/
theorem run_makeDirectories_of_admits {directory : Path} {name : String}
    (admits : m.volume.Admits directory name) :
    ∃ around, (directory.child name).parent? = some around ∧
      (makeDirectories around).run m = (.ok (), m) := by
  obtain ⟨around, parent, empty | stands⟩ := admits.parent
  · refine ⟨around, parent, ?_⟩
    obtain ⟨outer, ancestors⟩ := around.exists_ancestors_cons
    unfold makeDirectories
    rw [ancestors, makeDirectoriesAlong, if_pos empty]
    rfl
  · exact ⟨around, parent, run_makeDirectories_of_isDirectory stands⟩

end Script

namespace Work

variable {m : Machine} {directory : Path} {source target : String}

/-- In a directory that opens, a file is replaced if no directory has its name or the
name of the file beside it. -/
theorem run_replace (beside : m.volume.Admits directory source)
    (admits : m.volume.Admits directory target) (differ : source ≠ target)
    (free : m.volume.get? (directory.child source).place ≠ some .directory)
    (free' : m.volume.get? (directory.child target).place ≠ some .directory)
    (content : Bytes) (writing moving : Step) :
    ∃ volume, (do
        Work.step writing (Script.request (.write (directory.child source) content))
        Work.step moving (Script.request
          (.move (directory.child source) (directory.child target)))).run.run m =
        (.ok (), { m with volume }) ∧
      m.volume.Replaced volume (directory.child source).place (directory.child target).place
        content := by
  have apart := Path.place_child_ne directory beside.plain admits.plain differ
  have inside := Volume.ne_nil_of_free free
  have inside' := Volume.ne_nil_of_free free'
  let written := m.volume.put (directory.child source).place (.file content)
  let moved := (written.drop (directory.child source).place).put (directory.child target).place
    (.file content)
  have write : (Script.request (.write (directory.child source) content)).run m =
      (.ok (), { m with volume := written }) := by
    show m.after (m.volume.write (directory.child source) content) = _
    rw [beside.write free content]
    rfl
  have stay := Volume.directories_put free (.file content)
  have move : (Script.request (.move (directory.child source) (directory.child target))).run
      { m with volume := written } = (.ok (), { m with volume := moved }) := by
    show Machine.after _ (written.move (directory.child source) (directory.child target)) = _
    rw [(beside.later stay).move (admits.later stay)]
    · rfl
    · rw [Volume.get?_put _ _ _ _ inside, if_pos rfl]
    · rw [Volume.get?_put _ _ _ _ inside, if_neg apart.symm]
      exact free'
  refine ⟨moved, ?_, ?_⟩
  · rw [run_bind_ok (run_step_ok write writing)]
    exact run_step_ok move moving
  · constructor
    · rw [Volume.get?_put _ _ _ _ inside', if_pos rfl]
    · rw [Volume.get?_put _ _ _ _ inside', if_neg apart, Volume.get?_drop _ _ _ inside, if_pos rfl]
    · intro other away aside
      rw [Volume.get?_put _ _ _ _ inside', if_neg away, Volume.get?_drop _ _ _ inside,
        if_neg aside, Volume.get?_put _ _ _ _ inside, if_neg aside]

end Work
end Resumption
