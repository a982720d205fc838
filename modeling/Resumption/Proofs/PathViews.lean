import Resumption.Proofs.FileReplacement
import Resumption.Proofs.PathPieces
import Resumption.Proofs.VolumeTree

/-! What stands where a path leads, and what work beside the path does not change.
Files elsewhere do not matter to a path. Directories do: a path that leads into a
directory and back out of it leads nowhere until that directory is made. Only such
a path shows something new when the directories around it are made. What it shows
then was there before, since work beside a path brings no file to its place. -/
namespace Resumption

namespace Path

/-- Whether a piece can be followed in a directory. -/
def fits (piece : String) : Bool :=
  isIdle piece || piece = ".." || piece.utf8ByteSize ≤ nameLimit

theorem placeFrom_cons (here : Place) (piece : String) (pieces : List String) :
    placeFrom here (piece :: pieces) = placeFrom (placeFrom here [piece]) pieces :=
  placeFrom_append here [piece] pieces

/-- Without two dots every piece leads further inside. -/
theorem placeFrom_of_forward {pieces : List String} (forward : ".." ∉ pieces) (here : Place) :
    placeFrom here pieces = here ++ pieces.filter fun piece => !isIdle piece := by
  induction pieces generalizing here with
  | nil => simp [placeFrom]
  | cons piece pieces ih =>
    obtain ⟨first, rest⟩ := not_or.mp (mt List.mem_cons.mpr forward)
    rw [placeFrom, if_neg (Ne.symm first)]
    cases idle : isIdle piece with
    | true => simp [idle, ih rest]
    | false => simp [idle, ih rest]

end Path

namespace Volume

variable {v v' : Volume} {path a : Path} {here place : Place} {pieces : List String}
  {content : Bytes}

/-- What stands where pieces lead. -/
def viewFrom (v : Volume) (here : Place) (pieces : List String) : Option Entry :=
  (v.follow here pieces).toOption.bind v.get?

/-- What stands where a path leads. -/
def view (v : Volume) (path : Path) : Option Entry :=
  (v.locate path).toOption.bind v.get?

theorem isPresent_eq_view (v : Volume) (path : Path) :
    v.isPresent path = (v.view path).isSome := by
  unfold isPresent view
  cases v.locate path <;> rfl

theorem read_of_view (v : Volume) (path : Path) :
    v.view path = some .directory ∧ v.read path = .error .isDirectory ∨
      (∃ content, v.view path = some (.file content) ∧ v.read path = .ok content) ∨
      v.view path = none ∧ ∃ e, v.read path = .error e := by
  unfold view read
  cases v.locate path with
  | error e => exact .inr (.inr ⟨rfl, e, rfl⟩)
  | ok place =>
    simp only [Except.toOption, Option.bind_some, bind, Except.bind]
    cases v.get? place with
    | none => exact .inr (.inr ⟨rfl, .notFound, rfl⟩)
    | some entry =>
      cases entry with
      | directory => exact .inl ⟨rfl, rfl⟩
      | file content => exact .inr (.inl ⟨content, rfl, rfl⟩)

theorem read_eq_ok_iff_view : v.read path = .ok content ↔ v.view path = some (.file content) := by
  rcases read_of_view v path with ⟨stands, reads⟩ | ⟨content', stands, reads⟩ | ⟨stands, e, reads⟩
  all_goals simp [stands, reads, eq_comm]

/-- A file under a path stands at the place that the path spells. -/
theorem get?_of_view (stands : v.view path = some (.file content)) :
    v.get? path.place = some (.file content) :=
  (read_eq_ok_iff.mp (read_eq_ok_iff_view.mpr stands)).2

/-- What is there reads alike where paths show the same. -/
theorem read_congr (same : v'.view path = v.view path) (present : v.isPresent path = true) :
    v'.read path = v.read path := by
  rw [isPresent_eq_view] at present
  rcases read_of_view v path with ⟨stands, reads⟩ | ⟨content, stands, reads⟩ | ⟨stands, -⟩
  · rcases read_of_view v' path with ⟨-, reads'⟩ | ⟨_, stands', -⟩ | ⟨stands', -⟩
    · rw [reads, reads']
    · simp [same, stands] at stands'
    · simp [same, stands] at stands'
  · rw [reads, read_eq_ok_iff_view.mpr (same.trans stands)]
  · simp [stands] at present

/-- Whether a path can be followed at all does not depend on the volume. -/
theorem view_congr (same : v'.viewFrom [] path.pieces = v.viewFrom [] path.pieces) :
    v'.view path = v.view path := by
  unfold view locate
  cases check path with
  | error e => rfl
  | ok u => exact same

/-! Following pieces in two volumes -/

theorem viewFrom_cons (v : Volume) (here : Place) (piece : String) (pieces : List String) :
    v.viewFrom here (piece :: pieces) =
      if v.get? here = some .directory ∧ Path.fits piece = true then
        v.viewFrom (Path.placeFrom here [piece]) pieces
      else none := by
  unfold viewFrom
  simp only [follow, Path.placeFrom, Path.fits]
  cases v.get? here with
  | none => simp [Except.toOption]
  | some entry =>
    cases entry with
    | file content => simp [Except.toOption]
    | directory =>
      by_cases idle : Path.isIdle piece = true
      · simp [idle]
      · by_cases back : piece = ".."
        · simp [back, show Path.isIdle ".." = false from rfl]
        · by_cases long : nameLimit < piece.utf8ByteSize
          · simp [idle, back, long, Nat.not_le.mpr long, Except.toOption]
          · simp [idle, back, long, not_lt.mp long]

/-- Volumes with the same directories differ in what a path leads to only where they
differ at its place. -/
theorem viewFrom_of_same_directories
    (same : ∀ other, v'.get? other = some .directory ↔ v.get? other = some .directory)
    (stands : v'.get? (Path.placeFrom here pieces) = v.get? (Path.placeFrom here pieces)) :
    v'.viewFrom here pieces = v.viewFrom here pieces := by
  induction pieces generalizing here with
  | nil => exact stands
  | cons piece pieces ih =>
    rw [Path.placeFrom_cons] at stands
    simp only [viewFrom_cons, same, ih stands]

theorem directories_put_file (free : v.get? place ≠ some .directory) (content : Bytes)
    (other : Place) :
    (v.put place (.file content)).get? other = some .directory ↔
      v.get? other = some .directory := by
  rw [get?_put _ _ _ _ (ne_nil_of_free free)]
  split
  · next same => simp [same, free]
  · rfl

theorem directories_drop_file (free : v.get? place ≠ some .directory) (other : Place) :
    (v.drop place).get? other = some .directory ↔ v.get? other = some .directory := by
  rw [get?_drop _ _ _ (ne_nil_of_free free)]
  split
  · next same => simp [same, free]
  · rfl

/-! Paths that do not turn back -/

/-- Whether pieces do not lead back with two dots out of a directory that is not
there. -/
def isDirectFrom (v : Volume) : (here : Place) → (pieces : List String) → Bool
  | _, [] => true
  | here, piece :: pieces =>
    match v.get? here with
    | some .directory => v.isDirectFrom (Path.placeFrom here [piece]) pieces
    | some (.file _) => true
    | none => !(piece :: pieces).contains ".."

/-- Whether a path does not lead back with two dots out of a directory that is not
there. -/
def isDirect (v : Volume) (path : Path) : Bool :=
  v.isDirectFrom [] path.pieces

theorem isDirectFrom_of_forward (forward : ".." ∉ pieces) : v.isDirectFrom here pieces = true := by
  induction pieces generalizing here with
  | nil => rfl
  | cons piece pieces ih =>
    unfold isDirectFrom
    split
    · exact ih fun back => forward (List.mem_cons_of_mem _ back)
    · rfl
    · simpa using forward

theorem isDirectFrom_append {first : List String} (found : v.follow here first = .ok place)
    (second : List String) :
    v.isDirectFrom here (first ++ second) = v.isDirectFrom place second := by
  induction first generalizing here with
  | nil => rw [← Except.ok.inj found, List.nil_append]
  | cons piece first ih =>
    obtain ⟨stands, rest, -⟩ := follow_cons_cases found
    rw [List.cons_append, isDirectFrom, stands]
    exact ih rest

/-- One more piece that leads further inside changes nothing. -/
theorem isDirectFrom_concat {name : String} (forward : name ≠ "..") :
    v.isDirectFrom here (pieces ++ [name]) = v.isDirectFrom here pieces := by
  induction pieces generalizing here with
  | nil => exact isDirectFrom_of_forward (by simpa using forward.symm)
  | cons piece pieces ih =>
    rw [List.cons_append, isDirectFrom, isDirectFrom]
    cases v.get? here with
    | none => simp [forward.symm]
    | some entry =>
      cases entry with
      | directory => exact ih
      | file content => rfl

/-- A path into a directory turns back where the path of the directory does. -/
theorem isDirect_child (directory : Path) {name : String} (plain : Path.isPlain name = true) :
    v.isDirect (directory.child name) = v.isDirect directory := by
  have forward : name ≠ ".." := by
    rintro rfl
    cases plain
  have inside : v.isDirectFrom [] directory.inside = v.isDirect directory := by
    unfold Path.inside
    split
    · next slash =>
      have pieces := List.dropLast_append_getLast? "" slash
      rw [isDirect, ← pieces, isDirectFrom_concat (by decide), pieces]
    · rfl
  rw [isDirect, Path.pieces_child, isDirectFrom_concat forward, inside]

/-- A path that leads to something does not turn back. -/
theorem isDirect_of_view (stands : v.view path ≠ none) : v.isDirect path = true := by
  unfold view at stands
  cases located : v.locate path with
  | error e => simp [located, Except.toOption] at stands
  | ok place =>
    have rest := isDirectFrom_append (locate_eq_ok_iff.mp located).2 []
    rwa [List.append_nil] at rest

/-- A path does not turn back if its last name stands in a directory that is there. -/
theorem isDirect_of_last? {before : List String} {name : String}
    (last : path.last? = some (before, name)) (found : v.follow [] before = .ok place)
    (stands : v.get? place = some .directory) : v.isDirect path = true := by
  obtain ⟨idle, pieces, meaningless⟩ := Path.pieces_of_last? last
  have forward : ".." ∉ idle := fun back => absurd (meaningless _ back) (by decide)
  rw [isDirect, pieces, isDirectFrom_append found, isDirectFrom, stands]
  exact isDirectFrom_of_forward forward

theorem isDirectFrom_put_file (free : v.get? place ≠ some .directory) (content : Bytes)
    (direct : v.isDirectFrom here pieces = true) :
    (v.put place (.file content)).isDirectFrom here pieces = true := by
  induction pieces generalizing here with
  | nil => rfl
  | cons piece pieces ih =>
    unfold isDirectFrom at direct ⊢
    rw [get?_put _ _ _ _ (ne_nil_of_free free)]
    by_cases same : here = place
    · rw [if_pos same]
    · rw [if_neg same]
      cases stands : v.get? here with
      | none => rwa [stands] at direct
      | some entry =>
        rw [stands] at direct
        cases entry with
        | directory => exact ih direct
        | file content => rfl

theorem isDirectFrom_put_directory (free : v.get? place = none)
    (direct : v.isDirectFrom here pieces = true) :
    (v.put place .directory).isDirectFrom here pieces = true := by
  have bare : v.get? place ≠ some .directory := by simp [free]
  induction pieces generalizing here with
  | nil => rfl
  | cons piece pieces ih =>
    unfold isDirectFrom at direct ⊢
    rw [get?_put _ _ _ _ (ne_nil_of_free bare)]
    by_cases same : here = place
    · rw [same, free] at direct
      rw [if_pos same]
      refine isDirectFrom_of_forward fun back => ?_
      simp [back] at direct
    · rw [if_neg same]
      cases stands : v.get? here with
      | none => rwa [stands] at direct
      | some entry =>
        rw [stands] at direct
        cases entry with
        | directory => exact ih direct
        | file content => rfl

theorem viewFrom_of_free (free : v.get? (Path.placeFrom here pieces) = none) :
    v.viewFrom here pieces = none := by
  unfold viewFrom
  cases found : v.follow here pieces with
  | error e => rfl
  | ok place => exact placeFrom_of_follow found ▸ free

/-- A new directory shows nothing new under pieces that do not turn back, because
there is nothing inside it yet. -/
theorem viewFrom_put_directory (rooted : v.Rooted) (free : v.get? place = none)
    (direct : v.isDirectFrom here pieces = true) (apart : Path.placeFrom here pieces ≠ place) :
    (v.put place .directory).viewFrom here pieces = v.viewFrom here pieces := by
  have bare : v.get? place ≠ some .directory := by simp [free]
  have elsewhere : ∀ other, other ≠ place →
      (v.put place .directory).get? other = v.get? other := fun other away => by
    rw [get?_put _ _ _ _ (ne_nil_of_free bare), if_neg away]
  induction pieces generalizing here with
  | nil => exact elsewhere here apart
  | cons piece pieces ih =>
    by_cases same : here = place
    · -- The path leads on from the new directory, and always further inside.
      subst same
      have forward : ".." ∉ piece :: pieces := by
        intro back
        simp only [isDirectFrom, free, List.contains_iff_mem.mpr back] at direct
        cases direct
      have inside := Path.placeFrom_of_forward forward here
      have filled : (piece :: pieces).filter (fun piece => !Path.isIdle piece) ≠ [] :=
        fun none => apart (by rw [inside, none, List.append_nil])
      have below := rooted.get?_below bare filled
      rw [viewFrom_of_free, viewFrom_of_free]
      · rw [inside, below]
      · rw [elsewhere _ apart, inside, below]
    · rw [Path.placeFrom_cons] at apart
      rw [viewFrom_cons, viewFrom_cons, elsewhere here same]
      by_cases stands : v.get? here = some .directory
      · rw [isDirectFrom, stands] at direct
        rw [ih direct apart]
      · simp [stands]

/-! Work beside a path -/

/-- What stands under a path that does not turn back stays the same, and the path
goes on not to turn back. -/
def Steady (path : Path) (v v' : Volume) : Prop :=
  v.Rooted → v.isDirect path = true →
    v'.Rooted ∧ v'.isDirect path = true ∧ v'.view path = v.view path

theorem Steady.refl (path : Path) (v : Volume) : Steady path v v :=
  fun rooted direct => ⟨rooted, direct, rfl⟩

theorem Steady.trans {v'' : Volume} (first : Steady path v v') (second : Steady path v' v'') :
    Steady path v v'' := by
  intro rooted direct
  obtain ⟨rooted', direct', same⟩ := first rooted direct
  obtain ⟨rooted'', direct'', same'⟩ := second rooted' direct'
  exact ⟨rooted'', direct'', same'.trans same⟩

theorem put_file_steady (free : v.get? place ≠ some .directory) (apart : path.place ≠ place)
    (rooted : (v.put place (.file content)).Rooted) :
    Steady path v (v.put place (.file content)) := by
  refine fun _ direct => ⟨rooted, isDirectFrom_put_file free content direct, view_congr ?_⟩
  refine viewFrom_of_same_directories (directories_put_file free content) ?_
  rw [get?_put _ _ _ _ (ne_nil_of_free free)]
  exact if_neg apart

/-- A directory around a path is new only to paths that turn back. -/
theorem makeDirectory_steady (encloses : a.Encloses path)
    (done : v.makeDirectory a = .ok v') : Steady path v v' := by
  intro rooted direct
  have rooted' := rooted.makeDirectory done
  obtain ⟨found, free, rfl⟩ := makeDirectory_eq_ok done
  refine ⟨rooted', isDirectFrom_put_directory free direct, view_congr ?_⟩
  refine viewFrom_put_directory rooted free direct ?_
  rcases encloses with root | ⟨rest, pieces, piece, member, busy⟩
  · rw [root, get?_root] at free
    cases free
  · -- The directory is missing, so the path goes on inside it.
    rw [isDirect, pieces, isDirectFrom_append found] at direct
    obtain ⟨first, more, rfl⟩ := List.exists_cons_of_ne_nil (List.ne_nil_of_mem member)
    have forward : ".." ∉ first :: more := by
      intro back
      simp only [isDirectFrom, free, List.contains_iff_mem.mpr back] at direct
      cases direct
    rw [pieces, Path.placeFrom_append, placeFrom_of_follow found,
      Path.placeFrom_of_forward forward]
    intro same
    have kept : piece ∈ (first :: more).filter fun piece => !Path.isIdle piece :=
      List.mem_filter.mpr ⟨member, by simp [busy]⟩
    rw [List.self_eq_append_right.mp same.symm] at kept
    cases kept

theorem endsInName_of_locateFile (found : v.locateFile path = .ok place) :
    endsInName path = true := by
  unfold locateFile at found
  split at found
  · next named =>
    rw [Bool.and_eq_true] at named
    exact named.1
  · cases around : v.locateAround path <;> rw [around] at found <;> cases found

/-- What does not end in a name leads to a directory. -/
theorem get?_of_nameless (rooted : v.Rooted) (nameless : endsInName path = false)
    (located : v.locate path = .ok place) : v.get? place = some .directory := by
  obtain ⟨count, pieces⟩ := pieces_unslashed path
  have found := (locate_eq_ok_iff.mp located).2
  unfold endsInName at nameless
  rcases List.eq_nil_or_concat (unslashed path).pieces with empty | ⟨before, last, ends⟩
  · rw [pieces, empty, List.nil_append] at found
    rw [← placeFrom_of_follow found, Path.placeFrom_slashes]
    exact get?_root v
  · rw [List.concat_eq_append] at ends
    rw [pieces, ends, List.append_assoc, List.singleton_append, follow_append] at found
    obtain ⟨within, -, found⟩ := bind_eq_ok_iff.mp found
    obtain ⟨stands, rest, -⟩ := follow_cons_cases found
    rw [← placeFrom_of_follow rest, Path.placeFrom_slashes]
    rw [ends, List.getLast?_concat, Option.any_some] at nameless
    simp only [Path.placeFrom]
    split
    · exact stands
    · next busy =>
      have back : last = ".." := by simpa [busy] using nameless
      rw [if_pos back]
      exact rooted within (by simp [stands])

section Beside

variable {extension : String} (dotted : '.' ∈ extension.toList) (long : 2 ≤ extension.length)
include dotted long

/-- A file that can be written beside a path is not the file under the path. -/
theorem place_ne_of_endsInName (named : endsInName (path.withExtension extension) = true) :
    path.place ≠ (path.withExtension extension).place := by
  rcases path.withExtension_cases dotted long with ⟨-, -, -, -, -, apart⟩ | ⟨same, nameless⟩
  · exact apart.symm
  · rw [same, nameless] at named
    cases named

theorem place_ne_of_write (done : v.write (path.withExtension extension) content = .ok v') :
    path.place ≠ (path.withExtension extension).place := by
  obtain ⟨place, found, -⟩ := bind_eq_ok_iff.mp done
  exact place_ne_of_endsInName dotted long (endsInName_of_locateFile found)

theorem place_ne_of_create (done : v.create (path.withExtension extension) = .ok v') :
    path.place ≠ (path.withExtension extension).place := by
  obtain ⟨place, found, -⟩ := bind_eq_ok_iff.mp done
  exact place_ne_of_endsInName dotted long (endsInName_of_locateFile found)

theorem write_bringsNoFile (done : v.write (path.withExtension extension) content = .ok v') :
    BringsNoFile path.place v v' :=
  (write_keeps done (place_ne_of_write dotted long done).symm).bringsNoFile

theorem create_bringsNoFile (done : v.create (path.withExtension extension) = .ok v') :
    BringsNoFile path.place v v' :=
  (create_keeps done (place_ne_of_create dotted long done).symm).bringsNoFile

theorem write_steady (done : v.write (path.withExtension extension) content = .ok v') :
    Steady path v v' := by
  intro rooted
  have rooted' := rooted.write done
  have apart := place_ne_of_write dotted long done
  obtain ⟨free, rfl⟩ := write_eq_ok done
  exact put_file_steady free apart rooted' rooted

theorem create_steady (done : v.create (path.withExtension extension) = .ok v') :
    Steady path v v' := by
  intro rooted
  have rooted' := rooted.create done
  have apart := place_ne_of_create dotted long done
  obtain ⟨free, rfl⟩ := create_eq_ok done
  exact put_file_steady (by simp [free]) apart rooted' rooted

/-- A file beside the path is removed from a directory that the path leads through. -/
theorem remove_steady (done : v.remove (path.withExtension extension) = .ok v') :
    Steady path v v' := by
  intro rooted direct
  have rooted' := rooted.remove done
  obtain ⟨other, located, -⟩ := bind_eq_ok_iff.mp done
  obtain ⟨⟨content, stands⟩, rfl⟩ := remove_eq_ok done
  have free : v.get? (path.withExtension extension).place ≠ some .directory := by simp [stands]
  rcases path.withExtension_cases dotted long with ⟨before, name, last, -, beside, apart⟩ | other
  · refine ⟨rooted', ?_, view_congr ?_⟩
    · have found := (locate_eq_ok_iff.mp located).2
      rw [beside, follow_append] at found
      obtain ⟨within, found, behind⟩ := bind_eq_ok_iff.mp found
      have stay := directories_drop free
      exact isDirect_of_last? last (follow_of_directories stay found)
        (stay within (follow_cons_cases behind).1)
    · refine viewFrom_of_same_directories (directories_drop_file free) ?_
      rw [get?_drop _ _ _ (ne_nil_of_free free)]
      exact if_neg apart.symm
  · obtain ⟨same, nameless⟩ := other
    rw [same] at located free
    rw [place_of_locate located] at free
    exact absurd (get?_of_nameless rooted nameless located) free

end Beside
end Volume

namespace Machine

variable {m m' : Machine} {path a : Path} {r : Request}

/-- What stands under a path that does not turn back stays the same. Whether it turns
back or not, no file arrives where it leads. Keys are drawn from the same source. -/
structure Steady (path : Path) (m m' : Machine) : Prop where
  volume : Volume.Steady path m.volume m'.volume
  arrivals : Volume.BringsNoFile path.place m.volume m'.volume
  keys : m'.keys = m.keys
  drawn : m.drawn ≤ m'.drawn

theorem Steady.refl (path : Path) (m : Machine) : Steady path m m :=
  ⟨.refl path m.volume, .refl path.place m.volume, rfl, Nat.le_refl _⟩

theorem Steady.trans {m'' : Machine} (first : Steady path m m') (second : Steady path m' m'') :
    Steady path m m'' :=
  ⟨first.volume.trans second.volume, first.arrivals.trans second.arrivals,
    second.keys.trans first.keys, Nat.le_trans first.drawn second.drawn⟩

private theorem after_steady {changed : Except StorageError Volume}
    (steady : ∀ volume, changed = .ok volume → Volume.Steady path m.volume volume)
    (arrivals : ∀ volume, changed = .ok volume →
      Volume.BringsNoFile path.place m.volume volume) :
    Steady path m (m.after changed).2 := by
  rcases m.after_cases changed with ⟨e, same⟩ | ⟨volume, done, same⟩ <;> rw [same]
  · exact .refl path m
  · exact ⟨steady volume done, arrivals volume done, rfl, Nat.le_refl _⟩

/-- Drawing a key touches no file. -/
theorem steady_drawKey (path : Path) (m : Machine) :
    Steady path m (m.answer .drawKey).2 :=
  ⟨.refl path m.volume, .refl path.place m.volume, rfl, Nat.le_succ _⟩

theorem reply_makeDirectory_steady (encloses : a.Encloses path) (m : Machine)
    (outcome : Outcome) : Steady path m (m.reply (.makeDirectory a) outcome).2 := by
  cases outcome with
  | served =>
    exact after_steady (fun _ => Volume.makeDirectory_steady encloses)
      fun _ done => (Volume.makeDirectory_keeps done).bringsNoFile
  | failed left e => exact .refl path m

section Beside

variable {extension : String} (dotted : '.' ∈ extension.toList) (long : 2 ≤ extension.length)
include dotted long

theorem answer_steady (beside : r.isBeside (path.withExtension extension) = true) (m : Machine) :
    Steady path m (m.answer r).2 := by
  cases r with
  | isPresent _ | isDirectory _ | read _ => exact .refl path m
  | drawKey => exact steady_drawKey path m
  | makeDirectory _ | move _ _ => cases beside
  | write file content =>
    obtain rfl := of_decide_eq_true beside
    exact after_steady (fun _ => Volume.write_steady dotted long)
      fun _ => Volume.write_bringsNoFile dotted long
  | create file =>
    obtain rfl := of_decide_eq_true beside
    exact after_steady (fun _ => Volume.create_steady dotted long)
      fun _ => Volume.create_bringsNoFile dotted long
  | remove file =>
    obtain rfl := of_decide_eq_true beside
    exact after_steady (fun _ => Volume.remove_steady dotted long)
      fun _ => Volume.remove_bringsNoFile

private theorem spoil_steady (beside : r.isBeside (path.withExtension extension) = true)
    (m : Machine) (left : Option Bytes) : Steady path m (m.spoil r left) := by
  unfold spoil
  split
  · next left => exact answer_steady (r := .write _ left) dotted long beside m
  · exact .refl path m

/-- However a request beside the path turns out, the path shows what it showed. -/
theorem reply_steady (beside : r.isBeside (path.withExtension extension) = true) (m : Machine)
    (outcome : Outcome) : Steady path m (m.reply r outcome).2 := by
  unfold reply
  split
  · exact answer_steady dotted long beside m
  · split
    · exact spoil_steady dotted long beside m _
    · exact answer_steady dotted long beside m

/-- Work around and beside a path leaves what stands there. -/
theorem framing_steady (path : Path) :
    Framing path (path.withExtension extension) (Steady path) where
  refl := .refl path
  trans _ _ _ := .trans
  around _ parent _ around := reply_makeDirectory_steady (Path.encloses_of_parent? parent around)
  beside _ beside := reply_steady dotted long beside

end Beside

end Machine
end Resumption
