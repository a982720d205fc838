import Resumption.Proofs.DirectoryPaths

/-! What the pieces of a path say about the paths made from it: the name it ends
in, the directories around it, and the path of a file beside it. All of it holds
of the pieces alone, whatever a volume holds. -/
namespace Resumption.Path

variable {path directory a : Path} {before : List String} {name : String} {here : Place}

theorem placeFrom_idle {pieces : List String} (idle : ∀ piece ∈ pieces, isIdle piece = true) :
    placeFrom here pieces = here := by
  induction pieces with
  | nil => rfl
  | cons piece pieces ih =>
    rw [placeFrom, if_pos (idle piece List.mem_cons_self)]
    exact ih fun other found => idle other (List.mem_cons_of_mem _ found)

/-! The last piece with a meaning -/

theorem exists_trimEnd_append (pieces : List String) :
    ∃ idle, pieces = trimEnd pieces ++ idle ∧ ∀ piece ∈ idle, isIdle piece = true := by
  cases pieces with
  | nil => exact ⟨[], rfl, nofun⟩
  | cons first rest =>
    refine ⟨(rest.reverse.takeWhile isIdle).reverse, ?_, fun piece found => ?_⟩
    · rw [trimEnd, List.cons_append, ← List.reverse_append, List.takeWhile_append_dropWhile,
        List.reverse_reverse]
    · exact List.mem_takeWhile_imp (List.mem_reverse.mp found)

/-- What is left at the end means something, unless it is the first piece. -/
theorem isIdle_of_trimEnd {pieces : List String} (trimmed : trimEnd pieces = before ++ [name])
    (inner : before ≠ []) : isIdle name = false := by
  cases pieces with
  | nil => simp [trimEnd] at trimmed
  | cons first rest =>
    obtain ⟨other, before, rfl⟩ := List.exists_cons_of_ne_nil inner
    rw [trimEnd, List.cons_append, List.cons.injEq, List.reverse_eq_append_iff] at trimmed
    have stops := List.head?_dropWhile_not isIdle rest.reverse
    rw [trimmed.2] at stops
    simpa using stops

theorem trimEnd_of_last? (last : path.last? = some (before, name)) :
    trimEnd path.pieces = before ++ [name] ∧ name ≠ "" := by
  dsimp only [last?] at last
  split at last
  · cases last
  · cases last
  · next found named ends =>
    obtain ⟨rfl, rfl⟩ := Prod.mk.inj (Option.some.inj last)
    exact ⟨(List.dropLast_append_getLast? _ ends).symm, named⟩

theorem pieces_of_last? (last : path.last? = some (before, name)) :
    ∃ idle, path.pieces = before ++ name :: idle ∧ ∀ piece ∈ idle, isIdle piece = true := by
  obtain ⟨idle, pieces, meaningless⟩ := exists_trimEnd_append path.pieces
  rw [(trimEnd_of_last? last).1, List.append_assoc] at pieces
  exact ⟨idle, pieces, meaningless⟩

/-- A path that ends in a name has that name as its last piece. -/
theorem last?_of_endsInName (named : Volume.endsInName path = true) :
    ∃ before name, path.last? = some (before, name) ∧ isPlain name = true := by
  obtain ⟨count, pieces⟩ := Volume.pieces_unslashed path
  unfold Volume.endsInName at named
  rcases List.eq_nil_or_concat (Volume.unslashed path).pieces with empty | ⟨before, name, ends⟩
  · simp [empty] at named
  · rw [List.concat_eq_append] at ends
    have plain : isPlain name = true := by
      simpa [ends, isPlain] using named
    have busy : isIdle name = false := by
      simp only [isPlain, Bool.and_eq_true, Bool.not_eq_true'] at plain
      exact plain.1
    have slash : isIdle "" = true := rfl
    have trimmed : trimEnd path.pieces = before ++ [name] := by
      rw [pieces, ends]
      cases before with
      | nil => simp [trimEnd, slash]
      | cons first rest => simp [trimEnd, slash, busy]
    refine ⟨before, name, ?_, plain⟩
    unfold last?
    simp only [trimmed, List.getLast?_concat, List.dropLast_concat]
    split
    · next none => cases none
    · next slash =>
      obtain rfl := Option.some.inj slash
      cases plain
    · next same =>
      obtain rfl := Option.some.inj same
      rfl

/-! The directories around a path -/

/-- A directory around a path has the pieces that the path begins with, and is the
root if it has others. -/
theorem parent?_cases (parent : path.parent? = some directory) :
    (directory.place = [] ∧ directory.parent? = none) ∨
      ∃ rest, path.pieces = directory.pieces ++ rest ∧ ∃ piece ∈ rest, isIdle piece = false := by
  unfold parent? at parent
  obtain ⟨⟨before, name⟩, last, same⟩ := Option.map_eq_some_iff.mp parent
  obtain ⟨idle, pieces, -⟩ := pieces_of_last? last
  obtain ⟨idle', trimmed, -⟩ := exists_trimEnd_append before
  dsimp only at same
  split at same
  · exact .inl (same ▸ ⟨rfl, rfl⟩)
  · exact .inl (same ▸ ⟨rfl, rfl⟩)
  · next inner =>
    subst same
    refine .inr ⟨idle' ++ name :: idle, ?_, name, by simp, ?_⟩
    · rw [pieces, ← List.append_assoc, ← trimmed]
    · refine isIdle_of_trimEnd (trimEnd_of_last? last).1 ?_
      rintro rfl
      exact inner rfl

theorem begins_of_ancestor (around : a ∈ path.ancestors) :
    a.place = [] ∨ ∃ rest, path.pieces = a.pieces ++ rest := by
  unfold ancestors at around
  generalize path.pieces.length = fuel at around
  induction fuel generalizing path with
  | zero => exact .inr ⟨[], by simp [List.mem_singleton.mp around]⟩
  | succ fuel ih =>
    rcases List.mem_cons.mp around with rfl | around
    · exact .inr ⟨[], by simp⟩
    · cases parent : path.parent? with
      | none => simp [parent] at around
      | some directory =>
        rw [parent, Option.map_some, Option.getD_some] at around
        rcases parent?_cases parent with ⟨root, none⟩ | ⟨rest, pieces, -⟩
        · have alone : ancestors.go fuel directory = [directory] := by
            cases fuel <;> simp [ancestors.go, none]
          rw [alone, List.mem_singleton] at around
          exact .inl (around ▸ root)
        · rcases ih around with root | ⟨more, begins⟩
          · exact .inl root
          · exact .inr ⟨more ++ rest, by rw [pieces, begins, List.append_assoc]⟩

/-- A path lies inside a directory: it goes on behind it, and not just with idle
pieces. The root is around everything. -/
def Encloses (a path : Path) : Prop :=
  a.place = [] ∨ ∃ rest, path.pieces = (Volume.unslashed a).pieces ++ rest ∧
    ∃ piece ∈ rest, isIdle piece = false

theorem encloses_of_parent? (parent : path.parent? = some directory)
    (around : a ∈ directory.ancestors) : a.Encloses path := by
  obtain ⟨count, slashes⟩ := Volume.pieces_unslashed a
  rcases parent?_cases parent with ⟨root, none⟩ | ⟨rest, pieces, piece, found, busy⟩
  · have alone : directory.ancestors = [directory] := by
      unfold ancestors
      cases directory.pieces.length <;> simp [ancestors.go, none]
    rw [alone, List.mem_singleton] at around
    exact .inl (around ▸ root)
  · rcases begins_of_ancestor around with root | ⟨more, begins⟩
    · exact .inl root
    · refine .inr ⟨List.replicate count "" ++ more ++ rest, ?_, piece, by simp [found], busy⟩
      rw [pieces, begins, slashes]
      simp

/-- Only the root still ends in a slash without the slashes at its end. -/
theorem place_of_slash (slash : (Volume.unslashed a).pieces.getLast? = some "") :
    a.place = [] := by
  unfold Volume.unslashed at slash
  split at slash
  · next empty =>
    rw [List.reverse_eq_nil_iff, List.dropWhile_eq_nil_iff] at empty
    exact placeFrom_idle fun piece found => by
      simpa [isIdle] using Or.inl (of_decide_eq_true (empty piece (List.mem_reverse.mpr found)))
  · have stops := List.head?_dropWhile_not (fun piece => decide (piece = "")) a.pieces.reverse
    rw [List.getLast?_reverse] at slash
    rw [slash] at stops
    simp at stops

theorem encloses_child (around : a ∈ directory.ancestors) (plain : isPlain name = true) :
    a.Encloses (directory.child name) := by
  obtain ⟨count, slashes⟩ := Volume.pieces_unslashed a
  have busy : isIdle name = false := by
    simp only [isPlain, Bool.and_eq_true, Bool.not_eq_true'] at plain
    exact plain.1
  rcases begins_of_ancestor around with root | ⟨more, begins⟩
  · exact .inl root
  rw [slashes, List.append_assoc] at begins
  generalize List.replicate count "" ++ more = rest at begins
  unfold Encloses
  rw [pieces_child, inside]
  split
  · next slash =>
    -- The slash at the end of the directory is not part of the path inside it.
    rcases List.eq_nil_or_concat rest with rfl | ⟨rest, piece, rfl⟩
    · rw [begins, List.append_nil] at slash
      exact .inl (place_of_slash slash)
    · refine .inr ⟨rest ++ [name], ?_, name, by simp, busy⟩
      rw [begins, List.concat_eq_append, ← List.append_assoc, List.dropLast_concat,
        List.append_assoc]
  · exact .inr ⟨rest ++ [name], by rw [begins, List.append_assoc], name, by simp, busy⟩

/-! The file beside a path -/

/-- Another extension with a dot in it always makes another name. -/
theorem stem_append_ne (name : String) {extension : String} (dotted : '.' ∈ extension.toList) :
    stem name ++ "." ++ extension ≠ name := by
  intro same
  have letters := congrArg String.toList same
  simp only [String.toList_append] at letters
  -- The last dot stands in the extension, so what is before it is longer than the stem.
  have reversed : name.toList.reverse =
      extension.toList.reverse ++ '.' :: (stem name).toList.reverse := by
    rw [← letters]
    simp
  have further : (name.toList.reverse.dropWhile (· ≠ '.')) =
      extension.toList.reverse.dropWhile (· ≠ '.') ++ '.' :: (stem name).toList.reverse := by
    rw [reversed, List.dropWhile_append, if_neg]
    simpa [List.dropWhile_eq_nil_iff] using dotted
  obtain ⟨dot, behind, stops⟩ : ∃ dot behind,
      extension.toList.reverse.dropWhile (· ≠ '.') = dot :: behind := by
    refine List.exists_cons_of_ne_nil ?_
    simpa [List.dropWhile_eq_nil_iff] using dotted
  have stem' : stem name = String.ofList (behind ++ '.' :: (stem name).toList.reverse).reverse := by
    conv_lhs => unfold stem
    simp only [further, stops, List.cons_append]
    split
    · next impossible => cases impossible
    · next impossible => simp at impossible
    · next found => rw [(List.cons.inj found).2]
  have length := congrArg (fun text => text.toList.length) stem'
  simp at length

theorem place_of_pieces {idle : List String} (pieces : path.pieces = before ++ name :: idle)
    (plain : isPlain name = true) (meaningless : ∀ piece ∈ idle, isIdle piece = true) :
    path.place = placeFrom [] before ++ [name] := by
  simp only [isPlain, Bool.and_eq_true, Bool.not_eq_true', decide_eq_true_eq] at plain
  rw [place, pieces, placeFrom_append, placeFrom, if_neg (by simp [plain.1]), if_neg plain.2,
    placeFrom_idle meaningless]

/-- The path of a file beside another has another last name, unless the path does
not end in a name; then it is that path itself. -/
theorem withExtension_cases (path : Path) {extension : String}
    (dotted : '.' ∈ extension.toList) (long : 2 ≤ extension.length) :
    (∃ before name, path.last? = some (before, name) ∧ isPlain name = true ∧
        path.withExtension extension = ⟨before ++ [stem name ++ "." ++ extension]⟩ ∧
        (path.withExtension extension).place ≠ path.place) ∨
      path.withExtension extension = path ∧ Volume.endsInName path = false := by
  by_cases named : ∃ before name, path.last? = some (before, name) ∧ isPlain name = true
  · obtain ⟨before, name, last, plain⟩ := named
    obtain ⟨idle, pieces, meaningless⟩ := pieces_of_last? last
    have other : isPlain (stem name ++ "." ++ extension) = true := by
      have length : 3 ≤ (stem name ++ "." ++ extension).length := by
        rw [String.length_append, String.length_append, show ".".length = 1 from rfl]
        omega
      simp only [isPlain, isIdle, Bool.and_eq_true, Bool.not_eq_true', Bool.or_eq_false_iff,
        decide_eq_false_iff_not, decide_eq_true_eq]
      refine ⟨⟨?_, ?_⟩, ?_⟩ <;> intro same <;> exact absurd (same ▸ length) (by decide)
    have beside : path.withExtension extension =
        ⟨before ++ [stem name ++ "." ++ extension]⟩ := by
      unfold withExtension
      rw [last]
      split
      · next impossible => cases impossible
      · next same =>
        cases same
        cases plain
      · next found =>
        cases found
        refine if_neg fun bare => ?_
        rw [bare.2] at plain
        cases plain
    refine .inl ⟨before, name, last, plain, beside, ?_⟩
    have place : (⟨before ++ [stem name ++ "." ++ extension]⟩ : Path).place =
        placeFrom [] before ++ [stem name ++ "." ++ extension] :=
      place_of_pieces rfl other fun _ found => absurd found List.not_mem_nil
    rw [beside, place_of_pieces pieces plain meaningless, place]
    intro same
    exact stem_append_ne name dotted (List.singleton_inj.mp (List.append_cancel_left same))
  · refine .inr ⟨?_, Bool.eq_false_iff.mpr fun ends => named (last?_of_endsInName ends)⟩
    unfold withExtension
    split
    · rfl
    · rfl
    · next before name apart last =>
      refine if_pos ?_
      by_contra further
      refine named ⟨before, name, last, ?_⟩
      obtain ⟨trimmed, filled⟩ := trimEnd_of_last? last
      have busy : isIdle name = false := by
        by_cases first : before = []
        · simpa [isIdle, filled, first] using further
        · exact isIdle_of_trimEnd trimmed first
      simpa [isPlain, busy] using apart

end Resumption.Path
