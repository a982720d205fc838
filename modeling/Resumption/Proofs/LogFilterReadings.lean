import Mathlib.Data.List.TakeWhile
import Mathlib.Data.String.Basic
import Resumption.Settings

/-! Log filters as the check sees them and as they are read. The check takes the blanks off
a piece and looks behind its last equals sign. The reader walks over a piece without its
blanks, but cuts the text of a level out of the piece with them. Both agree on the pieces
that pass the check, except that a level of its own with blanks around it is read as a
target. -/
namespace Resumption

namespace Text

variable {c : Char} {text : List Char}

/-- A text is what is left of it without the blanks at its ends, between blanks. -/
theorem exists_trim (text : List Char) :
    ∃ lead trail, text = lead ++ trim text ++ trail ∧ lead.all isBlank ∧ trail.all isBlank := by
  refine ⟨text.takeWhile isBlank, ((trimLeft text).reverse.takeWhile isBlank).reverse, ?_,
    List.all_takeWhile, by rw [List.all_reverse, List.all_takeWhile]⟩
  have right :
      trim text ++ ((trimLeft text).reverse.takeWhile isBlank).reverse = trimLeft text := by
    rw [trim, trimRight, ← List.reverse_append, List.takeWhile_append_dropWhile,
      List.reverse_reverse]
  rw [List.append_assoc, right, trimLeft, List.takeWhile_append_dropWhile]

theorem not_mem_of_blanks (blanks : text.all isBlank) (dark : isBlank c = false) : c ∉ text := by
  intro held
  rw [List.all_eq_true.mp blanks c held] at dark
  cases dark

/-- Only blanks are taken off. -/
theorem mem_trim (held : c ∈ text) (dark : isBlank c = false) : c ∈ trim text := by
  obtain ⟨lead, trail, whole, before, behind⟩ := exists_trim text
  rw [whole, List.mem_append, List.mem_append] at held
  rcases held with (held | held) | held
  · exact absurd held (not_mem_of_blanks before dark)
  · exact held
  · exact absurd held (not_mem_of_blanks behind dark)

theorem eq_nil_of_blanks (blanks : text.all isBlank) (dark : ∀ c ∈ text, isBlank c = false) :
    text = [] :=
  List.eq_nil_iff_forall_not_mem.mpr fun c held =>
    not_mem_of_blanks blanks (dark c held) held

theorem trim_of_dark (dark : ∀ c ∈ text, isBlank c = false) : trim text = text := by
  obtain ⟨lead, trail, whole, before, behind⟩ := exists_trim text
  rw [whole] at dark
  have noLead := eq_nil_of_blanks before fun c held =>
    dark c (List.mem_append_left _ (List.mem_append_left _ held))
  have noTrail := eq_nil_of_blanks behind fun c held => dark c (List.mem_append_right _ held)
  rw [noLead, noTrail, List.append_nil, List.nil_append] at whole
  exact whole.symm

end Text

namespace LogFilter

open Text

/-! Texts of levels -/

theorem isAlpha_iff {c : Char} :
    c.isAlpha ↔ 65 ≤ c.toNat ∧ c.toNat ≤ 90 ∨ 97 ≤ c.toNat ∧ c.toNat ≤ 122 := by
  show (decide (c.val ≥ 'A'.val ∧ c.val ≤ 'Z'.val) ||
    decide (c.val ≥ 'a'.val) && decide (c.val ≤ 'z'.val)) = true ↔ _
  simp only [ge_iff_le, UInt32.le_iff_toNat_le, Bool.or_eq_true, Bool.and_eq_true,
    decide_eq_true_eq]
  rfl

theorem canBegin_of_isAlpha {c : Char} (letter : c.isAlpha) : canBegin c := by
  have known : isAlphanumeric c := by
    refine CharSet.contains_iff.mpr ?_
    rcases isAlpha_iff.mp letter with upper | lower
    · exact ⟨_, .tail _ (.head _), upper⟩
    · exact ⟨_, .tail _ (.tail _ (.head _)), lower⟩
  rw [canBegin, known, Bool.or_true]

theorem unmarked_of_isAlpha {c : Char} (letter : c.isAlpha) : c ≠ '=' ∧ c ≠ '[' := by
  constructor <;> rintro rfl <;> revert letter <;> decide

namespace Level

/-- Whether the character occurs in a level, spelled by name or by number. -/
def Spells (c : Char) : Prop :=
  c.isAlpha ∨ c.isDigit ∨ c = '+'

theorem Spells.bounds {c : Char} (spells : Spells c) :
    43 ≤ c.toNat ∧ c.toNat ≤ 122 ∧ c.toNat ≠ 61 := by
  unfold Spells at spells
  rw [isAlpha_iff, Char.isDigit_iff_toNat] at spells
  rcases spells with letter | digit | rfl
  · omega
  · simp only [Char.reduceToNat] at digit
    omega
  · decide

theorem Spells.not_blank {c : Char} (spells : Spells c) : isBlank c = false := by
  have bounds := spells.bounds
  simp [isBlank]
  omega

variable {text : List Char} {level : Level}

theorem isAlpha_of_isLower_toLower {c : Char} (low : c.toLower.isLower) : c.isAlpha := by
  by_cases upper : c.val ≥ 'A'.val ∧ c.val ≤ 'Z'.val
  · exact isAlpha_iff.mpr (.inl upper)
  · have same : c.toLower = c := dif_neg upper
    rw [same] at low
    show (c.isUpper || c.isLower) = true
    rw [low, Bool.or_true]

theorem isAlpha_of_ofName? (named : ofName? text = some level) : ∀ c ∈ text, c.isAlpha := by
  unfold ofName? at named
  have same := List.find?_some named
  rw [decide_eq_true_eq] at same
  have letters : level.name.toList.all Char.isLower := by
    cases level <;> decide
  intro c held
  exact isAlpha_of_isLower_toLower
    (List.all_eq_true.mp letters _ (same ▸ List.mem_map_of_mem held))

theorem spells_of_number? {n : Nat} (found : number? text = some n) : ∀ c ∈ text, Spells c := by
  unfold number? at found
  dsimp only at found
  rw [Option.ite_none_right_eq_some] at found
  obtain ⟨⟨-, digits⟩, -⟩ := found
  rw [List.all_eq_true] at digits
  intro c held
  split at digits
  · rcases List.mem_cons.mp held with rfl | held
    · exact .inr (.inr rfl)
    · exact .inr (.inl (digits c held))
  · exact .inr (.inl (digits c held))

theorem spells_of_ofText? (found : ofText? text = some level) : ∀ c ∈ text, Spells c := by
  unfold ofText? at found
  rcases Option.or_eq_some_iff.mp found with named | ⟨-, counted⟩
  · exact fun c held => .inl (isAlpha_of_ofName? named c held)
  · obtain ⟨n, number, -⟩ := Option.bind_eq_some_iff.mp counted
    exact spells_of_number? number

theorem dark_of_ofText? (found : ofText? text = some level) : ∀ c ∈ text, isBlank c = false :=
  fun c held => (spells_of_ofText? found c held).not_blank

theorem equals_not_mem_of_ofText? (found : ofText? text = some level) : '=' ∉ text :=
  fun held => (spells_of_ofText? found '=' held).bounds.2.2 rfl

theorem ofText?_of_ofName? (named : ofName? text = some level) : ofText? text = some level := by
  rw [ofText?, named, Option.some_or]

end Level

/-! The check of a piece -/

variable {piece : List Char} {level : Level}

theorem reverse_others {text : List Char} (without : '=' ∉ text) :
    ∀ c ∈ text.reverse, decide (c ≠ '=') = true := by
  intro c held
  rw [decide_eq_true_eq]
  rintro rfl
  exact without (List.mem_reverse.mp held)

theorem splitLast_append (front : List Char) {back : List Char} (last : '=' ∉ back) :
    splitLast (front ++ '=' :: back) = some (front, back) := by
  have others := reverse_others last
  rw [splitLast, List.reverse_append, List.reverse_cons, List.append_assoc,
    List.dropWhile_append_of_pos others, List.takeWhile_append_of_pos others]
  simp

theorem splitLast_of_not_mem (bare : '=' ∉ piece) : splitLast piece = none := by
  rw [splitLast, List.dropWhile_eq_nil_iff.mpr (reverse_others bare)]

theorem exists_last_equals (named : '=' ∈ piece) :
    ∃ front back, piece = front ++ '=' :: back ∧ '=' ∉ back := by
  obtain ⟨back, front, reversed, first⟩ :=
    List.eq_append_cons_of_mem (List.mem_reverse.mpr named)
  refine ⟨front.reverse, back.reverse, ?_, fun held => first (List.mem_reverse.mp held)⟩
  rw [← List.reverse_reverse piece, reversed]
  simp

/-- What the check sees in a piece without an equals sign. -/
theorem name_of_checkPiece (bare : '=' ∉ piece) (checked : checkPiece piece = some level) :
    Level.ofName? (trim piece) = some level := by
  rwa [checkPiece, splitLast_of_not_mem bare] at checked

/-- What the check sees behind the last equals sign. -/
theorem name_of_checkPiece_append {front back : List Char} (last : '=' ∉ back)
    (checked : checkPiece (front ++ '=' :: back) = some level) :
    Level.ofName? (trim back) = some level := by
  rw [checkPiece, splitLast_append front last] at checked
  dsimp only at checked
  split at checked
  · cases checked
  · exact checked

/-- The check finds no level in an empty piece. -/
theorem ne_nil_of_checkPiece (checked : checkPiece piece = some level) : piece ≠ [] := by
  rintro rfl
  cases checked

/-! The walk over a piece -/

theorem dropBytes_eq_some {count : Nat} {text rest : List Char}
    (dropped : dropBytes count text = some rest) :
    ∃ front, text = front ++ rest ∧ String.utf8Len front = count := by
  fun_induction dropBytes count text with
  | case1 text =>
    cases dropped
    exact ⟨[], rfl, rfl⟩
  | case2 => cases dropped
  | case3 count c rest' fits ih =>
    obtain ⟨front, rfl, length⟩ := ih dropped
    refine ⟨c :: front, rfl, ?_⟩
    rw [String.utf8Len_cons, length]
    omega
  | case4 => cases dropped

namespace Walk

/-- What a walk tells about the text it has gone over. -/
def Tells (seen : List Char) : Walk → Prop
  | .start => seen = []
  | .levelOrTarget => '=' ∉ seen
  | .target => seen.getLast? = some ']'
  | .level position => ∃ front back, seen = front ++ '=' :: back ∧
      position = String.utf8Len (front ++ ['='])
  | .span | .field _ | .fields => True

variable {seen : List Char} {walk last : Walk}

/-- One step of a walk keeps what is told true. Of the brackets only their end matters, so
spans and fields tell nothing. -/
theorem next_tells {after : Walk} {c : Char} (tells : walk.Tells seen)
    (steps : walk.next piece c (String.utf8Len (seen ++ [c])) = some after) :
    after.Tells (seen ++ [c]) := by
  cases walk with
  | start =>
    obtain rfl : seen = [] := tells
    unfold next at steps
    dsimp only at steps
    split at steps
    · cases steps
      exact trivial
    · split at steps <;> cases steps
      next begins =>
      intro held
      obtain rfl : '=' = c := List.mem_singleton.mp held
      exact absurd begins (by decide +kernel)
  | levelOrTarget =>
    cases steps
    split
    · next equals =>
      subst equals
      exact ⟨seen, [], rfl, rfl⟩
    · split
      · exact trivial
      · next other _ =>
        intro held
        rcases List.mem_append.mp held with held | held
        · exact tells held
        · exact other (List.mem_singleton.mp held).symm
  | span =>
    cases steps
    split
    · next closes =>
      subst closes
      exact List.getLast?_concat ..
    · split <;> exact trivial
  | field position =>
    unfold next at steps
    dsimp only at steps
    split at steps
    · cases steps
      exact trivial
    · split at steps <;> cases steps
      exact trivial
  | fields =>
    unfold next at steps
    dsimp only at steps
    split at steps <;> cases steps
    next closes =>
    subst closes
    exact List.getLast?_concat ..
  | target =>
    unfold next at steps
    dsimp only at steps
    split at steps <;> cases steps
    next equals =>
    subst equals
    exact ⟨seen, [], rfl, rfl⟩
  | level position =>
    cases steps
    obtain ⟨front, back, rfl, place⟩ := tells
    exact ⟨front, back ++ [c], by rw [List.append_assoc, List.cons_append], place⟩

/-- A walk tells about a whole text what its steps tell. -/
theorem over_tells (text : List Char) (tells : walk.Tells seen)
    (ends : walk.over piece text (String.utf8Len seen) = some last) :
    last.Tells (seen ++ text) := by
  induction text generalizing seen walk with
  | nil =>
    cases ends
    rwa [List.append_nil]
  | cons c rest ih =>
    have size : String.utf8Len seen + c.utf8Size = String.utf8Len (seen ++ [c]) := by
      simp
    rw [Walk.over, size] at ends
    obtain ⟨next, steps, ends⟩ := Option.bind_eq_some_iff.mp ends
    have told := ih (next_tells tells steps) ends
    rwa [List.append_assoc] at told

/-- Where a walk over a whole text ends tells about the text. -/
theorem tells_of_over {text : List Char} (ends : start.over piece text 0 = some last) :
    last.Tells text :=
  have begins : start.Tells [] := rfl
  over_tells text begins ends

/-- A walk over letters alone does not leave the level or target. -/
theorem over_letters {text : List Char} (letters : ∀ c ∈ text, c.isAlpha) (position : Nat) :
    levelOrTarget.over piece text position = some levelOrTarget := by
  induction text generalizing position with
  | nil => rfl
  | cons c rest ih =>
    obtain ⟨noEquals, noBracket⟩ := unmarked_of_isAlpha (letters c List.mem_cons_self)
    rw [Walk.over, Walk.next, if_neg noEquals, if_neg noBracket]
    exact ih (fun c held => letters c (List.mem_cons_of_mem _ held)) _

theorem over_name {text : List Char} (named : Level.ofName? text = some level) :
    start.over piece text 0 = some levelOrTarget := by
  have letters := Level.isAlpha_of_ofName? named
  cases text with
  | nil => cases named
  | cons c rest =>
    have letter := letters c List.mem_cons_self
    rw [Walk.over, Walk.next, if_neg (unmarked_of_isAlpha letter).2,
      if_pos (canBegin_of_isAlpha letter)]
    exact over_letters (fun c held => letters c (List.mem_cons_of_mem _ held)) _

end Walk

/-! The reading of a piece -/

/-- What stands at the end of a text without a character stands behind its last place. -/
theorem suffix_of_not_mem {c : Char} {text behind tail : List Char} (without : c ∉ tail)
    (ends : tail <:+ text) (stands : c :: behind <:+ text) : tail <:+ behind := by
  rcases List.suffix_or_suffix_of_suffix ends stands with shorter | longer
  · rcases List.suffix_cons_iff.mp shorter with rfl | shorter
    · exact absurd List.mem_cons_self without
    · exact shorter
  · exact absurd (longer.subset List.mem_cons_self) without

/-- What is cut out of a piece at the end of a walk and has no equals sign stands behind the
last equals sign, and then there are no blanks before the piece. -/
theorem exists_cut_of_level_read {position : Nat} {rest : List Char}
    (walked : Walk.start.over piece (trim piece) 0 = some (.level position))
    (dropped : dropBytes position piece = some rest) (plain : '=' ∉ rest) :
    ∃ front trail, piece = front ++ '=' :: rest ∧ piece = trim piece ++ trail ∧
      trail.all isBlank ∧ trail <:+ rest := by
  obtain ⟨lead, trail, whole, -, behind⟩ := exists_trim piece
  obtain ⟨front, back, trimmed, place⟩ := Walk.tells_of_over walked
  obtain ⟨front', whole', length⟩ := dropBytes_eq_some dropped
  have cut : piece = lead ++ front ++ '=' :: (back ++ trail) := by
    rw [whole, trimmed]
    simp
  obtain ⟨extra, tail⟩ : rest <:+ back ++ trail :=
    suffix_of_not_mem plain ⟨front', whole'.symm⟩ ⟨lead ++ front, cut.symm⟩
  -- The bytes that were dropped leave no room for anything before the trimmed piece.
  have bytes := congrArg String.utf8Len (cut.symm.trans whole')
  rw [← tail] at bytes
  simp only [String.utf8Len_append, String.utf8Len_cons, String.utf8Len_nil] at bytes place
  have noLead : lead = [] := String.utf8Len_eq_zero.mp (by omega)
  have noExtra : extra = [] := String.utf8Len_eq_zero.mp (by omega)
  subst noLead noExtra
  rw [List.nil_append] at tail cut whole
  exact ⟨front, trail, by rw [tail, ← cut], whole, behind, tail ▸ List.suffix_append _ _⟩

/-- What the check takes a piece for in which it sees a level. -/
def Directive.seen (piece : List Char) (level : Level) : Directive :=
  if '=' ∈ piece then .selected level else .level level

/-- What is read from a piece in which the check sees a level: that level, but a piece with
blanks around it becomes a target. -/
def Directive.taken (piece : List Char) (level : Level) : Directive :=
  if trim piece = piece then .seen piece level else .selected .trace

theorem readPiece_of_bare (bare : '=' ∉ piece) (checked : checkPiece piece = some level) :
    readPiece piece = some (.taken piece level) := by
  have named := name_of_checkPiece bare checked
  rw [readPiece, Walk.over_name named, Directive.taken, Directive.seen, if_neg bare]
  dsimp only
  by_cases kept : trim piece = piece
  · rw [if_pos kept, Level.ofText?_of_ofName? (kept ▸ named)]
  · rw [if_neg kept]
    cases found : Level.ofText? piece with
    | none => rfl
    | some other => exact absurd (trim_of_dark (Level.dark_of_ofText? found)) kept

/-- A piece that ends in a bracket names no level. -/
theorem checkPiece_of_bracket (named : '=' ∈ piece) (ends : (trim piece).getLast? = some ']') :
    checkPiece piece = none := by
  obtain ⟨lead, trail, whole, -, behind⟩ := exists_trim piece
  obtain ⟨inner, closed⟩ := List.getLast?_eq_some_iff.mp ends
  obtain ⟨front, back, parted, last⟩ := exists_last_equals named
  have without : '=' ∉ ']' :: trail := by
    rintro (_ | ⟨_, held⟩)
    exact not_mem_of_blanks behind (by decide) held
  have suffix : ']' :: trail <:+ back :=
    suffix_of_not_mem without ⟨lead ++ inner, by rw [whole, closed]; simp⟩ ⟨front, parted.symm⟩
  have held : ']' ∈ trim back := mem_trim (suffix.subset List.mem_cons_self) (by decide)
  cases checked : checkPiece piece with
  | none => rfl
  | some level =>
    rw [parted] at checked
    have letter := Level.isAlpha_of_ofName? (name_of_checkPiece_append last checked) _ held
    exact absurd letter (by decide)

/-- A level that is read behind an equals sign is the one that the check sees, and it has no
blanks around it. -/
theorem readPiece_of_named {directive : Directive} (named : '=' ∈ piece)
    (checked : checkPiece piece = some level) (found : readPiece piece = some directive) :
    trim piece = piece ∧ directive = .selected level := by
  unfold readPiece at found
  split at found
  · next walked => exact absurd (mem_trim named (by decide)) (Walk.tells_of_over walked)
  · next walked =>
    rw [checkPiece_of_bracket named (Walk.tells_of_over walked)] at checked
    cases checked
  · next position walked =>
    split at found
    · next dropped =>
      obtain ⟨front, -, cut, -⟩ := exists_cut_of_level_read walked dropped List.not_mem_nil
      rw [cut] at checked
      cases name_of_checkPiece_append List.not_mem_nil checked
    · next rest _ dropped =>
      obtain ⟨read, known, rfl⟩ := Option.map_eq_some_iff.mp found
      have plain := Level.equals_not_mem_of_ofText? known
      have dark := Level.dark_of_ofText? known
      obtain ⟨front, trail, cut, whole, behind, suffix⟩ :=
        exists_cut_of_level_read walked dropped plain
      have noTrail := eq_nil_of_blanks behind fun c held => dark c (suffix.subset held)
      rw [cut] at checked
      have name := name_of_checkPiece_append plain checked
      rw [trim_of_dark dark] at name
      rw [Level.ofText?_of_ofName? name] at known
      rw [noTrail, List.append_nil] at whole
      exact ⟨whole.symm, congrArg Directive.selected (Option.some.inj known).symm⟩
    · cases found
  all_goals cases found

/-- A piece that passes the check and is read is read as the check sees it, unless it is
a level of its own with blanks around it. -/
theorem readPiece_eq {directive : Directive} (checked : checkPiece piece = some level)
    (found : readPiece piece = some directive) :
    directive = .taken piece level ∧ ('=' ∈ piece → trim piece = piece) := by
  by_cases named : '=' ∈ piece
  · obtain ⟨kept, rfl⟩ := readPiece_of_named named checked found
    rw [Directive.taken, Directive.seen, if_pos kept, if_pos named]
    exact ⟨rfl, fun _ => kept⟩
  · rw [readPiece_of_bare named checked] at found
    exact ⟨(Option.some.inj found).symm, fun held => absurd held named⟩

theorem Directive.taken_eq_seen_iff (kept : '=' ∈ piece → trim piece = piece) :
    taken piece level = seen piece level ↔ trim piece = piece := by
  unfold taken seen
  by_cases whole : trim piece = piece
  · simp [whole]
  · have bare : '=' ∉ piece := fun named => whole (kept named)
    simp [whole, bare]

/-! Whole filters -/

theorem mapM_readPiece {parts : List (List Char)} {levels : List Level}
    {directives : List Directive} (checked : parts.mapM checkPiece = some levels)
    (found : parts.mapM readPiece = some directives) :
    directives = List.zipWith .taken parts levels ∧
      (∀ piece ∈ parts, '=' ∈ piece → trim piece = piece) ∧
      (directives = List.zipWith .seen parts levels ↔ ∀ piece ∈ parts, trim piece = piece) := by
  induction parts generalizing levels directives with
  | nil =>
    cases checked
    cases found
    exact ⟨rfl, nofun, fun _ => nofun, fun _ => rfl⟩
  | cons piece rest ih =>
    simp only [List.mapM_cons, Option.bind_eq_bind, Option.bind_eq_some_iff, Option.pure_def,
      Option.some.injEq] at checked found
    obtain ⟨level, first, levels, others, rfl⟩ := checked
    obtain ⟨directive, firstFound, directives, othersFound, rfl⟩ := found
    obtain ⟨rfl, kept⟩ := readPiece_eq first firstFound
    obtain ⟨rfl, allKept, alike⟩ := ih others othersFound
    refine ⟨rfl, List.forall_mem_cons.mpr ⟨kept, allKept⟩, ?_⟩
    rw [List.zipWith_cons_cons, List.cons.injEq, Directive.taken_eq_seen_iff kept, alike,
      List.forall_mem_cons]

theorem filter_of_mapM_checkPiece {parts : List (List Char)} {levels : List Level}
    (checked : parts.mapM checkPiece = some levels) : parts.filter (· ≠ []) = parts := by
  induction parts generalizing levels with
  | nil => rfl
  | cons piece rest ih =>
    simp only [List.mapM_cons, Option.bind_eq_bind, Option.bind_eq_some_iff] at checked
    obtain ⟨level, first, levels, others, -⟩ := checked
    rw [List.filter_cons_of_pos (by simpa using ne_nil_of_checkPiece first), ih others]

/-- A reader leaves no piece out of a filter that passes the check. -/
theorem read_of_check {filter : String} {levels : List Level}
    (checked : check filter = some levels) : read filter = (pieces filter).mapM readPiece := by
  rw [read, filter_of_mapM_checkPiece checked]

end LogFilter

namespace Settings

open LogFilter Text

theorem validate_eq_logLevel_iff (settings : Settings) :
    settings.validate = .error (.logLevel settings.logLevel) ↔
      isValid settings.logLevel = false := by
  unfold validate
  split
  · next valid =>
    rw [valid]
    split
    · simp
    · split <;> simp
  · next invalid => simpa using invalid

/-- A log level that passes the check is read as the check sees it, piece by piece, except
that a level of its own with blanks around it becomes a target that everything is let
through for. So the two readings agree exactly if no piece has blanks around it. A target
with a level never has any. -/
theorem accepted_filter_is_read_as_checked_unless_padded (settings : Settings)
    (accepted : settings.validate ≠ .error (.logLevel settings.logLevel)) :
    ∃ levels, check settings.logLevel = some levels ∧
      read settings.logLevel = some (List.zipWith .taken (pieces settings.logLevel) levels) ∧
      (∀ piece ∈ pieces settings.logLevel, '=' ∈ piece → trim piece = piece) ∧
      (read settings.logLevel = some (List.zipWith .seen (pieces settings.logLevel) levels) ↔
        ∀ piece ∈ pieces settings.logLevel, trim piece = piece) := by
  have valid : isValid settings.logLevel = true := by
    rw [← Bool.not_eq_false]
    exact mt settings.validate_eq_logLevel_iff.mpr accepted
  rw [isValid, Bool.and_eq_true, Option.isSome_iff_exists, Option.isSome_iff_exists] at valid
  obtain ⟨⟨levels, checked⟩, directives, found⟩ := valid
  obtain ⟨rfl, kept, alike⟩ := mapM_readPiece checked (read_of_check checked ▸ found)
  refine ⟨levels, checked, found, kept, ?_⟩
  rw [found, Option.some.injEq, alike]

/-- A level and a target with a level, without blanks. -/
theorem accepted_filter_is_read_as_checked_without_blanks :
    let settings : Settings := { dataDir := "/srv", logLevel := "INFO,cache[get]=debug" }
    settings.validate ≠ .error (.logLevel settings.logLevel) ∧
      read settings.logLevel = some [.level .info, .selected .debug] := by
  intro settings
  have accepted : settings.validate ≠ .error (.logLevel settings.logLevel) := by decide +kernel
  have levels : check settings.logLevel = some [.info, .debug] := by decide +kernel
  obtain ⟨_, checked, found, -⟩ :=
    accepted_filter_is_read_as_checked_unless_padded settings accepted
  obtain rfl := Option.some.inj (levels.symm.trans checked)
  exact ⟨accepted, found.trans (by decide +kernel)⟩

/-- A level with a blank before it passes the check as that level, and is read as a target
that everything is let through for. -/
theorem padded_level_is_read_as_target :
    let settings : Settings := { dataDir := "/srv", logLevel := " info" }
    settings.validate = .ok () ∧ check settings.logLevel = some [.info] ∧
      read settings.logLevel = some [.selected .trace] := by
  decide +kernel

end Settings
end Resumption
