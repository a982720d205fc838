import Mathlib.Tactic.SplitIfs
import Resumption.Proofs.DocumentValues
import Resumption.Toml.Document

/-! Documents that are written line by line: titles of sections, names with
their values, and empty lines between them. A reader takes from such a document
what its lines say, in their order. The places of keys and values depend on all
that follows, so what a line says leaves them open. -/
namespace Resumption.Toml

open Text

/-- A line of a document. -/
inductive Line
  | blank
  /-- The title of a section. -/
  | title (name : String)
  /-- A name and its value. -/
  | pair (name : String) (value : Scalar)
deriving DecidableEq, Repr

/-- Names that are written without quotes. -/
def IsBareName (name : String) : Prop :=
  name.toList ≠ [] ∧ ∀ c ∈ name.toList, isBare c = true

namespace Line

/-- A line with its end, if its value can be written. -/
def written? : Line → Option String
  | blank => some "\n"
  | title name => some s!"[{name}]\n"
  | pair name value => value.written?.map fun text => s!"{name} = {text}\n"

/-- Whether the names of a line need no quotes. -/
def IsBare : Line → Prop
  | blank => True
  | title name => IsBareName name
  | pair name _ => IsBareName name

end Line

/-- What lines say one after the other, wherever it stands. -/
inductive Tells : List Line → List Statement → Prop
  | nil : Tells [] []
  | blank {lines : List Line} {statements : List Statement} (later : Tells lines statements) :
      Tells (.blank :: lines) statements
  | title {lines : List Line} {statements : List Statement} (name : String) (place span : Span)
      (later : Tells lines statements) :
      Tells (.title name :: lines) (.header [⟨name, place⟩] span :: statements)
  | pair {lines : List Line} {statements : List Statement} (name : String) (value : Scalar)
      (place span : Span) (later : Tells lines statements) :
      Tells (.pair name value :: lines)
        (.assign [⟨name, place⟩] (.scalar span value) :: statements)

/-! ## Keys -/

theorem IsBareName.exists_cons {name : String} (bare : IsBareName name) :
    ∃ c more, isBare c = true ∧ name.toList = c :: more := by
  obtain ⟨c, more, same⟩ := List.exists_cons_of_ne_nil bare.1
  exact ⟨c, more, bare.2 c (same ▸ List.mem_cons_self), same⟩

/-- A text with a bare name in front begins with nothing else. -/
theorem IsBareName.append_ne {name : String} (bare : IsBareName name) {d : Char}
    (odd : isBare d = false) (rest tail : List Char) : name.toList ++ rest ≠ d :: tail := by
  obtain ⟨c, more, begins, same⟩ := bare.exists_cons
  intro begun
  rw [same] at begun
  obtain ⟨rfl, -⟩ := List.cons.inj begun
  exact absurd (odd.symm.trans begins) Bool.false_ne_true

private theorem not_isSpace_of_isBare {c : Char} (bare : isBare c = true) : isSpace c = false :=
  isSpace_eq_false (by rintro rfl; cases bare) (by rintro rfl; cases bare)

private theorem readKeyPart_bare {name : String} (bare : IsBareName name) {c : Char}
    (odd : isBare c = false) (rest : List Char) :
    readKeyPart (name.toList ++ c :: rest) =
      some (⟨name, ⟨byteSize (name.toList ++ c :: rest), byteSize (c :: rest)⟩⟩,
        skipSpace (c :: rest)) := by
  obtain ⟨first, more, begins, same⟩ := bare.exists_cons
  have skip : skipSpace (name.toList ++ c :: rest) = name.toList ++ c :: rest := by
    rw [same]
    exact skipSpace_of_not_isSpace (not_isSpace_of_isBare begins) _
  have word : (name.toList ++ c :: rest).takeWhile isBare = name.toList := by
    rw [List.takeWhile_append_of_pos bare.2, List.takeWhile_cons_of_neg (by simp [odd]),
      List.append_nil]
  have behind : (name.toList ++ c :: rest).dropWhile isBare = c :: rest := by
    rw [List.dropWhile_append_of_pos bare.2, List.dropWhile_cons_of_neg (by simp [odd])]
  unfold readKeyPart
  dsimp only
  rw [skip, word, behind]
  split
  · next quoted => exact absurd quoted (bare.append_ne rfl _ _)
  · next quoted => exact absurd quoted (bare.append_ne rfl _ _)
  · split
    · next empty => exact absurd empty bare.1
    · rw [Option.map_some, String.ofList_toList]

/-- A bare name is read as a key of one part, up to the first character that
cannot belong to it. -/
theorem readKey_bare {name : String} (bare : IsBareName name) {c d : Char}
    {rest more : List Char} (odd : isBare c = false) (behind : skipSpace (c :: rest) = d :: more)
    (single : d ≠ '.') :
    ∃ place, readKey (name.toList ++ c :: rest) = some ([⟨name, place⟩], d :: more) := by
  refine ⟨⟨byteSize (name.toList ++ c :: rest), byteSize (c :: rest)⟩, ?_⟩
  unfold readKey
  rw [readKeyPart_bare bare odd, behind, Option.bind_eq_bind, Option.bind_some]
  dsimp only
  rw [moreKeyParts.eq_3 _ _ fun _ same => single (List.cons.inj same).1]
  rfl

/-! ## Lines -/

private theorem toList_title (name : String) (rest : List Char) :
    (s!"[{name}]\n").toList ++ rest = '[' :: (name.toList ++ ']' :: '\n' :: rest) := by
  have parts : s!"[{name}]\n" = "[" ++ name ++ "]\n" := rfl
  rw [parts]
  simp [String.toList_append]

private theorem toList_pair (name text : String) (rest : List Char) :
    (s!"{name} = {text}\n").toList ++ rest =
      name.toList ++ ' ' :: '=' :: ' ' :: (text.toList ++ '\n' :: rest) := by
  have parts : s!"{name} = {text}\n" = name ++ " = " ++ text ++ "\n" := rfl
  rw [parts]
  simp [String.toList_append]

theorem readStatement_title {name : String} (bare : IsBareName name) (rest : List Char) :
    ∃ place span, readStatement ('[' :: (name.toList ++ ']' :: rest)) =
      some (.header [⟨name, place⟩] span, rest) := by
  obtain ⟨place, key⟩ := readKey_bare bare (c := ']') rfl (skipSpace_of_not_isSpace rfl rest)
    (by decide)
  rw [readStatement, readHeader.eq_2 _ _ (bare.append_ne rfl _), key]
  exact ⟨place, _, rfl⟩

/-- What is written for a value is neither an array nor a table, and it begins
right away. -/
private theorem begins_of_written {value : Scalar} {text : String}
    (written : value.written? = some text) :
    ∃ c more, isSpace c = false ∧ c ≠ '[' ∧ c ≠ '\x7b' ∧ text.toList = c :: more := by
  obtain ⟨c, more, opening, same⟩ := Scalar.exists_written written
  refine ⟨c, more, ?_, ?_, ?_, same⟩
  · exact isSpace_eq_false (by rintro rfl; simp at opening) (by rintro rfl; simp at opening)
  · rintro rfl
    simp at opening
  · rintro rfl
    simp at opening

theorem readValue_written (depth : Nat) {value : Scalar} {text : String}
    (written : value.written? = some text) (rest : List Char) :
    ∃ span, readValue (depth + 1) (text.toList ++ '\n' :: rest) =
      some (.scalar span value, '\n' :: rest) := by
  obtain ⟨c, more, -, noArray, noTable, same⟩ := begins_of_written written
  have first {d : Char} {tail : List Char} (begun : text.toList ++ '\n' :: rest = d :: tail) :
      c = d := by
    rw [same] at begun
    exact (List.cons.inj begun).1
  rw [readValue.eq_6 _ _ (fun _ begun => noArray (first begun))
    (fun _ begun => noTable (first begun)), readScalar_written written rest]
  exact ⟨_, rfl⟩

theorem readStatement_pair {name text : String} {value : Scalar} (bare : IsBareName name)
    (written : value.written? = some text) (rest : List Char) :
    ∃ place span,
      readStatement (name.toList ++ ' ' :: '=' :: ' ' :: (text.toList ++ '\n' :: rest)) =
        some (.assign [⟨name, place⟩] (.scalar span value), '\n' :: rest) := by
  have behind : skipSpace (' ' :: '=' :: ' ' :: (text.toList ++ '\n' :: rest)) =
      '=' :: ' ' :: (text.toList ++ '\n' :: rest) := rfl
  obtain ⟨place, key⟩ := readKey_bare bare rfl behind (by decide)
  obtain ⟨span, read⟩ := readValue_written (nestingLimit - 2) written rest
  have skip : skipSpace (' ' :: (text.toList ++ '\n' :: rest)) = text.toList ++ '\n' :: rest := by
    obtain ⟨c, more, dark, -, -, same⟩ := begins_of_written written
    rw [same]
    exact skipSpace_of_not_isSpace dark _
  have pair : readPair (readValue (nestingLimit - 1))
      (name.toList ++ ' ' :: '=' :: ' ' :: (text.toList ++ '\n' :: rest)) =
        some (([⟨name, place⟩], .scalar span value), '\n' :: rest) := by
    unfold readPair
    rw [key, Option.bind_eq_bind, Option.bind_some]
    dsimp only
    rw [expect, if_pos rfl, Option.bind_eq_bind, Option.bind_some, skip]
    exact congrArg (Option.bind · _) read
  rw [readStatement.eq_2 _ (bare.append_ne rfl _), pair]
  exact ⟨place, span, rfl⟩

/-! ## Documents -/

/-- A statement and the end of its line are read in one step, unless the line
begins like an empty one or like a comment. -/
theorem readLines_of_readStatement {c : Char} {text rest : List Char} {statement : Statement}
    {statements : List Statement} {fuel : Nat} (begins : isBare c = true ∨ c = '[')
    (read : readStatement (c :: text) = some (statement, '\n' :: rest))
    (reads : readLines fuel rest = some statements) :
    readLines (fuel + 1) (c :: text) = some (statement :: statements) := by
  have dark : isSpace c = false := by
    rcases begins with bare | rfl
    · exact not_isSpace_of_isBare bare
    · rfl
  have other (d : Char) (odd : isBare d = false ∧ d ≠ '[') (tail : List Char) :
      c :: text ≠ d :: tail := by
    rintro ⟨⟩
    rcases begins with bare | rfl
    · rw [odd.1] at bare
      cases bare
    · exact odd.2 rfl
  rw [readLines, skipSpace_of_not_isSpace dark]
  split
  · next same => cases same
  · next same => exact absurd same (other _ (by decide) _)
  · next same => exact absurd same (other _ (by decide) _)
  · next same => exact absurd same (other _ (by decide) _)
  · have ends : endOfLine ('\n' :: rest) = some rest := rfl
    rw [read, Option.bind_eq_bind, Option.bind_some]
    dsimp only
    rw [ends, Option.bind_eq_bind, Option.bind_some, reads]
    rfl

/-- A line reads as what it says. -/
theorem readLines_cons {line : Line} {lines : List Line} {text : String} {rest : List Char}
    {statements : List Statement} {fuel : Nat} (bare : line.IsBare)
    (written : line.written? = some text) (later : Tells lines statements)
    (reads : readLines fuel rest = some statements) :
    ∃ statements, Tells (line :: lines) statements ∧
      readLines (fuel + 1) (text.toList ++ rest) = some statements := by
  cases line with
  | blank =>
    obtain rfl := Option.some.inj written
    exact ⟨statements, .blank later, reads⟩
  | title name =>
    obtain rfl := Option.some.inj written
    obtain ⟨place, span, read⟩ := readStatement_title bare ('\n' :: rest)
    refine ⟨_, .title name place span later, ?_⟩
    rw [toList_title]
    exact readLines_of_readStatement (.inr rfl) read reads
  | pair name value =>
    obtain ⟨word, found, rfl⟩ := Option.map_eq_some_iff.mp written
    obtain ⟨place, span, read⟩ := readStatement_pair bare found rest
    obtain ⟨c, more, begins, same⟩ := IsBareName.exists_cons bare
    refine ⟨_, .pair name value place span later, ?_⟩
    rw [same, List.cons_append] at read
    rw [toList_pair, same, List.cons_append]
    exact readLines_of_readStatement (.inl begins) read reads

/-- The document that lines make, if all of their values can be written. -/
def document? (lines : List Line) : Option String :=
  (lines.mapM Line.written?).map String.join

private theorem exists_of_written_cons {line : Line} {lines : List Line} {texts : List String}
    (written : (line :: lines).mapM Line.written? = some texts) :
    ∃ text others, line.written? = some text ∧ lines.mapM Line.written? = some others ∧
      texts = text :: others := by
  simp only [List.mapM_cons, Option.bind_eq_bind, Option.bind_eq_some_iff, Option.pure_def,
    Option.some.injEq] at written
  obtain ⟨text, here, others, there, rfl⟩ := written
  exact ⟨text, others, here, there, rfl⟩

theorem isSome_document?_iff (lines : List Line) :
    (document? lines).isSome ↔ ∀ line ∈ lines, line.written?.isSome := by
  rw [document?, Option.isSome_map]
  induction lines with
  | nil => simp
  | cons line lines ih =>
    rw [List.forall_mem_cons, ← ih, List.mapM_cons]
    cases line.written? <;> cases lines.mapM Line.written? <;> simp

theorem readLines_document {lines : List Line} {texts : List String}
    (bare : ∀ line ∈ lines, line.IsBare) (written : lines.mapM Line.written? = some texts)
    (fuel : Nat) :
    ∃ statements, Tells lines statements ∧
      readLines (lines.length + fuel + 1) (texts.flatMap String.toList) = some statements := by
  induction lines generalizing texts with
  | nil =>
    obtain rfl := Option.some.inj written
    exact ⟨[], .nil, readLines.eq_2 _ _⟩
  | cons line lines ih =>
    obtain ⟨first, others⟩ := List.forall_mem_cons.mp bare
    obtain ⟨text, texts, here, there, rfl⟩ := exists_of_written_cons written
    obtain ⟨statements, later, reads⟩ := ih others there
    have more : (line :: lines).length + fuel + 1 = lines.length + fuel + 1 + 1 := by
      simp only [List.length_cons]
      omega
    rw [more, List.flatMap_cons]
    exact readLines_cons first here later reads

/-- A line that is written is not empty, and it does not begin with a byte order
mark. -/
private theorem exists_line {line : Line} {text : String} (bare : line.IsBare)
    (written : line.written? = some text) :
    ∃ c more, c ≠ '\ufeff' ∧ text.toList = c :: more := by
  cases line with
  | blank =>
    obtain rfl := Option.some.inj written
    exact ⟨'\n', [], by decide, rfl⟩
  | title name =>
    obtain rfl := Option.some.inj written
    have same := toList_title name []
    rw [List.append_nil] at same
    exact ⟨'[', _, by decide, same⟩
  | pair name value =>
    obtain ⟨word, -, rfl⟩ := Option.map_eq_some_iff.mp written
    obtain ⟨c, more, begins, begun⟩ := IsBareName.exists_cons bare
    have same := toList_pair name word []
    rw [List.append_nil, begun] at same
    refine ⟨c, _, ?_, same⟩
    rintro rfl
    cases begins

private theorem length_le_of_written {lines : List Line} {texts : List String}
    (bare : ∀ line ∈ lines, line.IsBare) (written : lines.mapM Line.written? = some texts) :
    lines.length ≤ (texts.flatMap String.toList).length := by
  induction lines generalizing texts with
  | nil => exact Nat.zero_le _
  | cons line lines ih =>
    obtain ⟨first, others⟩ := List.forall_mem_cons.mp bare
    obtain ⟨text, texts, here, there, rfl⟩ := exists_of_written_cons written
    obtain ⟨c, more, -, same⟩ := exists_line first here
    have fewer := ih others there
    simp only [List.flatMap_cons, same, List.length_append, List.length_cons]
    omega

/-- What is read from a document of lines is what they tell. -/
theorem statements_of_document {lines : List Line} {document : String}
    (bare : ∀ line ∈ lines, line.IsBare) (written : document? lines = some document) :
    ∃ told, Tells lines told ∧ statements document.toList = some told := by
  obtain ⟨texts, parts, rfl⟩ := Option.map_eq_some_iff.mp written
  rw [String.toList_join]
  have enough := length_le_of_written bare parts
  obtain ⟨told, tells, reads⟩ := readLines_document bare parts
    ((texts.flatMap String.toList).length - lines.length)
  rw [Nat.add_sub_cancel' enough] at reads
  refine ⟨told, tells, ?_⟩
  have unmarked : ∀ rest, texts.flatMap String.toList ≠ '\ufeff' :: rest := by
    intro rest marked
    cases lines with
    | nil =>
      obtain rfl := Option.some.inj parts
      cases marked
    | cons line lines =>
      obtain ⟨text, texts, here, -, rfl⟩ := exists_of_written_cons parts
      obtain ⟨c, more, other, same⟩ := exists_line (bare line List.mem_cons_self) here
      rw [List.flatMap_cons, same] at marked
      exact other (List.cons.inj marked).1
  rw [statements.eq_def]
  split
  · next marked => exact absurd marked (unmarked _)
  · exact reads

end Resumption.Toml
