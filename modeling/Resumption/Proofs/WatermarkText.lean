import Mathlib.Data.List.Basic
import Mathlib.Data.List.Find
import Mathlib.Tactic.IntervalCases
import Resumption.Host.Watermark
import Resumption.Proofs.IndexRange

/-! What was written as a watermark reads back. Numbers come first: the digits
of a natural number read as that number wherever no digit follows, and they
never begin with a superfluous zero. The rest of the document is fixed text. -/
namespace Resumption

namespace Json

open Text

theorem numberOf_toDigits (n : Nat) : numberOf 10 (Nat.toDigits 10 n) = n := by
  conv_rhs => rw [← Nat.ofDigitChars_ten_toDigits (n := n), Nat.ofDigitChars_eq_foldl]
  refine List.foldl_ext _ _ 0 fun sum c found => ?_
  have digit := Nat.isDigit_of_mem_toDigits (by omega) (by omega) found
  simp [hexValue?, digit]

/-- The digits of a number begin with zero for zero alone. -/
theorem head?_toDigits {n : Nat} (positive : 0 < n) : (Nat.toDigits 10 n).head? ≠ some '0' := by
  induction n using Nat.strongRecOn with
  | ind n ih =>
    by_cases small : n < 10
    · rw [Nat.toDigits_of_lt_base small]
      interval_cases n <;> decide
    · rw [Nat.toDigits_of_base_le (by omega) (by omega), List.head?_append]
      have shorter := ih (n / 10) (by omega) (by omega)
      cases leading : (Nat.toDigits 10 (n / 10)).head? with
      | none => exact absurd (List.head?_eq_none_iff.mp leading) Nat.toDigits_ne_nil
      | some c => simpa [leading] using shorter

theorem readWhole_toDigits (n : Nat) {c : Char} (other : c.isDigit = false) (rest : List Char) :
    readWhole (Nat.toDigits 10 n ++ c :: rest) = some (Nat.toDigits 10 n, c :: rest) := by
  have digits : ∀ d ∈ Nat.toDigits 10 n, d.isDigit = true := fun d =>
    Nat.isDigit_of_mem_toDigits (by omega) (by omega)
  have span : readDigits (Nat.toDigits 10 n ++ c :: rest) =
      some (Nat.toDigits 10 n, c :: rest) := by
    unfold readDigits
    rw [List.takeWhile_append_of_pos digits, List.dropWhile_append_of_pos digits,
      List.takeWhile_cons_of_neg (by simp [other]), List.dropWhile_cons_of_neg (by simp [other]),
      List.append_nil]
    split
    · next empty => exact absurd empty Nat.toDigits_ne_nil
    · rfl
  unfold readWhole
  simp only [span, Option.bind_eq_bind, Option.bind_some]
  split
  · next first more leading =>
    rcases Nat.eq_zero_or_pos n with rfl | positive
    · cases leading
    · exact absurd (by rw [leading, List.head?_cons]) (head?_toDigits positive)
  · rfl

/-- A whole number reads as such in front of anything that cannot continue it. -/
theorem readNumber_toDigits (negative : Bool) (n : Nat) (rest : List Char) :
    readNumber negative (Nat.toDigits 10 n ++ '\n' :: rest) =
      some (wordOf negative n, '\n' :: rest) := by
  unfold readNumber
  rw [readWhole_toDigits n (by decide)]
  simp [skipFraction, skipExponent, numberOf_toDigits]

/-- A value that begins with a digit is a number. -/
theorem readValue_digit (depth : Nat) {c : Char} (digit : c.isDigit = true) (text : List Char) :
    readValue (depth + 1) (' ' :: c :: text) = readNumber false (c :: text) := by
  have dark : isBlank c = false := by
    unfold isBlank
    simp only [Bool.or_eq_false_iff, decide_eq_false_iff_not]
    refine ⟨⟨⟨?_, ?_⟩, ?_⟩, ?_⟩ <;> rintro rfl <;> cases digit
  have skip : skipBlanks (' ' :: c :: text) = c :: text := by
    unfold skipBlanks
    rw [List.dropWhile_cons_of_pos (by decide), List.dropWhile_cons_of_neg (by simp [dark])]
  unfold readValue
  rw [skip]
  split
  case h_8 => rfl
  -- Every other form begins with a character that is no digit.
  all_goals
    next same =>
      obtain ⟨rfl, -⟩ := List.cons.inj same
      cases digit

/-- An integer within a signed word reads back. -/
theorem readValue_integer (depth : Nat) {n : Int} (low : minInteger ≤ n) (high : n ≤ maxInteger)
    (rest : List Char) :
    readValue (depth + 1) (' ' :: (toString n).toList ++ '\n' :: rest) =
      some (.integer n, '\n' :: rest) := by
  unfold minInteger maxInteger at *
  rw [Int.toString_eq_repr, Int.repr_eq_if]
  split
  · next natural =>
    have value : wordOf false n.toNat = .integer n := by
      rw [wordOf, if_neg (by decide), if_pos (by unfold maxWord; omega),
        Int.toNat_of_nonneg natural]
    have number := readNumber_toDigits false n.toNat rest
    obtain ⟨c, more, digits⟩ :=
      List.exists_cons_of_ne_nil (Nat.toDigits_ne_nil (n := n.toNat) (b := 10))
    have digit : c.isDigit = true :=
      Nat.isDigit_of_mem_toDigits (by omega) (by omega) (digits ▸ List.mem_cons_self)
    rw [value, digits] at number
    rw [Nat.toList_repr, digits]
    exact (readValue_digit depth digit _).trans number
  · next negative =>
    have value : wordOf true (-n).toNat = .integer n := by
      have back : -((-n).toNat : Int) = n := by omega
      rw [wordOf, if_pos rfl, if_pos (by unfold minInteger; omega), back]
    have number := readNumber_toDigits true (-n).toNat rest
    rw [value] at number
    rw [String.toList_append, Nat.toList_repr]
    exact number

end Json

namespace Watermark

open Json

theorem toList_text (next : Index) :
    (text next).toList = "\x7b\n  \"version\": 1,\n  \"next_index\":".toList ++
      (' ' :: next.text.toList ++ ['\n', '\x7d']) := by
  have parts : text next = "\x7b\n" ++ ("  \"version\": " ++ "1" ++ ",\n  \"next_index\": " ++
      next.text ++ "\n") ++ "\x7d" := rfl
  rw [parts]
  simp [String.toList_append]

private theorem readMember_version (depth : Nat) (rest : List Char) :
    readMember (readValue (depth + 1)) ("\n  \"version\": 1,".toList ++ rest) =
      some ((some "version", .integer 1), ',' :: rest) := rfl

private theorem readMember_next {value : Text.Reader Tree} {text rest : List Char} {tree : Tree}
    (reads : value text = some (tree, rest)) :
    readMember value ("\n  \"next_index\":".toList ++ text) =
      some ((some "next_index", tree), rest) := by
  have named : readMember value ("\n  \"next_index\":".toList ++ text) =
      (value text).bind fun found => some ((some "next_index", found.1), found.2) := rfl
  rw [named, reads, Option.bind_some]

private theorem readSeries_two {item : Text.Reader (Option String × Tree)}
    {text rest : List Char} {first second : Option String × Tree} (fuel : Nat)
    (reads : item text = some (first, ',' :: rest))
    (reads' : item rest = some (second, ['\n', '\x7d'])) :
    readSeries '\x7d' item (fuel + 2) text = some ([first, second], []) := by
  simp [readSeries, reads, reads', skipBlanks, isBlank, Text.prepend]

theorem readValue_text (depth : Nat) (next : Index) :
    readValue (depth + 2) (text next).toList =
      some (.object [(some "version", .integer 1), (some "next_index", .integer next.toInt)],
        []) := by
  have value := readMember_next
    (readValue_integer depth next.minInteger_le next.le_maxInteger ['\x7d'])
  have first := readMember_version depth ("\n  \"next_index\":".toList ++
    (' ' :: (toString next.toInt).toList ++ ['\n', '\x7d']))
  generalize digits : (' ' :: (toString next.toInt).toList ++ ['\n', '\x7d']) = tail at value first
  have items : readItems '\x7d' (readMember (readValue (depth + 1)))
      ("\n  \"version\": 1,".toList ++ ("\n  \"next_index\":".toList ++ tail)) =
        some ([(some "version", .integer 1), (some "next_index", .integer next.toInt)], []) :=
    readSeries_two (tail.length + 30) first value
  rw [toList_text, Index.text, digits]
  exact congrArg (Option.map fun read => (Tree.object read.1, read.2)) items

theorem parse_text (next : Index) :
    parse (text next) =
      some (.object [(some "version", .integer 1), (some "next_index", .integer next.toInt)]) := by
  obtain ⟨depth, length⟩ : ∃ depth, (text next).length = depth + 1 := by
    refine Nat.exists_eq_add_one.mpr ?_
    rw [← String.length_toList, toList_text]
    simp
  unfold parse
  rw [length, readValue_text]
  rfl

theorem decodeRecord_fields (next : Index) :
    decodeRecord fields {} (.object
      [(some "version", .integer 1), (some "next_index", .integer next.toInt)]) =
        some ⟨some 1, some next⟩ := by
  have given : Tree.integer? 0 4294967295 (.integer 1) = some 1 := rfl
  have inRange : Tree.integer? minInteger maxInteger (.integer next.toInt) = some next.toInt :=
    if_pos ⟨next.minInteger_le, next.le_maxInteger⟩
  simp [decodeRecord, decodeMembers, fields, given, inRange]

/-- A watermark reads back from its text, whatever the index. -/
theorem ofText?_text (next : Index) : ofText? (text next) = some (version, next) := by
  unfold ofText?
  simp only [parse_text, Option.bind_eq_bind, Option.bind_some, decodeRecord_fields]
  rfl

end Watermark
end Resumption
