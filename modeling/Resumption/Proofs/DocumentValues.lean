import Resumption.Proofs.IndexRange
import Resumption.Proofs.StringForms
import Resumption.Proofs.WatermarkText

/-! Texts and integers read back as values of a document. Between the kinds of
numbers, the dates and the times a reader decides by the first character that
is no digit, so that is what the lemmas ask for: a line break behind the digits
leaves only an integer. -/
namespace Resumption.Toml

open Text

/-! ## Integers -/

theorem moreDigits_append {digits : List Char} (all : ∀ c ∈ digits, c.isDigit = true)
    (rest : List Char) :
    moreDigits Char.isDigit (digits ++ '\n' :: rest) = some (digits, '\n' :: rest) := by
  induction digits with
  | nil =>
    rw [List.nil_append, moreDigits.eq_4 _ _ _ (fun same => absurd same (by decide))
      (fun _ _ same => absurd same (by decide)), if_neg (by decide)]
  | cons c digits ih =>
    obtain ⟨digit, others⟩ := List.forall_mem_cons.mp all
    have other : c ≠ '_' := by rintro rfl; cases digit
    rw [List.cons_append, moreDigits.eq_4 _ _ _ (fun same => absurd same other)
      (fun _ _ same => absurd same other), if_pos digit, ih others]
    rfl

theorem readWhole_toDigits (n : Nat) (rest : List Char) :
    readWhole (Nat.toDigits 10 n ++ '\n' :: rest) =
      some (Nat.toDigits 10 n, '\n' :: rest) := by
  rcases Nat.eq_zero_or_pos n with rfl | positive
  · rfl
  · have digits : ∀ c ∈ Nat.toDigits 10 n, c.isDigit = true := fun c =>
      Nat.isDigit_of_mem_toDigits (by omega) (by omega)
    have leading := Json.head?_toDigits positive
    obtain ⟨c, more, same⟩ := List.exists_cons_of_ne_nil (Nat.toDigits_ne_nil (n := n) (b := 10))
    rw [same] at digits leading ⊢
    obtain ⟨digit, others⟩ := List.forall_mem_cons.mp digits
    have natural : c ≠ '0' := by simpa using leading
    rw [List.cons_append, readWhole.eq_2 _ (fun _ same => natural (List.cons.inj same).1),
      readDigits, if_pos digit, moreDigits_append others]
    rfl

/-- Digits before a line break are a decimal integer behind its sign. -/
theorem readDecimal_toDigits (negative : Bool) (n : Nat) (rest : List Char) :
    readDecimal negative (Nat.toDigits 10 n ++ '\n' :: rest) =
      (boundedInteger (if negative then -(n : Int) else n)).map (·, '\n' :: rest) := by
  unfold readDecimal
  rw [readWhole_toDigits]
  simp only [readFraction, readExponent, Json.numberOf_toDigits, Option.bind_eq_bind,
    Option.bind_some]
  cases boundedInteger (if negative then -(n : Int) else n) <;> rfl

/-- Nothing but the line break follows the digits that a text begins with. -/
private theorem end_of_digits (digits : List Char) {text rest more : List Char} {c : Char}
    (behind : text.dropWhile Char.isDigit = '\n' :: rest) (same : text = digits ++ c :: more)
    (all : digits.all Char.isDigit = true) (other : c.isDigit = false) : c = '\n' := by
  rw [same, List.dropWhile_append_of_pos (List.all_eq_true.mp all),
    List.dropWhile_cons_of_neg (by simp [other])] at behind
  exact (List.cons.inj behind).1

private theorem isDigit_of_twoDigits {limit : Nat} {a b : Char}
    (read : (twoDigits limit [a, b]).isSome = true) : [a, b].all Char.isDigit = true := by
  unfold twoDigits at read
  dsimp only at read
  split at read
  · next digits => simp [digits.1, digits.2.1]
  · cases read

theorem signed_of_digits (negative : Bool) {text rest : List Char}
    (behind : text.dropWhile Char.isDigit = '\n' :: rest) :
    readNumber.signed negative text = readDecimal negative text := by
  have other {c : Char} {more : List Char} (same : text = c :: more) (odd : c.isDigit = false) :=
    end_of_digits [] behind same rfl odd
  exact readNumber.signed.eq_3 negative text (fun _ same => absurd (other same rfl) (by decide))
    (fun _ same => absurd (other same rfl) (by decide))

/-- Digits before a line break are no date, no time and no number in another
base. -/
theorem readNumber_of_digits {text rest : List Char}
    (behind : text.dropWhile Char.isDigit = '\n' :: rest) :
    readNumber text = readDecimal false text := by
  have plain : readNumber text = readNumber.plain text := by
    unfold readNumber
    split
    · next a b c d _ =>
      exact if_neg fun all => absurd (end_of_digits [a, b, c, d] behind rfl all rfl) (by decide)
    · next a b _ _ =>
      refine if_neg fun hour => ?_
      exact absurd (end_of_digits [a, b] behind rfl (isDigit_of_twoDigits hour) rfl) (by decide)
    · rfl
  have first {c : Char} {more : List Char} (same : text = c :: more) (odd : c.isDigit = false) :=
    end_of_digits [] behind same rfl odd
  have second {c : Char} {more : List Char} (same : text = '0' :: c :: more)
      (odd : c.isDigit = false) := end_of_digits ['0'] behind same rfl odd
  rw [plain, readNumber.plain.eq_6 text (fun _ same => absurd (second same rfl) (by decide))
    (fun _ same => absurd (second same rfl) (by decide))
    (fun _ same => absurd (second same rfl) (by decide))
    (fun _ same => absurd (first same rfl) (by decide))
    (fun _ same => absurd (first same rfl) (by decide)), signed_of_digits false behind]

theorem readNumber_minus {text rest : List Char}
    (behind : text.dropWhile Char.isDigit = '\n' :: rest) :
    readNumber ('-' :: text) = readDecimal true text := by
  have plain : readNumber ('-' :: text) = readNumber.plain ('-' :: text) := by
    unfold readNumber
    split
    · next same =>
      obtain ⟨rfl, -⟩ := List.cons.inj same
      exact if_neg fun all => absurd all (by simp)
    · next same =>
      obtain ⟨rfl, -⟩ := List.cons.inj same
      exact if_neg fun hour => absurd (isDigit_of_twoDigits hour) (by simp)
    · rfl
  rw [plain]
  exact signed_of_digits true behind

private theorem dropWhile_toDigits (n : Nat) (rest : List Char) :
    (Nat.toDigits 10 n ++ '\n' :: rest).dropWhile Char.isDigit = '\n' :: rest := by
  rw [List.dropWhile_append_of_pos fun c => Nat.isDigit_of_mem_toDigits (by omega) (by omega),
    List.dropWhile_cons_of_neg (by decide)]

/-- Digits, with a sign or without, are taken for a number. -/
private theorem readScalar_eq_readNumber {c : Char} (begins : c.isDigit = true ∨ c = '-')
    (text : List Char) : readScalar (c :: text) = readNumber (c :: text) := by
  have unquoted : ¬(c = '"' ∨ c = '\'') := by
    rintro (rfl | rfl) <;> simp at begins
  unfold readScalar
  dsimp only
  rw [if_neg unquoted]
  split
  · next same =>
    obtain ⟨rfl, -⟩ := List.cons.inj same
    simp at begins
  · next same =>
    obtain ⟨rfl, -⟩ := List.cons.inj same
    simp at begins
  · rfl

private theorem exists_toDigits (n : Nat) :
    ∃ c more, c.isDigit = true ∧ Nat.toDigits 10 n = c :: more := by
  obtain ⟨c, more, digits⟩ :=
    List.exists_cons_of_ne_nil (Nat.toDigits_ne_nil (n := n) (b := 10))
  exact ⟨c, more, Nat.isDigit_of_mem_toDigits (by omega) (by omega)
    (digits ▸ List.mem_cons_self), digits⟩

/-- An integer of 64 bits reads back in front of a line break. -/
theorem readScalar_integer {n : Int} (low : minInteger ≤ n) (high : n ≤ maxInteger)
    (rest : List Char) :
    readScalar ((toString n).toList ++ '\n' :: rest) = some (.integer n, '\n' :: rest) := by
  have bounded : boundedInteger n = some (.integer n) := if_pos ⟨low, high⟩
  rw [Int.toString_eq_repr, Int.repr_eq_if]
  split
  · next natural =>
    have value : (n.toNat : Int) = n := Int.toNat_of_nonneg natural
    have number := readDecimal_toDigits false n.toNat rest
    rw [← readNumber_of_digits (dropWhile_toDigits n.toNat rest), if_neg (by simp), value,
      bounded] at number
    obtain ⟨c, more, digit, digits⟩ := exists_toDigits n.toNat
    rw [digits] at number
    rw [Nat.toList_repr, digits]
    exact (readScalar_eq_readNumber (.inl digit) _).trans number
  · next negative =>
    have value : -((-n).toNat : Int) = n := by omega
    have number := readDecimal_toDigits true (-n).toNat rest
    rw [← readNumber_minus (dropWhile_toDigits (-n).toNat rest), if_pos rfl, value,
      bounded] at number
    rw [String.toList_append, Nat.toList_repr]
    exact (readScalar_eq_readNumber (.inr rfl) _).trans number

/-! ## Values -/

private theorem exists_quote (text : String) :
    ∃ c more, (c = '"' ∨ c = '\'') ∧ (quote text).toList = c :: more := by
  rw [quote, String.toList_ofList]
  unfold quoteAs
  cases StringForm.ofText text.toList with
  | basic => exact ⟨'"', _, .inl rfl, rfl⟩
  | literal => exact ⟨'\'', _, .inr rfl, rfl⟩
  | basicLines => exact ⟨'"', _, .inl rfl, rfl⟩
  | literalLines => exact ⟨'\'', _, .inr rfl, rfl⟩

/-- A text reads back in front of anything but another quote. -/
theorem readScalar_quote (text : String) {rest : List Char} (apart : IsApart rest) :
    readScalar ((quote text).toList ++ rest) = some (.text text, rest) := by
  obtain ⟨c, more, quoted, same⟩ := exists_quote text
  have read := readString_quote text apart
  rw [same, List.cons_append] at read ⊢
  unfold readScalar
  dsimp only
  rw [if_pos quoted, read, Option.map_some, String.ofList_toList]

/-- A value as documents write it: a text as a string, and an integer if it fits
a signed word. No setting has a value of another kind. -/
def Scalar.written? : Scalar → Option String
  | text content => some (quote content)
  | integer n => if minInteger ≤ n ∧ n ≤ maxInteger then some (toString n) else none
  | float _ | boolean _ | moment => none

theorem Scalar.written?_integer_eq_some_iff {n : Int} {text : String} :
    (integer n).written? = some text ↔
      (minInteger ≤ n ∧ n ≤ maxInteger) ∧ toString n = text := by
  simp [written?]

/-- What is written for a value begins with a quote, a sign or a digit. -/
theorem Scalar.exists_written {value : Scalar} {text : String}
    (written : value.written? = some text) :
    ∃ c more, (c = '"' ∨ c = '\'' ∨ c = '-' ∨ c.isDigit = true) ∧ text.toList = c :: more := by
  cases value with
  | text content =>
    obtain rfl := Option.some.inj written
    obtain ⟨c, more, quoted, same⟩ := exists_quote content
    exact ⟨c, more, quoted.imp_right .inl, same⟩
  | integer n =>
    obtain ⟨-, rfl⟩ := written?_integer_eq_some_iff.mp written
    rw [Int.toString_eq_repr, Int.repr_eq_if]
    split
    · obtain ⟨c, more, digit, digits⟩ := exists_toDigits n.toNat
      exact ⟨c, more, .inr (.inr (.inr digit)), by rw [Nat.toList_repr, digits]⟩
    · exact ⟨'-', _, .inr (.inr (.inl rfl)), by rw [String.toList_append]; rfl⟩
  | float x => cases written
  | boolean b => cases written
  | moment => cases written

/-- What is written for a value reads back at the end of a line. -/
theorem readScalar_written {value : Scalar} {text : String} (written : value.written? = some text)
    (rest : List Char) :
    readScalar (text.toList ++ '\n' :: rest) = some (value, '\n' :: rest) := by
  cases value with
  | text content =>
    obtain rfl := Option.some.inj written
    exact readScalar_quote content ⟨by simp, by simp⟩
  | integer n =>
    obtain ⟨⟨low, high⟩, rfl⟩ := Scalar.written?_integer_eq_some_iff.mp written
    exact readScalar_integer low high rest
  | float x => cases written
  | boolean b => cases written
  | moment => cases written

end Resumption.Toml
