import Mathlib.Data.List.Infix
import Mathlib.Tactic.IntervalCases
import Resumption.Toml.Quoted

/-! Every text reads back from the string it is written as, whichever form the
string takes. Escapes come first: what the two forms in double quotes have in
common is said once, as the laws that both of their readers obey. Then each
form by itself, where the quotes inside of it are the only difficulty: on
several lines up to two of them stand as they are, also right before the three
that close the string. The choice of a form comes last. -/
namespace Resumption.Toml

open Text

/-- What may follow a string: anything that does not begin with another quote. -/
def IsApart (rest : List Char) : Prop :=
  rest.head? ≠ some '"' ∧ rest.head? ≠ some '\''

theorem isSpace_eq_false {c : Char} (blank : c ≠ ' ') (tab : c ≠ '\t') : isSpace c = false := by
  simp [isSpace, blank, tab]

theorem skipSpace_of_not_isSpace {c : Char} (dark : isSpace c = false) (rest : List Char) :
    skipSpace (c :: rest) = c :: rest :=
  List.dropWhile_cons_of_neg (by simp [dark])

private theorem ne_cons_of_head? {c : Char} {text : List Char} (other : text.head? ≠ some c)
    (rest : List Char) : text ≠ c :: rest := by
  rintro rfl
  exact other rfl

/-! ## Characters between double quotes -/

theorem isPlain_of_not_isControl {c : Char} (usual : isControl c = false) (inLine : c ≠ '\n') :
    isPlain c = true := by
  simp only [isControl, isPlain, Bool.or_eq_false_iff, Bool.and_eq_false_iff,
    decide_eq_false_iff_not, Bool.or_eq_true, Bool.and_eq_true, decide_eq_true_eq] at usual ⊢
  grind

private theorem hexValue?_hexDigit (n : Nat) :
    hexValue? (Bytes.hexDigit (n % 16)).toUpper = some (n % 16) := by
  have bound : n % 16 < 16 := Nat.mod_lt n (by decide)
  generalize n % 16 = digit at bound
  interval_cases digit <;> decide

/-- A character below 65536 is the one that its four digits stand for. -/
theorem codePoint?_fourDigits {c : Char} (bound : c.toNat < 65536) :
    codePoint? (fourDigits c) = some c := by
  have digits : hexNumber? (fourDigits c) = some (numberOf 16 (fourDigits c)) :=
    if_pos (by simp [fourDigits, hexValue?_hexDigit])
  have value : numberOf 16 (fourDigits c) = c.toNat := by
    simp only [numberOf, fourDigits, List.map_cons, List.map_nil, List.foldl_cons,
      List.foldl_nil, hexValue?_hexDigit, Option.getD_some, Nat.shiftRight_eq_div_pow]
    omega
  rw [codePoint?, digits, value, Option.bind_eq_bind, Option.bind_some, Char.ofNat_toNat]
  exact if_pos c.valid

/-- The laws of a reader between double quotes, which hold on one line as on
several: what stands for itself, and what stands behind a backslash. -/
structure TakesEscapes (read : Reader (List Char)) : Prop where
  plain {c : Char} (rest : List Char) (plain : isPlain c = true) (quote : c ≠ '"')
    (slash : c ≠ '\\') : read (c :: rest) = prepend c (read rest)
  letter {l c : Char} (rest : List Char) (known : escape? l = some c) :
    read ('\\' :: l :: rest) = prepend c (read rest)
  code {a b c d x : Char} (rest : List Char) (point : codePoint? [a, b, c, d] = some x) :
    read ('\\' :: 'u' :: a :: b :: c :: d :: rest) = prepend x (read rest)

private theorem not_code_of_escape? {l c : Char} (known : escape? l = some c) :
    l ≠ 'u' ∧ l ≠ 'U' := by
  constructor <;> rintro rfl <;> cases known

private theorem not_blank_of_escape? {l c : Char} (known : escape? l = some c)
    (rest : List Char) : newline? (skipSpace (l :: rest)) = none := by
  have dark : isSpace l = false := isSpace_eq_false (by rintro rfl; cases known)
    (by rintro rfl; cases known)
  rw [skipSpace_of_not_isSpace dark]
  unfold newline?
  split
  · next same =>
    obtain ⟨rfl, -⟩ := List.cons.inj same
    cases known
  · next same =>
    obtain ⟨rfl, -⟩ := List.cons.inj same
    cases known
  · rfl

theorem takesEscapes_readBasic : TakesEscapes readBasic where
  plain rest plain quote slash := by
    rw [readBasic.eq_6 _ _ quote (fun _ _ _ _ _ same => absurd same slash)
      (fun _ _ _ _ _ _ _ _ _ same => absurd same slash) (fun _ _ same => absurd same slash),
      if_pos (by simp [plain, slash])]
  letter rest known := by
    have other := not_code_of_escape? known
    rw [readBasic.eq_5 _ _ (fun _ _ _ _ _ same => absurd same other.1)
      (fun _ _ _ _ _ _ _ _ _ same => absurd same other.2), known, Option.bind_some]
  code rest point := by
    rw [readBasic, point, Option.bind_some]

theorem takesEscapes_readBasicLines : TakesEscapes (readBasicLines false) where
  plain {c} rest plain quote slash := by
    have inLine : c ≠ '\n' := by rintro rfl; cases plain
    have noReturn : c ≠ '\r' := by rintro rfl; cases plain
    rw [readBasicLines.eq_10 _ _ _ (fun _ same => absurd same quote)
      (fun _ same => absurd same quote) (fun _ same => absurd same quote)
      (fun _ same => absurd same noReturn) inLine (fun _ _ _ _ _ same => absurd same slash)
      (fun _ _ _ _ _ _ _ _ _ same => absurd same slash) (fun _ _ same => absurd same slash),
      if_neg (by simp), if_pos (by simp [plain, slash])]
  letter rest known := by
    have other := not_code_of_escape? known
    rw [readBasicLines.eq_9 _ _ _ (fun _ _ _ _ _ same => absurd same other.1)
      (fun _ _ _ _ _ _ _ _ _ same => absurd same other.2), not_blank_of_escape? known,
      if_neg (by simp), known, Option.bind_some]
  code rest point := by
    rw [readBasicLines, point, Option.bind_some]

/-- A character that is written with an escape, or as it is, reads back. A line
break only reads back as it is where there are several lines. -/
theorem TakesEscapes.escapeChar {read : Reader (List Char)} (takes : TakesEscapes read)
    {lines : Bool} {c : Char} (quote : c ≠ '"') (rest : List Char)
    (broken : lines = true → read ('\n' :: rest) = prepend '\n' (read rest)) :
    read (escapeChar lines c ++ rest) = prepend c (read rest) := by
  unfold Toml.escapeChar
  split_ifs with backspace tab newline several feed carriage slash control
  · subst backspace
    exact takes.letter rest rfl
  · subst tab
    exact takes.letter rest rfl
  · subst newline
    exact broken several
  · subst newline
    exact takes.letter rest rfl
  · subst feed
    exact takes.letter rest rfl
  · subst carriage
    exact takes.letter rest rfl
  · subst slash
    exact takes.letter rest rfl
  · refine takes.code rest (codePoint?_fourDigits ?_)
    simp only [isControl, Bool.or_eq_true, Bool.and_eq_true, decide_eq_true_eq] at control
    omega
  · exact takes.plain rest (isPlain_of_not_isControl (by simpa using control) newline) quote slash

/-- What is written for a character begins with a backslash or is that
character, and a carriage return never stands as it is. -/
theorem head?_escapeChar (lines : Bool) (c : Char) (rest : List Char) :
    (escapeChar lines c ++ rest).head? = some '\\' ∨
      (escapeChar lines c ++ rest).head? = some c ∧ c ≠ '\r' := by
  unfold escapeChar
  split_ifs <;> simp_all

/-- What is written for a text begins with a quote only for a quote that may
stand as it is. -/
theorem head?_escape (lines : Bool) (quotes : Nat) (c : Char) (text rest : List Char)
    (covered : c = '"' → ¬(lines = true ∧ quotes < 2)) :
    (escape lines quotes (c :: text) ++ rest).head? ≠ some '"' := by
  rw [escape]
  split
  · next quote =>
    rw [if_neg (by simpa using covered quote)]
    simp
  · next other =>
    rw [List.append_assoc]
    rcases head?_escapeChar lines c (escape lines 0 text ++ rest) with slash | ⟨same, -⟩
    · simp [slash]
    · simpa [same] using other

/-! ## The four forms -/

theorem readBasic_escape (quotes : Nat) (text rest : List Char) :
    readBasic (escape false quotes text ++ '"' :: rest) = some (text, rest) := by
  induction text generalizing quotes with
  | nil => rw [escape, List.nil_append, readBasic]
  | cons c text ih =>
    rw [escape]
    split
    · next quote =>
      subst quote
      rw [if_neg (by simp), List.append_assoc]
      exact (takesEscapes_readBasic.letter _ rfl).trans (congrArg (prepend '"') (ih 0))
    · next other =>
      rw [List.append_assoc, takesEscapes_readBasic.escapeChar other _ (by simp), ih]
      rfl

/-- The laws of a reader on several lines about its quotes. Three of them close
the string, and up to two more right before these belong to the text. -/
structure ClosesInThree (quote : Char) (read : Reader (List Char)) : Prop where
  three {rest : List Char} (apart : rest.head? ≠ some quote) :
    read (quote :: quote :: quote :: rest) = some ([], rest)
  four {rest : List Char} (apart : rest.head? ≠ some quote) :
    read (quote :: quote :: quote :: quote :: rest) = some ([quote], rest)
  five (rest : List Char) :
    read (quote :: quote :: quote :: quote :: quote :: rest) = some ([quote, quote], rest)
  bare {rest : List Char} (few : ¬[quote, quote] <+: rest) :
    read (quote :: rest) = prepend quote (read rest)

/-- A quote in front of what reads back reads back, unless two more follow it. -/
theorem ClosesInThree.cons {quote : Char} {read : Reader (List Char)}
    (closes : ClosesInThree quote read) {written text rest : List Char}
    (reads : read (written ++ quote :: quote :: quote :: rest) = some (text, rest))
    (few : ¬[quote, quote] <+: written) (apart : rest.head? ≠ some quote) :
    read (quote :: (written ++ quote :: quote :: quote :: rest)) = some (quote :: text, rest) := by
  cases written with
  | nil =>
    obtain ⟨rfl, -⟩ := Prod.mk.inj (Option.some.inj ((closes.three apart).symm.trans reads))
    exact closes.four apart
  | cons x written =>
    by_cases lone : x = quote ∧ written = []
    · obtain ⟨rfl, rfl⟩ := lone
      obtain ⟨rfl, -⟩ := Prod.mk.inj (Option.some.inj ((closes.four apart).symm.trans reads))
      exact closes.five rest
    · rw [closes.bare, reads]
      · rfl
      · rintro ⟨more, same⟩
        obtain ⟨first, same⟩ := List.cons.inj same
        cases written with
        | nil => exact lone ⟨first.symm, rfl⟩
        | cons y written =>
          obtain ⟨second, -⟩ := List.cons.inj same
          exact few ⟨written, by rw [← first, ← second]; rfl⟩

private theorem not_two_before {quote : Char} {text : List Char}
    (few : ¬[quote, quote] <+: text) (rest : List Char) : text ≠ quote :: quote :: rest := by
  rintro rfl
  exact few ⟨rest, rfl⟩

theorem closesInThree_readBasicLines : ClosesInThree '"' (readBasicLines false) where
  three apart := readBasicLines.eq_4 _ _ (fun _ => ne_cons_of_head? apart _)
    (fun _ => ne_cons_of_head? apart _)
  four apart := readBasicLines.eq_3 _ _ fun _ => ne_cons_of_head? apart _
  five rest := readBasicLines.eq_2 false rest
  bare few := by
    have other := not_two_before few
    rw [readBasicLines.eq_10 _ _ _ (fun _ _ => other _) (fun _ _ => other _)
      (fun _ _ => other _) (fun _ same => absurd same (by decide)) (by decide)
      (fun _ _ _ _ _ same => absurd same (by decide))
      (fun _ _ _ _ _ _ _ _ _ same => absurd same (by decide))
      (fun _ _ same => absurd same (by decide)), if_neg (by simp), if_pos (by decide)]

theorem closesInThree_readLiteralLines : ClosesInThree '\'' readLiteralLines where
  three apart := readLiteralLines.eq_4 _ (fun _ => ne_cons_of_head? apart _)
    (fun _ => ne_cons_of_head? apart _)
  four apart := readLiteralLines.eq_3 _ fun _ => ne_cons_of_head? apart _
  five rest := readLiteralLines.eq_2 rest
  bare few := by
    have other := not_two_before few
    rw [readLiteralLines.eq_7 _ _ (fun _ _ => other _) (fun _ _ => other _)
      (fun _ _ => other _) (fun _ same => absurd same (by decide)) (by decide),
      if_pos (by decide)]

/-- Behind a quote that stands as it is there is at most one more of them. -/
private theorem not_two_before_escape (quotes : Nat) (text : List Char) :
    ¬['"', '"'] <+: escape true (quotes + 1) text := by
  rintro ⟨more, same⟩
  cases text with
  | nil => cases same
  | cons c text =>
    by_cases bare : c = '"' ∧ quotes = 0
    · obtain ⟨rfl, rfl⟩ := bare
      obtain ⟨-, same⟩ := List.cons.inj same
      cases text with
      | nil => cases same
      | cons d text =>
        have covered := head?_escape true 2 d text [] (by simp)
        rw [List.append_nil] at covered
        exact covered (congrArg List.head? same.symm)
    · have covered := head?_escape true (quotes + 1) c text [] (by grind)
      rw [List.append_nil] at covered
      exact covered (congrArg List.head? same.symm)

theorem readBasicLines_escape (quotes : Nat) (text : List Char) {rest : List Char}
    (apart : IsApart rest) :
    readBasicLines false (escape true quotes text ++ '"' :: '"' :: '"' :: rest) =
      some (text, rest) := by
  induction text generalizing quotes with
  | nil => exact closesInThree_readBasicLines.three apart.1
  | cons c text ih =>
    rw [escape]
    split
    · next quote =>
      subst quote
      split
      · exact closesInThree_readBasicLines.cons (ih _) (not_two_before_escape quotes text) apart.1
      · rw [List.append_assoc]
        exact (takesEscapes_readBasicLines.letter _ rfl).trans (congrArg (prepend '"') (ih 0))
    · next other =>
      have broken := readBasicLines.eq_6 false (escape true 0 text ++ '"' :: '"' :: '"' :: rest)
      rw [List.append_assoc, takesEscapes_readBasicLines.escapeChar other _ fun _ => broken, ih]
      rfl

theorem readLiteral_append {text : List Char}
    (plain : ∀ c ∈ text, isPlain c = true ∧ c ≠ '\'') (rest : List Char) :
    readLiteral (text ++ '\'' :: rest) = some (text, rest) := by
  induction text with
  | nil => rw [List.nil_append, readLiteral]
  | cons c text ih =>
    obtain ⟨first, others⟩ := List.forall_mem_cons.mp plain
    rw [List.cons_append, readLiteral.eq_3 _ _ first.2, if_pos first.1, ih others]
    rfl

private theorem readLiteralLines_other {c : Char} (taken : isPlain c = true ∨ c = '\n')
    (quote : c ≠ '\'') (text : List Char) :
    readLiteralLines (c :: text) = prepend c (readLiteralLines text) := by
  rcases taken with plain | rfl
  · have inLine : c ≠ '\n' := by rintro rfl; cases plain
    have noReturn : c ≠ '\r' := by rintro rfl; cases plain
    rw [readLiteralLines.eq_7 _ _ (fun _ same => absurd same quote)
      (fun _ same => absurd same quote) (fun _ same => absurd same quote)
      (fun _ same => absurd same noReturn) inLine, if_pos plain]
  · exact readLiteralLines.eq_6 text

theorem readLiteralLines_append {text : List Char}
    (taken : ∀ c ∈ text, isPlain c = true ∨ c = '\n')
    (few : ¬['\'', '\'', '\''] <:+: text) {rest : List Char} (apart : IsApart rest) :
    readLiteralLines (text ++ '\'' :: '\'' :: '\'' :: rest) = some (text, rest) := by
  induction text with
  | nil => exact closesInThree_readLiteralLines.three apart.2
  | cons c text ih =>
    obtain ⟨first, others⟩ := List.forall_mem_cons.mp taken
    have later := ih others fun found => few (found.trans (List.infix_cons List.infix_rfl))
    by_cases quote : c = '\''
    · subst quote
      refine closesInThree_readLiteralLines.cons later (fun row => few ?_) apart.2
      exact (List.cons_prefix_cons.mpr ⟨rfl, row⟩).isInfix
    · rw [List.cons_append, readLiteralLines_other first quote, later]
      rfl

/-! ## The choice of a form -/

/-- The texts that a form can hold. Between double quotes there are escapes for
what would not stand there; single quotes hold a text only as it is. -/
def StringForm.Holds (text : List Char) : StringForm → Prop
  | basic | basicLines => True
  | literal => ∀ c ∈ text, isPlain c = true ∧ c ≠ '\''
  | literalLines =>
    (∀ c ∈ text, isPlain c = true ∨ c = '\n') ∧ ¬['\'', '\'', '\''] <:+: text

private theorem le_longestRun (c : Char) (current best : Nat) (text : List Char) :
    best ≤ longestRun c current best text := by
  induction text generalizing current best with
  | nil => exact le_refl best
  | cons x text ih =>
    unfold longestRun
    split
    · exact (le_max_left _ _).trans (ih _ _)
    · exact ih _ _

private theorem le_longestRun_of_prefix {c : Char} {n : Nat} (current best : Nat)
    {text : List Char} (row : List.replicate n c <+: text) (begun : current ≤ best) :
    current + n ≤ longestRun c current best text := by
  induction n generalizing current best text with
  | zero => exact begun.trans (le_longestRun c current best text)
  | succ n ih =>
    obtain ⟨rest, rfl⟩ := row
    rw [List.replicate_succ, List.cons_append, longestRun, if_pos rfl]
    have more := ih (current + 1) (max best (current + 1)) ⟨rest, rfl⟩ (le_max_right _ _)
    omega

/-- No row of a character is longer than the longest one. -/
theorem le_longestRun_of_infix {c : Char} {n : Nat} {text : List Char}
    (row : List.replicate n c <:+: text) (current best : Nat) (begun : current ≤ best) :
    n ≤ longestRun c current best text := by
  induction text generalizing current best with
  | nil =>
    have empty := row.length_le
    simp only [List.length_replicate, List.length_nil] at empty
    omega
  | cons x text ih =>
    rcases List.infix_cons_iff.mp row with row | row
    · have := le_longestRun_of_prefix current best row begun
      omega
    · unfold longestRun
      split
      · exact ih row _ _ (le_max_right _ _)
      · exact ih row _ _ (Nat.zero_le _)

/-- The form that is chosen for a text can hold it. -/
theorem StringForm.holds_ofText (text : List Char) : (ofText text).Holds text := by
  have runs (n : Nat) (row : List.replicate n '\'' <:+: text) :=
    le_longestRun_of_infix row 0 0 (le_refl 0)
  unfold ofText
  dsimp only
  split_ifs with asBasic asLiteral asBasicLines asLiteralLines several
  · trivial
  · simp only [Bool.and_eq_true, Bool.not_eq_true', List.any_eq_false, decide_eq_true_eq,
      List.contains_eq_mem, decide_eq_false_iff_not] at asLiteral
    obtain ⟨⟨usual, none⟩, oneLine⟩ := asLiteral
    intro c found
    have inLine : c ≠ '\n' := fun same => oneLine (same ▸ found)
    refine ⟨isPlain_of_not_isControl (by simpa using usual c found) inLine, ?_⟩
    rintro rfl
    have := runs 1 ((List.singleton_infix_iff _ _).mpr found)
    omega
  · trivial
  · simp only [Bool.and_eq_true, Bool.not_eq_true', List.any_eq_false,
      decide_eq_true_eq] at asLiteralLines
    obtain ⟨usual, few⟩ := asLiteralLines
    refine ⟨fun c found => ?_, fun row => ?_⟩
    · by_cases feed : c = '\n'
      · exact .inr feed
      · exact .inl (isPlain_of_not_isControl (by simpa using usual c found) feed)
    · have := runs 3 row
      omega
  · trivial
  · trivial

/-! ## Strings -/

private theorem skipNewline_of_head? {text : List Char} (feed : text.head? ≠ some '\n')
    (carriage : text.head? ≠ some '\r') : skipNewline text = text := by
  unfold skipNewline newline?
  split
  · exact absurd rfl feed
  · exact absurd rfl carriage
  · rfl

/-- A line break that is written before a text on several lines is taken away
again, and no other one. -/
private theorem skipNewline_opening {text more : List Char}
    (oneLine : '\n' ∉ text → more.head? ≠ some '\n' ∧ more.head? ≠ some '\r') :
    skipNewline ((if text.contains '\n' then ['\n'] else []) ++ more) = more := by
  split
  · rfl
  · next absent =>
    obtain ⟨feed, carriage⟩ := oneLine (by simpa using absent)
    exact skipNewline_of_head? feed carriage

/-- A text reads back from a string of any form that can hold it. -/
theorem readString_quoteAs {form : StringForm} {text rest : List Char} (holds : form.Holds text)
    (apart : IsApart rest) : readString (quoteAs form text ++ rest) = some (text, rest) := by
  have unquoted (c : Char) (quote : c = '"' ∨ c = '\'') (more : List Char) : rest ≠ c :: more := by
    rintro rfl
    rcases quote with rfl | rfl
    · exact apart.1 rfl
    · exact apart.2 rfl
  cases form with
  | basic =>
    have written : quoteAs .basic text ++ rest = '"' :: (escape false 0 text ++ '"' :: rest) := by
      simp [quoteAs, StringForm.delimiter, StringForm.isLines]
    rw [written, readString.eq_2, readBasic_escape]
    intro more same
    cases text with
    | nil => exact unquoted _ (.inl rfl) _ (List.cons.inj same).2
    | cons c text => exact head?_escape false 0 c text _ (by simp) (congrArg List.head? same)
  | literal =>
    have written : quoteAs .literal text ++ rest = '\'' :: (text ++ '\'' :: rest) := by
      simp [quoteAs, StringForm.delimiter, StringForm.isLines]
    rw [written, readString.eq_4, readLiteral_append holds]
    intro more same
    cases text with
    | nil => exact unquoted _ (.inr rfl) _ (List.cons.inj same).2
    | cons c text => exact (holds c List.mem_cons_self).2 (List.cons.inj same).1
  | basicLines =>
    have written : quoteAs .basicLines text ++ rest =
        '"' :: '"' :: '"' :: ((if text.contains '\n' then ['\n'] else []) ++
          (escape true 0 text ++ '"' :: '"' :: '"' :: rest)) := by
      simp [quoteAs, StringForm.delimiter, StringForm.isLines]
    rw [written, readString, skipNewline_opening, readBasicLines_escape 0 text apart]
    intro absent
    cases text with
    | nil => simp [escape]
    | cons c text =>
      rw [escape]
      split
      · simp
      · rw [List.append_assoc]
        rcases head?_escapeChar true c (escape true 0 text ++ '"' :: '"' :: '"' :: rest) with
          slash | ⟨same, carriage⟩
        · simp [slash]
        · rw [same]
          refine ⟨?_, by simpa using carriage⟩
          rintro ⟨⟩
          exact absent List.mem_cons_self
  | literalLines =>
    have written : quoteAs .literalLines text ++ rest =
        '\'' :: '\'' :: '\'' :: ((if text.contains '\n' then ['\n'] else []) ++
          (text ++ '\'' :: '\'' :: '\'' :: rest)) := by
      simp [quoteAs, StringForm.delimiter, StringForm.isLines]
    obtain ⟨taken, few⟩ := holds
    rw [written, readString, skipNewline_opening, readLiteralLines_append taken few apart]
    intro absent
    cases text with
    | nil => simp
    | cons c text =>
      have inLine : c ≠ '\n' := by
        rintro rfl
        exact absent List.mem_cons_self
      have noReturn : c ≠ '\r' := by
        rintro rfl
        rcases taken '\r' List.mem_cons_self with plain | feed
        · cases plain
        · cases feed
      simp [inLine, noReturn]

/-- What was written as a string reads back, whatever the text. -/
theorem readString_quote (text : String) {rest : List Char} (apart : IsApart rest) :
    readString ((quote text).toList ++ rest) = some (text.toList, rest) := by
  rw [quote, String.toList_ofList]
  exact readString_quoteAs (StringForm.holds_ofText text.toList) apart

end Resumption.Toml
