import Resumption.Proofs.WindowRefinement

/-! A window in machine words. Every step that a word might not have room for, or that
might miss the array of words, is checked here, and a failed check ends the run with
`none`. No check ever fails: from a new window on, the words go through exactly the
windows that integers give. -/
namespace Resumption

/-- An integer as a signed word, if there is room for it. -/
def signed? (n : Int) : Option Index :=
  if minInteger ≤ n ∧ n ≤ maxInteger then some (Int64.ofInt n) else none

/-- An integer as an unsigned word, if there is room for it. -/
def unsigned? (n : Int) : Option UInt64 :=
  if 0 ≤ n ∧ n ≤ maxWord then some (UInt64.ofNat n.toNat) else none

/-- The remainder of signed words that is never negative. The machine rounds towards
zero, so what is left of a negative word is raised once. -/
def remainder? (i divisor : Index) : Option Index :=
  if divisor = 0 ∨ i = Int64.minValue ∧ divisor = -1 then none
  else do
    let rest ← signed? (i.toInt.tmod divisor.toInt)
    if rest < 0 then signed? (rest.toInt + divisor.toInt.natAbs) else return rest

/-- A quotient of unsigned words, rounded up. -/
def ceiling? (n divisor : UInt64) : Option UInt64 :=
  if divisor = 0 then none
  else if 0 < n % divisor then unsigned? ((n / divisor).toNat + 1) else some (n / divisor)

/-- The bit of a word that is so far from the lowest. -/
def bit? (distance : UInt64) : Option UInt64 :=
  if distance < 64 then some (1 <<< distance) else none

/-- A window in words, with no promise about them. -/
structure RawWindow where
  first : Index
  next : Index
  capacity : UInt64
  words : Array UInt64

namespace RawWindow

variable {α : Type}

def new? (first : Index) (capacity : UInt64) : Option (Result RawWindow) :=
  if capacity = 0 ∨ maxCapacity < capacity.toNat then
    return .error (.invalidSetting (.windowCapacity capacity.toNat))
  else do
    let count ← ceiling? capacity 64
    return .ok { first, next := first, capacity, words := Array.replicate count.toNat 0 }

/-- The lowest index that can still be redeemed. The difference stops at the lowest
word. -/
def base? (w : RawWindow) : Option Index := do
  let capacity ← signed? w.capacity.toNat
  return Index.clamp (w.next.toInt - capacity.toInt)

/-- The number of the word that holds the bit of an index, and that bit. -/
def slot? (w : RawWindow) (i : Index) : Option (UInt64 × UInt64) := do
  let capacity ← signed? w.capacity.toNat
  let place ← unsigned? (← remainder? i capacity).toInt
  return (place / 64, ← bit? (place % 64))

def isOutstanding? (w : RawWindow) (i : Index) : Option Bool := do
  if (← w.base?) ≤ i && i < w.next then
    let (number, mask) ← w.slot? i
    let word ← w.words[number.toNat]?
    return word &&& mask ≠ 0
  else return false

/-- The window with another word where the bit of an index is. -/
def modify? (w : RawWindow) (i : Index) (change : (word mask : UInt64) → UInt64) :
    Option RawWindow := do
  let (number, mask) ← w.slot? i
  let word ← w.words[number.toNat]?
  return { w with words := w.words.setIfInBounds number.toNat (change word mask) }

/-- Issues the next index if the work done for it succeeds. The work may also never
come to an end. -/
def issueWith? (w : RawWindow) (work : Index → Option (Result α)) :
    Option (Result α × RawWindow) :=
  if w.next = Index.last then return (.error .exhausted, w)
  else do
    match ← work w.next with
    | .error e => return (.error e, w)
    | .ok a =>
      let marked ← w.modify? w.next (· ||| ·)
      return (.ok a, { marked with next := ← signed? (w.next.toInt + 1) })

def redeemWith? (w : RawWindow) (i : Index) (work : Unit → Option (Result α)) :
    Option (Result α × RawWindow) := do
  if ← w.isOutstanding? i then
    match ← work () with
    | .error e => return (.error e, w)
    | .ok a => return (.ok a, ← w.modify? i fun word mask => word &&& ~~~mask)
  else return (.error .invalidTicket, w)

/-- The number of set bits, summed up word by word. -/
def outstanding? (w : RawWindow) : Option UInt64 :=
  w.words.foldlM (fun count word => unsigned? (count.toNat + Window.bitCount word)) 0

/-- The answer to a command, and the window afterwards. -/
def obey? (w : RawWindow) : (command : Command) → Option (command.Answer × RawWindow)
  | .issue => w.issueWith? fun i => some (.ok i)
  | .issueWith work => w.issueWith? fun i => some (work i)
  | .redeem i => do
    let (answer, w) ← w.redeemWith? i fun _ => some (.ok ())
    return (answer.isOk, w)
  | .redeemWith i work => w.redeemWith? i fun _ => some (work ())
  | .isOutstanding i => do return (← w.isOutstanding? i, w)

/-- The answers to a sequence of commands, and the window after the last. -/
def answersTo? : RawWindow → List Command → Option (List Answered × RawWindow)
  | w, [] => some ([], w)
  | w, command :: commands =>
    (w.obey? command).bind fun (answer, w) =>
      (w.answersTo? commands).map fun (answers, last) => (⟨command, answer⟩ :: answers, last)

end RawWindow

/-! Checks that pass -/

theorem signed?_of_fits {n : Int} (low : minInteger ≤ n) (high : n ≤ maxInteger) :
    signed? n = some (Int64.ofInt n) := if_pos ⟨low, high⟩

theorem unsigned?_of_fits {n : Nat} (high : n ≤ maxWord) :
    unsigned? n = some (UInt64.ofNat n) :=
  if_pos ⟨Int.natCast_nonneg n, Int.ofNat_le.mpr high⟩

theorem toNat_ofNat_of_fits {n : Nat} (high : n < 2 ^ 64) : (UInt64.ofNat n).toNat = n := by
  rw [UInt64.toNat_ofNat', Nat.mod_eq_of_lt high]

theorem toInt_ofInt_of_fits {n : Int} (low : minInteger ≤ n) (high : n ≤ maxInteger) :
    (Int64.ofInt n).toInt = n := by
  unfold minInteger maxInteger at *
  exact Int64.toInt_ofInt_of_le (by omega) (by omega)

/-- What a truncated quotient leaves of an integer, raised once if it is negative, is
the remainder that is never negative. -/
theorem emod_eq_tmod {a b : Int} (positive : 0 < b) :
    a % b = if a.tmod b < 0 then a.tmod b + b.natAbs else a.tmod b := by
  have low := Int.emod_nonneg a positive.ne'
  have high := Int.emod_lt_of_pos a positive
  rw [Int.tmod_eq_emod]
  split
  · simp [low]
  · rw [if_pos (by omega)]
    omega

theorem remainder?_eq (i : Index) {divisor : Index} (positive : 0 < divisor.toInt) :
    remainder? i divisor = some (Int64.ofInt (i.toInt % divisor.toInt)) := by
  have nonneg := Int.emod_nonneg i.toInt positive.ne'
  have below := Int.emod_lt_of_pos i.toInt positive
  have high := divisor.le_maxInteger
  have truncated := emod_eq_tmod (a := i.toInt) positive
  have proper : ¬ (divisor = 0 ∨ i = Int64.minValue ∧ divisor = -1) := by
    rintro (rfl | ⟨-, rfl⟩)
    · exact absurd positive (by decide)
    · exact absurd positive (by decide)
  have low' : minInteger ≤ i.toInt.tmod divisor.toInt := by
    unfold minInteger maxInteger at *
    split at truncated <;> omega
  have high' : i.toInt.tmod divisor.toInt ≤ maxInteger := by
    split at truncated <;> omega
  have rest := toInt_ofInt_of_fits low' high'
  unfold remainder?
  rw [if_neg proper, signed?_of_fits low' high']
  simp only [Option.bind_eq_bind, Option.bind_some, Int64.lt_iff_toInt_lt, Int64.toInt_zero, rest]
  by_cases negative : i.toInt.tmod divisor.toInt < 0
  · rw [if_pos negative] at truncated
    rw [if_pos negative, ← truncated]
    exact signed?_of_fits (by unfold minInteger; omega) (by omega)
  · rw [if_neg negative] at truncated
    rw [if_neg negative, ← truncated]
    rfl

/-- The number of words for a number of bits that does not come near the end of the
range. -/
theorem ceiling?_eq {n : UInt64} (small : n.toNat ≤ maxCapacity) :
    ceiling? n 64 = some (UInt64.ofNat (wordCount n.toNat)) := by
  unfold maxCapacity at small
  have quotient : (n / 64).toNat = n.toNat / 64 := UInt64.toNat_div n 64
  have rest : (n % 64).toNat = n.toNat % 64 := UInt64.toNat_mod n 64
  unfold ceiling? wordCount
  rw [if_neg (by decide)]
  by_cases more : 0 < n % 64
  · rw [if_pos more, quotient]
    rw [UInt64.lt_iff_toNat_lt, rest, UInt64.toNat_zero] at more
    have above : (n.toNat + 63) / 64 = n.toNat / 64 + 1 := by omega
    rw [above]
    exact unsigned?_of_fits (n := n.toNat / 64 + 1) (by unfold maxWord; omega)
  · rw [if_neg more]
    rw [UInt64.lt_iff_toNat_lt, rest, UInt64.toNat_zero] at more
    have same : (n.toNat + 63) / 64 = n.toNat / 64 := by omega
    rw [same, ← quotient, UInt64.ofNat_toNat]

namespace Window

variable {α : Type}

/-- The window in words. -/
def raw (w : Window) : RawWindow :=
  ⟨w.first, w.next, UInt64.ofNat w.capacity, w.words⟩

variable (w : Window)

theorem toNat_capacity_raw : w.raw.capacity.toNat = w.capacity := by
  have bound := w.capacity_le
  unfold maxCapacity at bound
  exact toNat_ofNat_of_fits (by omega)

theorem signed?_capacity : signed? w.raw.capacity.toNat = some (Int64.ofInt w.capacity) := by
  have bound := w.capacity_le
  rw [toNat_capacity_raw]
  unfold maxCapacity at bound
  exact signed?_of_fits (by unfold minInteger; omega) (by unfold maxInteger; omega)

theorem toInt_capacity : (Int64.ofInt w.capacity).toInt = w.capacity := by
  have bound := w.capacity_le
  unfold maxCapacity at bound
  exact toInt_ofInt_of_fits (by unfold minInteger; omega) (by unfold maxInteger; omega)

theorem base?_raw : w.raw.base? = some w.base := by
  unfold RawWindow.base?
  rw [signed?_capacity]
  simp only [Option.bind_eq_bind, Option.bind_some, toInt_capacity]
  rfl

theorem place_lt_two_pow (i : Index) : w.place i < 2 ^ 64 := by
  have inside := w.place_lt i
  have bound := w.capacity_le
  unfold maxCapacity at bound
  omega

theorem slot?_raw (i : Index) :
    w.raw.slot? i = some (UInt64.ofNat (w.place i / 64), bit (w.place i)) := by
  have positive := w.capacity_pos
  have small := w.place_lt_two_pow i
  have place : i.toInt % w.capacity = w.place i := by
    rw [Window.place, Int.toNat_of_nonneg (Int.emod_nonneg _ (by omega))]
  have remainder : remainder? i (Int64.ofInt w.capacity) = some (Int64.ofInt (w.place i)) := by
    rw [remainder?_eq i (by rw [toInt_capacity]; omega), toInt_capacity, place]
  have back : (Int64.ofInt (w.place i)).toInt = w.place i := by
    have inside := w.place_lt i
    have bound := w.capacity_le
    unfold maxCapacity at bound
    exact toInt_ofInt_of_fits (by unfold minInteger; omega) (by unfold maxInteger; omega)
  have number : UInt64.ofNat (w.place i) / 64 = UInt64.ofNat (w.place i / 64) := by
    apply UInt64.toNat_inj.mp
    rw [UInt64.toNat_div, toNat_ofNat_of_fits small, toNat_ofNat_of_fits (by omega)]
    rfl
  have distance : UInt64.ofNat (w.place i) % 64 = UInt64.ofNat (w.place i % 64) := by
    apply UInt64.toNat_inj.mp
    rw [UInt64.toNat_mod, toNat_ofNat_of_fits small, toNat_ofNat_of_fits (by omega)]
    rfl
  have mask : bit? (UInt64.ofNat (w.place i % 64)) = some (bit (w.place i)) := by
    refine if_pos ?_
    rw [UInt64.lt_iff_toNat_lt, toNat_ofNat_of_fits (by omega)]
    exact Nat.mod_lt _ (by decide)
  unfold RawWindow.slot?
  simp only [signed?_capacity, remainder, back, Option.bind_eq_bind, Option.bind_some]
  rw [unsigned?_of_fits (by unfold maxWord; omega)]
  simp only [Option.bind_some, number, distance, mask]
  rfl

/-- Every index has its bit in a word that is there. -/
theorem slot_exists (i : Index) :
    ∃ number mask, w.raw.slot? i = some (number, mask) ∧ number.toNat < w.raw.words.size := by
  have small := w.place_lt_two_pow i
  refine ⟨_, _, w.slot?_raw i, ?_⟩
  rw [toNat_ofNat_of_fits (by omega)]
  exact w.place_div_lt i

theorem isOutstanding?_raw (i : Index) : w.raw.isOutstanding? i = some (w.isOutstanding i) := by
  have small := w.place_lt_two_pow i
  have inside := w.place_div_lt i
  unfold RawWindow.isOutstanding? isOutstanding
  simp only [base?_raw, slot?_raw, Option.bind_eq_bind, Option.bind_some,
    toNat_ofNat_of_fits (show w.place i / 64 < 2 ^ 64 by omega)]
  show (if w.covers i = true then _ else _) = _
  by_cases covered : w.covers i = true
  · rw [if_pos covered, covered]
    have word : w.raw.words[w.place i / 64]? = some w.words[w.place i / 64] :=
      Array.getElem?_eq_getElem inside
    simp only [word, Option.bind_some, Bool.true_and]
    rfl
  · rw [if_neg covered, eq_false_of_ne_true covered]
    rfl

/-- Changing the word of an index with its bit. -/
theorem modify?_raw (i : Index) (change : UInt64 → UInt64 → UInt64) :
    w.raw.modify? i change = some { w.raw with
      words := w.words.modify (w.place i / 64) (change · (bit (w.place i))) } := by
  have small := w.place_lt_two_pow i
  have inside := w.place_div_lt i
  have word : w.raw.words[w.place i / 64]? = some w.words[w.place i / 64] :=
    Array.getElem?_eq_getElem inside
  have written : w.words.setIfInBounds (w.place i / 64)
      (change w.words[w.place i / 64] (bit (w.place i))) =
      w.words.modify (w.place i / 64) (change · (bit (w.place i))) := by
    refine Array.ext (by simp) fun k within _ => ?_
    rw [Array.getElem_modify, Array.getElem_setIfInBounds (by simpa using within)]
    by_cases same : w.place i / 64 = k
    · subst same
      simp
    · simp [same]
  unfold RawWindow.modify?
  simp only [slot?_raw, Option.bind_eq_bind, Option.bind_some,
    toNat_ofNat_of_fits (show w.place i / 64 < 2 ^ 64 by omega), word]
  rw [← written]
  rfl

theorem mark?_raw (i : Index) : w.raw.modify? i (· ||| ·) = some (w.mark i).raw :=
  w.modify?_raw i _

theorem clear?_raw (i : Index) :
    w.raw.modify? i (fun word mask => word &&& ~~~mask) = some (w.clear i).raw :=
  w.modify?_raw i _

theorem issueWith?_raw (work : Index → Result α) :
    w.raw.issueWith? (fun i => some (work i)) =
      some ((w.issueWith work).1, (w.issueWith work).2.raw) := by
  unfold RawWindow.issueWith? issueWith
  by_cases last : w.next = Index.last
  · rw [if_pos last]
    exact if_pos last
  · have low := w.next.minInteger_le
    have below := Index.toInt_lt_of_ne_last last
    have succ : signed? (w.next.toInt + 1) = some (w.next + 1) := by
      rw [signed?_of_fits (by omega) (by omega), ← Index.toInt_succ last, Int64.ofInt_toInt]
    rw [if_neg last, if_neg (show ¬ w.raw.next = Index.last from last)]
    show (work w.next |> some).bind _ = _
    rw [Option.bind_some]
    cases work w.next with
    | error e => rfl
    | ok a =>
      show (w.raw.modify? w.next _).bind _ = _
      rw [mark?_raw, Option.bind_some]
      show (signed? (w.next.toInt + 1)).bind _ = _
      rw [succ]
      rfl

theorem redeemWith?_raw (i : Index) (work : Unit → Result α) :
    w.raw.redeemWith? i (fun _ => some (work ())) =
      some ((w.redeemWith i work).1, (w.redeemWith i work).2.raw) := by
  unfold RawWindow.redeemWith? redeemWith
  rw [isOutstanding?_raw]
  simp only [Option.bind_eq_bind, Option.bind_some]
  by_cases valid : w.isOutstanding i = true
  · rw [if_pos valid, if_pos valid]
    cases work () with
    | error e => rfl
    | ok a =>
      show (w.raw.modify? i _).bind _ = _
      rw [clear?_raw]
      rfl
  · rw [if_neg valid, if_neg valid]
    rfl

/-- A command is obeyed in words as it is with integers. -/
theorem obey?_raw (command : Command) :
    w.raw.obey? command = some ((w.obey command).1, (w.obey command).2.raw) := by
  cases command with
  | issue => exact w.issueWith?_raw .ok
  | issueWith work => exact w.issueWith?_raw work
  | redeem i =>
    show (w.raw.redeemWith? i fun _ => some (.ok ())).bind _ = _
    rw [redeemWith?_raw, Option.bind_some]
    show _ = some ((w.redeem i).1, (w.redeem i).2.raw)
    unfold redeem
    rcases w.redeemWith i fun _ => .ok () with ⟨e | u, w'⟩ <;> rfl
  | redeemWith i work => exact w.redeemWith?_raw i work
  | isOutstanding i =>
    show (w.raw.isOutstanding? i).bind _ = _
    rw [isOutstanding?_raw]
    rfl

/-- No check fails while a sequence of commands is obeyed. -/
theorem answersTo?_raw (commands : List Command) :
    w.raw.answersTo? commands = some
      ((answersTo Window.obey w commands).1, (answersTo Window.obey w commands).2.raw) := by
  induction commands generalizing w with
  | nil => rfl
  | cons command commands ih =>
    unfold RawWindow.answersTo?
    rw [obey?_raw, Option.bind_some]
    dsimp only
    rw [ih]
    rfl

theorem new?_raw {first : Index} {capacity : UInt64} {opened : Window}
    (new : Window.new first capacity.toNat = .ok opened) :
    RawWindow.new? first capacity = some (.ok opened.raw) := by
  unfold Window.new at new
  by_cases admissible : 0 < capacity.toNat ∧ capacity.toNat ≤ maxCapacity
  · rw [dif_pos admissible] at new
    obtain rfl := Except.ok.inj new
    have proper : ¬ (capacity = 0 ∨ maxCapacity < capacity.toNat) := by
      rintro (rfl | above)
      · exact absurd admissible.1 (by decide)
      · omega
    unfold RawWindow.new?
    have small := admissible.2
    have bound : wordCount capacity.toNat < 2 ^ 64 := by
      unfold maxCapacity at small
      unfold wordCount
      omega
    rw [if_neg proper, ceiling?_eq small]
    simp only [Option.bind_eq_bind, Option.bind_some, toNat_ofNat_of_fits bound]
    unfold raw
    rw [UInt64.ofNat_toNat]
    rfl
  · rw [dif_neg admissible] at new
    cases new

/-- A word has at most 64 set bits. -/
theorem bitCount_le (word : UInt64) : bitCount word ≤ 64 := by
  unfold bitCount
  split
  · omega
  · exact List.countP_le_length

/-- Summing up does not overflow while there is room for 64 more for each word. -/
private theorem foldlM_bitCount (words : List UInt64) {n : Nat}
    (room : n + 64 * words.length < 2 ^ 64) :
    words.foldlM (fun count word => unsigned? (count.toNat + bitCount word)) (UInt64.ofNat n) =
      some (UInt64.ofNat (words.foldl (fun count word => count + bitCount word) n)) := by
  induction words generalizing n with
  | nil => rfl
  | cons word words ih =>
    have more := bitCount_le word
    rw [List.length_cons] at room
    have sum : unsigned? (n + bitCount word) = some (UInt64.ofNat (n + bitCount word)) :=
      unsigned?_of_fits (n := n + bitCount word) (by unfold maxWord; omega)
    rw [List.foldlM_cons, toNat_ofNat_of_fits (by omega), sum, Option.bind_eq_bind,
      Option.bind_some, List.foldl_cons]
    exact ih (by omega)

theorem outstanding?_raw : w.raw.outstanding? = some (UInt64.ofNat w.outstanding) := by
  have size : w.words.size = (w.capacity + 63) / 64 := w.size_words
  have bound := w.capacity_le
  unfold maxCapacity at bound
  unfold RawWindow.outstanding? outstanding
  rw [← Array.foldlM_toList, ← Array.foldl_toList]
  refine foldlM_bitCount w.words.toList (n := 0) ?_
  rw [Array.length_toList, size]
  omega

/-- The sum has room in a word. -/
theorem outstanding_exists :
    ∃ count, w.raw.outstanding? = some count ∧ count.toNat = w.outstanding := by
  refine ⟨_, w.outstanding?_raw, toNat_ofNat_of_fits ?_⟩
  have bound := w.capacity_le
  have places := Finset.card_filter_le (Finset.range (64 * w.words.size)) fun p => w.holds p = true
  rw [← outstanding_eq_card, Finset.card_range, w.size_words] at places
  unfold maxCapacity at bound
  unfold wordCount at places
  omega

end Window
end Resumption
