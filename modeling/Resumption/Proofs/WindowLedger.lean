import Mathlib.Algebra.Order.Group.Unbundled.Int
import Mathlib.Data.Int.ModEq
import Resumption.Proofs.IndexRange
import Resumption.Proofs.WindowRing

/-! What a window is for, said without the ring: the next index and the set of
indices that can be redeemed. `Represents` ties a window to such a ledger, and
each operation of the window keeps the tie. Bits of indices that grew old are
never cleared; they are harmless because the last `capacity` indices have
pairwise different places. -/
namespace Resumption

/-- The next index to issue and the indices that were issued, are among the
last `capacity` ones, and have not been redeemed since. -/
structure Ledger where
  capacity : Nat
  next : Int
  outstanding : Finset Int
deriving DecidableEq

namespace Ledger

variable {α : Type}

/-- The ledger of a host that has issued nothing. -/
def new (first : Int) (capacity : Nat) : Ledger := ⟨capacity, first, ∅⟩

/-- The ledger after the next index was issued: it can be redeemed, and all
that are more than `capacity` indices back no longer can. -/
def advance (book : Ledger) : Ledger where
  capacity := book.capacity
  next := book.next + 1
  outstanding := (insert book.next book.outstanding).filter (book.next + 1 - book.capacity ≤ ·)

/-- The ledger after an index was redeemed. -/
def settle (book : Ledger) (i : Int) : Ledger :=
  { book with outstanding := book.outstanding.erase i }

/-- Issues the next index if the work for it succeeds. A failure of any kind
changes nothing. -/
def issueWith (book : Ledger) (work : Index → Result α) : Result α × Ledger :=
  if book.next = maxInteger then (.error .exhausted, book)
  else match work (Int64.ofInt book.next) with
    | .error e => (.error e, book)
    | .ok a => (.ok a, book.advance)

/-- Redeems an index if it is outstanding and the work succeeds. A failure of
any kind changes nothing. -/
def redeemWith (book : Ledger) (i : Index) (work : Unit → Result α) : Result α × Ledger :=
  if i.toInt ∈ book.outstanding then
    match work () with
    | .error e => (.error e, book)
    | .ok a => (.ok a, book.settle i.toInt)
  else (.error .invalidTicket, book)

end Ledger

namespace Window

variable {α : Type} {w : Window} {book : Ledger}

/-- The window after its next index was issued. -/
def advance (w : Window) : Window :=
  { w.mark w.next with next := w.next + 1 }

/-- A ledger describes a window: they agree on the next index, everything in
the ledger lies among the last `capacity` indices, and the places that the
ring holds are exactly the places of what is in the ledger. -/
structure Represents (w : Window) (book : Ledger) : Prop where
  capacity : book.capacity = w.capacity
  next : book.next = w.next.toInt
  recent : ∀ i ∈ book.outstanding, w.next.toInt - w.capacity ≤ i ∧ i < w.next.toInt
  indices : ∀ i ∈ book.outstanding, minInteger ≤ i
  ring : ∀ p, w.holds p = true ↔ ∃ i ∈ book.outstanding, (i % w.capacity).toNat = p

theorem toInt_base (w : Window) : w.base.toInt = max minInteger (w.next.toInt - w.capacity) := by
  have high := w.next.le_maxInteger
  rw [base, Index.toInt_clamp, min_eq_left]
  omega

theorem covers_iff (w : Window) (i : Index) :
    w.covers i = true ↔ w.next.toInt - w.capacity ≤ i.toInt ∧ i.toInt < w.next.toInt := by
  have low := i.minInteger_le
  simp only [covers, Bool.and_eq_true, decide_eq_true_eq, Int64.le_iff_toInt_le,
    Int64.lt_iff_toInt_lt, toInt_base, max_le_iff, low, true_and]

/-- Indices that share a place are equal or at least `capacity` apart. -/
private theorem eq_of_same_place {capacity : Nat} {i j : Int} (low : Int)
    (same : (i % capacity).toNat = (j % capacity).toNat)
    (first : low ≤ i ∧ i < low + capacity) (second : low ≤ j ∧ j < low + capacity) : i = j := by
  have positive : (0 : Int) < capacity := by omega
  have remainders : i % capacity = j % capacity := by
    have := Int.emod_nonneg i positive.ne'
    have := Int.emod_nonneg j positive.ne'
    omega
  have multiple := Int.ModEq.dvd (remainders : i ≡ j [ZMOD capacity])
  have close : |j - i| < capacity := by
    rw [abs_lt]
    omega
  have zero := Int.eq_zero_of_abs_lt_dvd multiple close
  omega

/-- The indices that a window covers have different places. -/
theorem eq_of_place_eq {i j : Index} (first : w.covers i = true) (second : w.covers j = true)
    (same : w.place i = w.place j) : i = j := by
  rw [covers_iff] at first second
  exact Int64.toInt_inj.mp
    (eq_of_same_place (w.next.toInt - w.capacity) same (by omega) (by omega))

/-- Redeeming an index takes it from the outstanding ones and leaves the others. -/
theorem isOutstanding_clear {i : Index} (valid : w.isOutstanding i = true) (j : Index) :
    (w.clear i).isOutstanding j = (w.isOutstanding j && decide (j ≠ i)) := by
  have covered : w.covers i = true := by
    rw [isOutstanding_eq, Bool.and_eq_true] at valid
    exact valid.1
  rw [isOutstanding_eq, isOutstanding_eq]
  show (w.covers j && (w.clear i).holds (w.place j)) = _
  rw [holds_clear, Bool.and_assoc]
  by_cases inside : w.covers j = true
  · have places : w.place j ≠ w.place i ↔ j ≠ i :=
      ⟨fun apart same => apart (same ▸ rfl),
        fun apart same => apart (eq_of_place_eq inside covered same)⟩
    simp only [inside, places]
  · simp [inside]

/-- An index that is issued is outstanding right away. -/
theorem isOutstanding_advance (more : w.next ≠ Index.last) :
    w.advance.isOutstanding w.next = true := by
  have succ := Index.toInt_succ more
  have positive := w.capacity_pos
  rw [isOutstanding_eq, Bool.and_eq_true, covers_iff]
  refine ⟨?_, ?_⟩
  · show (w.next + 1).toInt - w.capacity ≤ w.next.toInt ∧ w.next.toInt < (w.next + 1).toInt
    omega
  · show (w.mark w.next).holds (w.place w.next) = true
    simp [holds_mark]

namespace Represents

/-- What the window counts as outstanding is what the ledger holds. -/
theorem isOutstanding_iff (rep : Represents w book) (i : Index) :
    w.isOutstanding i = true ↔ i.toInt ∈ book.outstanding := by
  rw [isOutstanding_eq, Bool.and_eq_true, covers_iff, rep.ring]
  constructor
  · rintro ⟨inside, j, member, same⟩
    have bounds := rep.recent j member
    have equal : j = i.toInt :=
      eq_of_same_place (w.next.toInt - w.capacity) same (by omega) (by omega)
    exact equal ▸ member
  · intro member
    exact ⟨rep.recent _ member, i.toInt, member, rfl⟩

/-- The number of outstanding indices is the size of the ledger. -/
theorem outstanding_eq (rep : Represents w book) : w.outstanding = book.outstanding.card := by
  have places : ((Finset.range (64 * w.words.size)).filter fun p => w.holds p = true) =
      book.outstanding.image fun i : Int => (i % (w.capacity : Int)).toNat := by
    ext p
    simp only [Finset.mem_filter, Finset.mem_range, Finset.mem_image, rep.ring]
    refine ⟨And.right, fun held => ⟨?_, held⟩⟩
    obtain ⟨i, -, rfl⟩ := held
    have positive := w.capacity_pos
    have below := Int.emod_lt_of_pos i (Int.natCast_pos.mpr positive)
    rw [w.size_words, wordCount]
    omega
  rw [outstanding_eq_card, places]
  refine Finset.card_image_of_injOn fun i left j right same => ?_
  have := rep.recent i left
  have := rep.recent j right
  exact eq_of_same_place (w.next.toInt - w.capacity) same (by omega) (by omega)

/-- A new window represents the empty ledger. -/
theorem of_new {first : Index} {capacity : Nat} (opened : Window.new first capacity = .ok w) :
    Represents w (Ledger.new first.toInt capacity) := by
  have empty := holds_of_new opened
  unfold Window.new at opened
  split at opened
  · cases opened
    exact ⟨rfl, rfl, by simp [Ledger.new], by simp [Ledger.new], by simp [Ledger.new, empty]⟩
  · cases opened

/-- Issuing sets the place of the next index. If the index that grows old was
outstanding, the two share that place, so the ring needs no clearing. -/
theorem advance (rep : Represents w book) (more : w.next ≠ Index.last) :
    Represents w.advance book.advance := by
  have succ := Index.toInt_succ more
  have positive := w.capacity_pos
  have keeps : ∀ i, i ∈ book.advance.outstanding ↔
      w.next.toInt + 1 - w.capacity ≤ i ∧ (i = w.next.toInt ∨ i ∈ book.outstanding) := by
    intro i
    simp [Ledger.advance, rep.capacity, rep.next, and_comm]
  have aged : ∀ i ∈ book.outstanding, i ∉ book.advance.outstanding →
      (i % w.capacity).toNat = w.place w.next := by
    intro i member gone
    have recent := rep.recent i member
    have oldest : i = w.next.toInt - w.capacity := by
      have := mt (keeps i).mpr gone
      simp only [member, or_true, and_true] at this
      omega
    rw [oldest, place, Int.sub_emod_right]
  constructor
  · exact rep.capacity
  · show book.next + 1 = (w.next + 1).toInt
    rw [succ, rep.next]
  · intro i member
    show (w.next + 1).toInt - w.capacity ≤ i ∧ i < (w.next + 1).toInt
    obtain ⟨low, rfl | old⟩ := (keeps i).mp member
    · omega
    · have := rep.recent i old
      omega
  · intro i member
    obtain ⟨-, rfl | old⟩ := (keeps i).mp member
    · exact w.next.minInteger_le
    · exact rep.indices i old
  · intro p
    show (w.mark w.next).holds p = true ↔
      ∃ i ∈ book.advance.outstanding, (i % w.capacity).toNat = p
    rw [holds_mark, Bool.or_eq_true, decide_eq_true_eq, rep.ring]
    constructor
    · rintro (⟨i, member, rfl⟩ | rfl)
      · by_cases stays : i ∈ book.advance.outstanding
        · exact ⟨i, stays, rfl⟩
        · exact ⟨w.next.toInt, (keeps _).mpr (by omega), (aged i member stays).symm⟩
      · exact ⟨w.next.toInt, (keeps _).mpr (by omega), rfl⟩
    · rintro ⟨i, member, rfl⟩
      obtain ⟨-, rfl | old⟩ := (keeps i).mp member
      · exact .inr rfl
      · exact .inl ⟨i, old, rfl⟩

/-- Redeeming clears the place of the index and of no other outstanding one. -/
theorem settle {i : Index} (rep : Represents w book) (member : i.toInt ∈ book.outstanding) :
    Represents (w.clear i) (book.settle i.toInt) := by
  constructor
  · exact rep.capacity
  · exact rep.next
  · exact fun j left => rep.recent j (Finset.mem_of_mem_erase left)
  · exact fun j left => rep.indices j (Finset.mem_of_mem_erase left)
  · intro p
    show (w.clear i).holds p = true ↔
      ∃ j ∈ book.outstanding.erase i.toInt, (j % w.capacity).toNat = p
    rw [holds_clear, Bool.and_eq_true, decide_eq_true_eq, rep.ring]
    have own := rep.recent _ member
    constructor
    · rintro ⟨⟨j, left, rfl⟩, other⟩
      exact ⟨j, Finset.mem_erase.mpr ⟨fun same => other (same ▸ rfl), left⟩, rfl⟩
    · rintro ⟨j, left, rfl⟩
      obtain ⟨other, left⟩ := Finset.mem_erase.mp left
      refine ⟨⟨j, left, rfl⟩, fun same => other ?_⟩
      have := rep.recent j left
      exact eq_of_same_place (w.next.toInt - w.capacity) same (by omega) (by omega)

/-- Issuing answers as the ledger does and keeps the tie. -/
theorem issueWith (rep : Represents w book) (work : Index → Result α) :
    (w.issueWith work).1 = (book.issueWith work).1 ∧
      Represents (w.issueWith work).2 (book.issueWith work).2 := by
  unfold Window.issueWith Ledger.issueWith
  have spent : w.next = Index.last ↔ book.next = maxInteger := by
    rw [rep.next, Index.eq_last_iff]
  by_cases last : w.next = Index.last
  · rw [if_pos last, if_pos (spent.mp last)]
    exact ⟨rfl, rep⟩
  · rw [if_neg last, if_neg (mt spent.mpr last), rep.next, Int64.ofInt_toInt]
    cases work w.next with
    | error e => exact ⟨rfl, rep⟩
    | ok a => exact ⟨rfl, rep.advance last⟩

/-- Redeeming answers as the ledger does and keeps the tie. -/
theorem redeemWith (rep : Represents w book) (i : Index) (work : Unit → Result α) :
    (w.redeemWith i work).1 = (book.redeemWith i work).1 ∧
      Represents (w.redeemWith i work).2 (book.redeemWith i work).2 := by
  unfold Window.redeemWith Ledger.redeemWith
  by_cases valid : w.isOutstanding i = true
  · have member := (rep.isOutstanding_iff i).mp valid
    rw [if_pos valid, if_pos member]
    cases work () with
    | error e => exact ⟨rfl, rep⟩
    | ok a => exact ⟨rfl, rep.settle member⟩
  · rw [if_neg valid, if_neg (mt (rep.isOutstanding_iff i).mpr valid)]
    exact ⟨rfl, rep⟩

end Represents
end Window
end Resumption
