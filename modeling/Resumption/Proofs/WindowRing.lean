import Mathlib.Data.Finset.Card
import Mathlib.Data.Nat.Bitwise
import Mathlib.Data.Nat.Count
import Resumption.Window

/-! The ring of bits behind a window, read as a set of places. Words, masks and
shifts occur in this module only: setting and clearing an index change one
place each, and the number of set bits is the number of places that are held. -/
namespace Resumption.Window

/-- Whether the bit of a place is set. Places beyond the last word are not. -/
def holds (w : Window) (place : Nat) : Bool :=
  (w.words[place / 64]?.getD 0).toNat.testBit (place % 64)

private theorem toNat_bit (place : Nat) : (bit place).toNat = 2 ^ (place % 64) := by
  have small : place % 64 < 64 := Nat.mod_lt _ (by decide)
  have power : 2 ^ (place % 64) < 2 ^ 64 := Nat.pow_lt_pow_right (by decide) small
  have word : (UInt64.ofNat (place % 64)).toNat = place % 64 := by
    rw [UInt64.toNat_ofNat']
    omega
  rw [bit, UInt64.toNat_shiftLeft, word, Nat.mod_eq_of_lt small, UInt64.toNat_one,
    Nat.one_shiftLeft, Nat.mod_eq_of_lt power]

private theorem and_bit_ne_zero (word : UInt64) (place : Nat) :
    word &&& bit place ≠ 0 ↔ word.toNat.testBit (place % 64) = true := by
  rw [Ne, ← UInt64.toNat_inj, UInt64.toNat_and, toNat_bit, Nat.and_two_pow]
  cases word.toNat.testBit (place % 64) <;> simp

private theorem testBit_or_bit (word : UInt64) (place k : Nat) :
    (word ||| bit place).toNat.testBit k =
      (word.toNat.testBit k || decide (place % 64 = k)) := by
  rw [UInt64.toNat_or, Nat.testBit_or, toNat_bit, Nat.testBit_two_pow]

private theorem testBit_and_not_bit (word : UInt64) (place k : Nat) (inside : k < 64) :
    (word &&& ~~~bit place).toNat.testBit k =
      (word.toNat.testBit k && decide (place % 64 ≠ k)) := by
  have mask : (~~~bit place).toNat.testBit k = !(bit place).toNat.testBit k := by
    rw [← UInt64.toNat_toBitVec, ← UInt64.toNat_toBitVec, UInt64.toBitVec_not,
      BitVec.testBit_toNat, BitVec.testBit_toNat, BitVec.getLsbD_not]
    simp [inside]
  rw [UInt64.toNat_and, Nat.testBit_and, mask, toNat_bit, Nat.testBit_two_pow, decide_not]

/-- An index is outstanding when the window covers it and its place is held. -/
theorem isOutstanding_eq (w : Window) (i : Index) :
    w.isOutstanding i = (w.covers i && w.holds (w.place i)) := by
  have inside := w.place_div_lt i
  rw [isOutstanding, holds, Array.getElem?_eq_getElem inside, Option.getD_some]
  congr 1
  exact Bool.eq_iff_iff.mpr (decide_eq_true_iff.trans (and_bit_ne_zero _ _))

private theorem same_place_iff (p q : Nat) : p = q ↔ p / 64 = q / 64 ∧ p % 64 = q % 64 := by
  omega

private theorem holds_modify (w : Window) (i : Index) (change : UInt64 → UInt64)
    (sized : (w.words.modify (w.place i / 64) change).size = wordCount w.capacity) (p : Nat) :
    holds { w with words := w.words.modify (w.place i / 64) change, size_words := sized } p =
      if w.place i / 64 = p / 64 then (change (w.words[p / 64]?.getD 0)).toNat.testBit (p % 64)
      else w.holds p := by
  simp only [holds, Array.getElem?_modify]
  split
  · next same =>
    have inside : p / 64 < w.words.size := same ▸ w.place_div_lt i
    rw [Array.getElem?_eq_getElem inside]
    rfl
  · rfl

/-- Setting an index holds its place and changes no other. -/
theorem holds_mark (w : Window) (i : Index) (p : Nat) :
    (w.mark i).holds p = (w.holds p || decide (p = w.place i)) := by
  rw [mark, holds_modify, testBit_or_bit]
  have split := same_place_iff p (w.place i)
  by_cases word : w.place i / 64 = p / 64
  · have place : w.place i % 64 = p % 64 ↔ p = w.place i := by omega
    simp [holds, word, place]
  · have away : p ≠ w.place i := by omega
    simp [word, away]

/-- Clearing an index frees its place and changes no other. -/
theorem holds_clear (w : Window) (i : Index) (p : Nat) :
    (w.clear i).holds p = (w.holds p && decide (p ≠ w.place i)) := by
  rw [clear, holds_modify, testBit_and_not_bit _ _ _ (Nat.mod_lt _ (by decide))]
  have split := same_place_iff p (w.place i)
  by_cases word : w.place i / 64 = p / 64
  · have place : w.place i % 64 = p % 64 ↔ p = w.place i := by omega
    simp [holds, word, place]
  · have away : p ≠ w.place i := by omega
    simp [word, away]

/-- A window is told by its numbers and the places that it holds. -/
theorem eq_of_holds {w v : Window} (first : w.first = v.first) (next : w.next = v.next)
    (capacity : w.capacity = v.capacity) (same : ∀ p, w.holds p = v.holds p) : w = v := by
  have words : w.words = v.words := by
    refine Array.ext (by rw [w.size_words, v.size_words, capacity]) fun k left right => ?_
    refine UInt64.toNat_inj.mp (Nat.eq_of_testBit_eq fun j => ?_)
    by_cases inside : j < 64
    · have place : (64 * k + j) / 64 = k ∧ (64 * k + j) % 64 = j := by omega
      have bit := same (64 * k + j)
      simpa only [holds, place, Array.getElem?_eq_getElem, left, right, Option.getD_some]
        using bit
    · have beyond : 2 ^ 64 ≤ 2 ^ j := Nat.pow_le_pow_right (by decide) (not_lt.mp inside)
      rw [Nat.testBit_lt_two_pow (lt_of_lt_of_le (UInt64.toNat_lt _) beyond),
        Nat.testBit_lt_two_pow (lt_of_lt_of_le (UInt64.toNat_lt _) beyond)]
  cases w
  cases v
  simp_all

/-- A new window holds no place. -/
theorem holds_of_new {first : Index} {capacity : Nat} {w : Window}
    (opened : new first capacity = .ok w) (p : Nat) : w.holds p = false := by
  unfold new at opened
  split at opened
  · cases opened
    simp only [holds, Array.getElem?_replicate]
    split <;> simp
  · cases opened

private theorem bitCount_eq (word : UInt64) :
    bitCount word = Nat.count (fun k => word.toNat.testBit k = true) 64 := by
  unfold bitCount
  split
  · next zero => simp [zero, Nat.count_false]
  · simp [Nat.count]

/-- The set bits of a list of words, counted word by word or place by place. -/
private theorem sum_bitCount (words : List UInt64) :
    (words.map bitCount).sum =
      Nat.count (fun p => (words[p / 64]?.getD 0).toNat.testBit (p % 64) = true)
        (64 * words.length) := by
  induction words with
  | nil => rfl
  | cons word words ih =>
    have first : Nat.count (fun k => word.toNat.testBit k = true) 64 =
        Nat.count (fun p =>
          ((word :: words)[p / 64]?.getD 0).toNat.testBit (p % 64) = true) 64 := by
      refine List.countP_congr fun p member => ?_
      have low : p < 64 := List.mem_range.mp member
      simp [Nat.div_eq_of_lt low, Nat.mod_eq_of_lt low]
    have later : ∀ p, (64 + p) / 64 = p / 64 + 1 ∧ (64 + p) % 64 = p % 64 := by omega
    rw [List.map_cons, List.sum_cons, ih, bitCount_eq, first, List.length_cons, Nat.mul_succ,
      Nat.add_comm (64 * words.length), Nat.count_add]
    simp only [later, List.getElem?_cons_succ]

/-- The count of outstanding indices is the number of places that are held. -/
theorem outstanding_eq_card (w : Window) :
    w.outstanding =
      ((Finset.range (64 * w.words.size)).filter fun p => w.holds p = true).card := by
  have folded : w.outstanding = (w.words.toList.map bitCount).sum := by
    rw [outstanding, ← Array.foldl_toList, List.sum_eq_foldl, List.foldl_map]
  rw [folded, sum_bitCount, Array.length_toList, ← Nat.count_eq_card_filter_range]
  simp only [Array.getElem?_toList]
  rfl

/-- Clearing an index whose place is held leaves one place fewer. -/
theorem outstanding_clear {w : Window} {i : Index} (held : w.holds (w.place i) = true) :
    (w.clear i).outstanding + 1 = w.outstanding := by
  have size : (w.clear i).words.size = w.words.size := by
    rw [size_words, size_words]
    rfl
  have inside : w.place i < 64 * w.words.size := by
    have := w.place_div_lt i
    omega
  have others : ((Finset.range (64 * w.words.size)).filter fun p => (w.clear i).holds p = true) =
      ((Finset.range (64 * w.words.size)).filter fun p => w.holds p = true).erase (w.place i) := by
    ext p
    simp only [holds_clear, Finset.mem_filter, Finset.mem_erase, Bool.and_eq_true,
      decide_eq_true_eq]
    tauto
  rw [outstanding_eq_card, outstanding_eq_card, size, others]
  refine Finset.card_erase_add_one ?_
  exact Finset.mem_filter.mpr ⟨Finset.mem_range.mpr inside, held⟩

end Resumption.Window
