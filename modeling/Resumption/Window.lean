import Resumption.Error
import Resumption.Ticket.Index

/-!
The window of issued indices. Indices are handed out one after another; the window remembers the
last `capacity` of them in a ring of bits, where an index has the place that its remainder modulo
the capacity gives. A bit is set for an index that was issued and not redeemed since. Issuing an
index takes over the bit of the one that leaves the window at that moment, so growing old needs no
step of its own, and whatever fails changes nothing.
-/

namespace Resumption

/-- The number of words that hold one bit for each of `capacity` indices. -/
def wordCount (capacity : Nat) : Nat :=
  (capacity + 63) / 64

/-- The indices of a host: the first it issues, the next it will issue, and one bit for each of the
last `capacity` before that. -/
structure Window where
  first : Index
  next : Index
  capacity : Nat
  words : Array UInt64
  capacity_pos : 0 < capacity
  capacity_le : capacity ≤ maxCapacity
  size_words : words.size = wordCount capacity

namespace Window

/-- The window of a host that has issued nothing. -/
def new (first : Index) (capacity : Nat) : Result Window :=
  if admissible : 0 < capacity ∧ capacity ≤ maxCapacity then
    .ok {
      first, next := first, capacity
      words := Array.replicate (wordCount capacity) 0
      capacity_pos := admissible.1
      capacity_le := admissible.2
      size_words := Array.size_replicate }
  else .error (.invalidSetting (.windowCapacity capacity))

/-- The lowest index that can still be redeemed. -/
def base (w : Window) : Index :=
  Index.clamp (w.next.toInt - w.capacity)

/-- Whether an index lies among the last `capacity` ones before the next. -/
def covers (w : Window) (i : Index) : Bool :=
  w.base ≤ i && i < w.next

/-- The place of an index in the ring. -/
def place (w : Window) (i : Index) : Nat :=
  (i.toInt % w.capacity).toNat

theorem place_lt (w : Window) (i : Index) : w.place i < w.capacity := by
  have positive := w.capacity_pos
  have below := Int.emod_lt_of_pos i.toInt (Int.natCast_pos.mpr positive)
  unfold place
  omega

theorem place_div_lt (w : Window) (i : Index) : w.place i / 64 < w.words.size := by
  have below := w.place_lt i
  rw [w.size_words, wordCount]
  omega

/-- The bit of a place within its word. -/
def bit (place : Nat) : UInt64 :=
  1 <<< UInt64.ofNat (place % 64)

/-- Whether an index was issued, is covered, and has not been redeemed. -/
def isOutstanding (w : Window) (i : Index) : Bool :=
  have inside := w.place_div_lt i
  w.covers i && w.words[w.place i / 64] &&& bit (w.place i) ≠ 0

/-- The window with the bit of an index set. -/
def mark (w : Window) (i : Index) : Window :=
  { w with
    words := w.words.modify (w.place i / 64) (· ||| bit (w.place i))
    size_words := by simp [w.size_words] }

/-- The window with the bit of an index cleared. -/
def clear (w : Window) (i : Index) : Window :=
  { w with
    words := w.words.modify (w.place i / 64) (· &&& ~~~bit (w.place i))
    size_words := by simp [w.size_words] }

/-- Issues the next index if the work done for it succeeds. The last index of all is never
issued. -/
def issueWith {α : Type} (w : Window) (work : Index → Result α) : Result α × Window :=
  if w.next = Index.last then (.error .exhausted, w)
  else match work w.next with
    | .error e => (.error e, w)
    | .ok a => (.ok a, { w.mark w.next with next := w.next + 1 })

/-- Issues the next index. -/
def issue (w : Window) : Result Index × Window :=
  w.issueWith .ok

/-- Redeems an index that is outstanding if the work done for it succeeds. -/
def redeemWith {α : Type} (w : Window) (i : Index) (work : Unit → Result α) : Result α × Window :=
  if w.isOutstanding i then
    match work () with
    | .error e => (.error e, w)
    | .ok a => (.ok a, w.clear i)
  else (.error .invalidTicket, w)

/-- Redeems an index, and says whether it was outstanding. -/
def redeem (w : Window) (i : Index) : Bool × Window :=
  match w.redeemWith i fun _ => .ok () with
  | (.ok (), w) => (true, w)
  | (.error _, w) => (false, w)

/-- The number of set bits of a word. -/
def bitCount (word : UInt64) : Nat :=
  if word = 0 then 0
  else (List.range 64).countP fun k => word.toNat.testBit k

/-- The number of covered indices that still await redemption. -/
def outstanding (w : Window) : Nat :=
  w.words.foldl (fun count word => count + bitCount word) 0

/-- The window as developers see it. -/
def describe (w : Window) : String :=
  "TicketIndexAllocator \x7b " ++ s!"first_index: {w.first.text}, next_index: {w.next.text}, " ++
    s!"window_base: {w.base.text}, capacity: {w.capacity}" ++ " \x7d"

end Window
end Resumption
