import Resumption.Limits

/-!
Positions in a buffer are machine words. A caller may pass any word as an offset, so the sums a
decoder forms from it come in three kinds: held at the largest word, refused when they do not fit,
and plain. Plain sums are right only after a check has placed the position inside the buffer.
-/

namespace Resumption

/-- A position in a buffer, or a distance between two. -/
abbrev Position := UInt64

namespace Position

/-- The largest position. -/
def last : Position := 0xFFFFFFFFFFFFFFFF

/-- The sum of a position and a distance, or the largest position where it does not fit. -/
def capped (p : Position) (distance : Nat) : Position :=
  if p.toNat + distance ≤ maxWord then p + UInt64.ofNat distance else last

/-- The sum of a position and a distance, if it fits. -/
def plus? (p : Position) (distance : Nat) : Option Position :=
  if p.toNat + distance ≤ maxWord then some (p + UInt64.ofNat distance) else none

theorem toNat_capped (p : Position) (distance : Nat) :
    (p.capped distance).toNat = min (p.toNat + distance) maxWord := by
  have bound := p.toNat_lt
  unfold capped maxWord
  split
  · next fits =>
    rw [UInt64.toNat_add, UInt64.toNat_ofNat']
    omega
  · next large =>
    show 18446744073709551615 = _
    omega

theorem toNat_of_plus? {p q : Position} {distance : Nat} (fits : p.plus? distance = some q) :
    q.toNat = p.toNat + distance := by
  unfold plus? maxWord at fits
  split at fits
  · cases fits
    rw [UInt64.toNat_add, UInt64.toNat_ofNat']
    omega
  · cases fits

end Position
end Resumption
