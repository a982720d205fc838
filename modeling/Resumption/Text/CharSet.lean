/-!
Sets of characters given by ranges of code points, as character properties are published. Both ends
of a range belong to it.
-/

namespace Resumption.Text

/-- A set of characters as a list of closed ranges of code points. -/
structure CharSet where
  ranges : List (Nat × Nat)

namespace CharSet

/-- Whether some range holds the character's code point. -/
def contains (set : CharSet) (c : Char) : Bool :=
  set.ranges.any fun range => range.1 ≤ c.toNat && c.toNat ≤ range.2

theorem contains_iff {set : CharSet} {c : Char} :
    set.contains c = true ↔ ∃ range ∈ set.ranges, range.1 ≤ c.toNat ∧ c.toNat ≤ range.2 := by
  simp [contains]

end CharSet
end Resumption.Text
