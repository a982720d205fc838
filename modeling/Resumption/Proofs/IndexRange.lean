import Resumption.Ticket.Index

/-! Indices as integers. Their range ends at the last index, which has no
successor; every other index is followed by the next integer. -/
namespace Resumption.Index

theorem minInteger_le (i : Index) : minInteger ≤ i.toInt := by
  have bound := i.le_toInt
  unfold minInteger
  omega

theorem le_maxInteger (i : Index) : i.toInt ≤ maxInteger := by
  have bound := i.toInt_lt
  unfold maxInteger
  omega

theorem toInt_last : last.toInt = maxInteger := rfl

theorem eq_last_iff (i : Index) : i = last ↔ i.toInt = maxInteger := by
  rw [← toInt_last, Int64.toInt_inj]

theorem toInt_lt_of_ne_last {i : Index} (more : i ≠ last) : i.toInt < maxInteger :=
  Int.lt_iff_le_and_ne.mpr ⟨i.le_maxInteger, fun same => more ((eq_last_iff i).mpr same)⟩

/-- Every index but the last has a successor. -/
theorem toInt_succ {i : Index} (more : i ≠ last) : (i + 1).toInt = i.toInt + 1 := by
  have low := i.minInteger_le
  have below := toInt_lt_of_ne_last more
  unfold minInteger maxInteger at *
  rw [Int64.toInt_add, Int64.toInt_one, Int.bmod]
  omega

theorem lt_succ {i : Index} (more : i ≠ last) : i < i + 1 := by
  rw [Int64.lt_iff_toInt_lt, toInt_succ more]
  omega

/-- What lies below another index has a successor, and that is not above it. -/
theorem ne_last_of_lt {i j : Index} (less : i < j) : i ≠ last := by
  rintro rfl
  have high := j.le_maxInteger
  rw [Int64.lt_iff_toInt_lt, toInt_last] at less
  omega

theorem succ_le_of_lt {i j : Index} (less : i < j) : i + 1 ≤ j := by
  rw [Int64.le_iff_toInt_le, toInt_succ (ne_last_of_lt less)]
  exact Int64.lt_iff_toInt_lt.mp less

end Resumption.Index
