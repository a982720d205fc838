/-! When a chain of steps that may fail succeeds. -/
namespace Resumption

variable {ε ε' α β : Type} {b : β}

/-- A chain of two steps succeeds exactly if both do. -/
theorem bind_eq_ok_iff {first : Except ε α} {second : α → Except ε β} :
    first >>= second = .ok b ↔ ∃ a, first = .ok a ∧ second a = .ok b := by
  cases first <;> simp [bind, Except.bind]

/-- What follows a check succeeds exactly if the check passes. -/
theorem check_eq_ok_iff {refused : Prop} [Decidable refused] {e : ε}
    {rest : PUnit → Except ε β} :
    (if refused then throw e >>= rest else rest ⟨⟩) = .ok b ↔ ¬ refused ∧ rest ⟨⟩ = .ok b := by
  by_cases fails : refused
  · simp [fails, throw, throwThe, MonadExceptOf.throw, bind, Except.bind]
  · simp [fails]

@[simp] theorem mapError_ok {f : ε → ε'} : (Except.ok b).mapError f = .ok b := rfl

@[simp] theorem mapError_error {e : ε} {f : ε → ε'} :
    (Except.error e : Except ε β).mapError f = .error (f e) := rfl

theorem mapError_eq_ok_iff {answer : Except ε β} {f : ε → ε'} :
    answer.mapError f = .ok b ↔ answer = .ok b := by
  cases answer <;> simp

theorem map_pair_eq_ok_iff {answer : Except ε β} {used size : α} :
    (answer.map fun b => (b, size)) = .ok (b, used) ↔ used = size ∧ answer = .ok b := by
  cases answer <;> simp [Except.map, and_comm, eq_comm]

end Resumption
