import Mathlib.Tactic.ByContra
import Resumption.Error
import Resumption.Proofs.Outcomes

/-! Errors by their variant alone. What a peer is blamed for depends on the variant of an
error and not on its wording, so a chain of steps is followed here by the variants its
steps can fail with. -/
namespace Resumption

/-- What sort of error it is, whatever its cause. -/
inductive Error.Variant
  | malformed
  | badPeer
  | invalidTicket
  | exhausted
  | encryption
  | invalidKey
  | invalidSetting
  | frameTooLarge
deriving DecidableEq, Repr

def Error.variant : Error → Error.Variant
  | malformed _ => .malformed
  | badPeer _ => .badPeer
  | invalidTicket => .invalidTicket
  | exhausted => .exhausted
  | encryption _ => .encryption
  | invalidKey _ => .invalidKey
  | invalidSetting _ => .invalidSetting
  | frameTooLarge _ _ => .frameTooLarge

variable {α β : Type} {answer other : Result α} {v : Error.Variant} {e : Error}

/-- The answer with no more of an error than its variant. -/
def byVariant (answer : Result α) : Except Error.Variant α :=
  answer.mapError Error.variant

/-- The answer is an error of the variant. -/
def FailsAs (answer : Result α) (v : Error.Variant) : Prop :=
  ∃ e, answer = .error e ∧ e.variant = v

@[simp] theorem not_failsAs_ok {a : α} : ¬ FailsAs (.ok a : Result α) v := by
  simp [FailsAs]

@[simp] theorem failsAs_error_iff : FailsAs (.error e : Result α) v ↔ v = e.variant := by
  simp [FailsAs, eq_comm]

@[simp] theorem failsAs_throw_iff : FailsAs (throw e : Result α) v ↔ v = e.variant :=
  failsAs_error_iff

/-- An answer that is none is an error of some variant. -/
theorem exists_failsAs (fails : ∀ a, answer ≠ .ok a) : ∃ v, FailsAs answer v := by
  cases answer with
  | ok a => exact absurd rfl (fails a)
  | error e => exact ⟨e.variant, e, rfl, rfl⟩

theorem FailsAs.ne_ok (fails : FailsAs answer v) (a : α) : answer ≠ .ok a := by
  rintro rfl
  exact not_failsAs_ok fails

/-- An answer fails as one variant. -/
theorem FailsAs.iff {w : Error.Variant} (fails : FailsAs answer w) : FailsAs answer v ↔ v = w := by
  obtain ⟨e, rfl, rfl⟩ := fails
  exact failsAs_error_iff

theorem FailsAs.bind {first : Result α} {second : α → Result β} (fails : FailsAs first v) :
    FailsAs (first >>= second) v := by
  obtain ⟨e, rfl, rfl⟩ := fails
  exact ⟨e, rfl, rfl⟩

/-- An answer that fails as one variant only does so exactly where it does not succeed. -/
theorem failsAs_iff_of_only {only : Error.Variant} {fault : Prop}
    (alone : ∀ v, FailsAs answer v → v = only) (succeeds : (∃ a, answer = .ok a) ↔ ¬ fault) :
    FailsAs answer v ↔ v = only ∧ fault := by
  constructor
  · intro fails
    refine ⟨alone v fails, ?_⟩
    by_contra sound
    obtain ⟨a, found⟩ := succeeds.mpr sound
    exact fails.ne_ok a found
  · rintro ⟨rfl, faulty⟩
    obtain ⟨v, fails⟩ : ∃ v, FailsAs answer v :=
      exists_failsAs fun a found => succeeds.mp ⟨a, found⟩ faulty
    exact alone v fails ▸ fails

/-- A chain of two steps fails as one of them does. -/
theorem failsAs_bind_iff {first : Result α} {second : α → Result β} :
    FailsAs (first >>= second) v ↔
      FailsAs first v ∨ ∃ a, first = .ok a ∧ FailsAs (second a) v := by
  cases first <;> simp [FailsAs, bind, Except.bind]

/-- What follows a check fails as the check does or, if the check passes, as it does
itself. -/
theorem failsAs_check_iff {refused : Prop} [Decidable refused] {rest : PUnit → Result α} :
    FailsAs (if refused then throw e >>= rest else rest ⟨⟩) v ↔
      refused ∧ v = e.variant ∨ ¬ refused ∧ FailsAs (rest ⟨⟩) v := by
  by_cases fails : refused
  · simp [fails, failsAs_bind_iff, throw, throwThe, MonadExceptOf.throw]
  · simp [fails]

theorem byVariant_eq_ok_iff {a : α} : byVariant answer = .ok a ↔ answer = .ok a :=
  mapError_eq_ok_iff

theorem byVariant_eq_error_iff : byVariant answer = .error v ↔ FailsAs answer v := by
  cases answer <;> simp [byVariant, FailsAs]

/-- Answers that are the same as far as they succeed, and fail as the same variants. -/
theorem byVariant_congr (succeed : ∀ a, answer = .ok a ↔ other = .ok a)
    (fail : ∀ v, FailsAs answer v ↔ FailsAs other v) : byVariant answer = byVariant other := by
  cases same : byVariant other with
  | ok a => exact byVariant_eq_ok_iff.mpr ((succeed a).mpr (byVariant_eq_ok_iff.mp same))
  | error v => exact byVariant_eq_error_iff.mpr ((fail v).mpr (byVariant_eq_error_iff.mp same))

end Resumption
