import Resumption.Key
import Resumption.Proofs.Outcomes

/-! Steps of a reader that are checked. Wherever a word might have no room for a sum, or a
byte might lie outside the buffer, the step ends without an answer, neither a value nor an
error. Steps in words track steps that are told without such checks if they always end, and
with the same answer. -/
namespace Resumption

/-- The most bytes that a buffer in memory has. -/
def maxLength : Nat := 9223372036854775807

/-- Steps that may fail with an error, and that end with `none` where a check fails. -/
abbrev Checked (α : Type) := ExceptT Error Option α

namespace Checked

variable {α β γ δ : Type}

/-- A value that has to be there. -/
def demand (found : Option α) : Checked α :=
  ExceptT.lift found

/-- Steps in which there is nothing to check. -/
def unchecked (answer : Result α) : Checked α :=
  ExceptT.mk (some answer)

/-- A sum that has to fit a word. -/
def sum (p q : Position) : Checked Position :=
  demand (p.plus? q.toNat)

/-- A difference that must not be negative. -/
def difference (p q : Position) : Checked Position :=
  demand (if q ≤ p then some (p - q) else none)

/-- A byte that has to be in the buffer. -/
def byteAt (data : Bytes) (p : Position) : Checked UInt8 :=
  demand data[p.toNat]?

/-- The `n` bytes of a part that begins at a position, or why they are not there. They are
copied to a place for exactly so many. -/
def field (data : Bytes) (start : Position) (n : Nat) (part : Part) : Checked (Octets n) := do
  let some stop := start.plus? n | throw (.malformed (.unreachable part))
  let some bytes := data.slice? start.toNat stop.toNat
    | throw (.truncated part stop.toNat data.length)
  demand (Octets.ofList? n bytes)

/-- The steps end as the answer does, with a value that stands for its value or with its
error. -/
def Tracks (same : α → β → Prop) (steps : Checked α) : Result β → Prop
  | .ok b => ∃ a, steps.run = some (.ok a) ∧ same a b
  | .error e => steps.run = some (.error e)

variable {same : α → β → Prop} {same' : γ → δ → Prop} {steps : Checked α} {answer : Result β}

theorem Tracks.run_eq {answer : Result α} (tracks : Tracks (· = ·) steps answer) :
    steps.run = some answer := by
  cases answer with
  | ok a =>
    obtain ⟨_, ran, rfl⟩ := tracks
    exact ran
  | error e => exact tracks

theorem tracks_pure {a : α} {b : β} (alike : same a b) :
    Tracks same (pure a) (pure b : Result β) :=
  ⟨a, rfl, alike⟩

theorem tracks_throw (e : Error) : Tracks same (throw e : Checked α) (throw e : Result β) :=
  rfl

theorem tracks_unchecked (answer : Result α) : Tracks (· = ·) (unchecked answer) answer := by
  cases answer with
  | ok a => exact ⟨a, rfl, rfl⟩
  | error e => rfl

/-- Chains that are tracked step by step. -/
theorem Tracks.bind (tracks : Tracks same steps answer) {next : α → Checked γ}
    {next' : β → Result δ}
    (rest : ∀ a b, same a b → answer = .ok b → Tracks same' (next a) (next' b)) :
    Tracks same' (steps >>= next) (answer >>= next') := by
  cases answer with
  | ok b =>
    obtain ⟨a, ran, alike⟩ := tracks
    have run : (steps >>= next).run = (next a).run := by
      rw [ExceptT.run_bind, ran]
      rfl
    have tail := rest a b alike rfl
    show Tracks same' (steps >>= next) (next' b)
    unfold Tracks at tail ⊢
    rwa [run]
  | error e =>
    show (steps >>= next).run = some (.error e)
    rw [ExceptT.run_bind, show steps.run = _ from tracks]
    rfl

/-- A check that passes leaves no trace. -/
theorem Tracks.after {a : α} {check : Checked α} {next : α → Checked γ} {answer : Result δ}
    (passes : check.run = some (.ok a)) (rest : Tracks same' (next a) answer) :
    Tracks same' (check >>= next) answer := by
  have run : (check >>= next).run = (next a).run := by
    rw [ExceptT.run_bind, passes]
    rfl
  unfold Tracks at rest ⊢
  rwa [run]

/-- A condition under which both refuse. -/
theorem tracks_refuse {refused : Prop} [Decidable refused] {e : Error}
    {next : PUnit → Checked α} {next' : PUnit → Result β}
    (rest : ¬ refused → Tracks same (next ⟨⟩) (next' ⟨⟩)) :
    Tracks same (if refused then throw e >>= next else next ⟨⟩)
      (if refused then throw e >>= next' else next' ⟨⟩) := by
  by_cases fails : refused
  · rw [if_pos fails, if_pos fails]
    exact rfl
  · rw [if_neg fails, if_neg fails]
    exact rest fails

/-- An error that is put in other words. -/
theorem Tracks.adapt (tracks : Tracks same steps answer) (f : Error → Error) :
    Tracks same (steps.adapt f) (answer.mapError f) := by
  cases answer with
  | ok b =>
    obtain ⟨a, ran, alike⟩ := tracks
    refine ⟨a, ?_, alike⟩
    show (steps.run.map _) = _
    rw [ran]
    rfl
  | error e =>
    show (steps.run.map _) = _
    rw [show steps.run = _ from tracks]
    rfl

theorem run_demand {found : Option α} {a : α} (there : found = some a) :
    (demand found).run = some (.ok a) := by
  subst there
  rfl

theorem run_sum {p q : Position} (fits : p.toNat + q.toNat ≤ maxWord) :
    (sum p q).run = some (.ok (p + q)) := by
  refine run_demand ?_
  rw [Position.plus?, if_pos fits, UInt64.ofNat_toNat]

theorem run_difference {p q : Position} (below : q.toNat ≤ p.toNat) :
    (difference p q).run = some (.ok (p - q)) :=
  run_demand (if_pos (UInt64.le_iff_toNat_le.mpr below))

theorem run_byteAt {data : Bytes} {p : Position} {byte : UInt8}
    (there : data[p.toNat]? = some byte) : (byteAt data p).run = some (.ok byte) :=
  run_demand there

/-- Reading a field never ends without an answer, whatever the position. -/
theorem tracks_field (data : Bytes) (start : Position) (n : Nat) (part : Part) :
    Tracks (· = ·) (field data start n part) (data.field start n part) := by
  unfold field Bytes.field
  cases sum : start.plus? n with
  | none => exact rfl
  | some stop =>
    have place := Position.toNat_of_plus? sum
    dsimp only
    cases found : data.slice? start.toNat stop.toNat with
    | none => exact rfl
    | some bytes =>
      have length := Bytes.length_of_slice? found
      have fits : Octets.ofList? n bytes = some ⟨bytes, by omega⟩ := dif_pos _
      rw [Option.bind_some, fits]
      exact ⟨_, run_demand fits, rfl⟩

end Checked
end Resumption
