import Resumption.Proofs.WindowLedger

/-! Every sequence of calls to a window is answered as a ledger answers it.
Calls are data here: the work that a caller brings along may give any type of
result and may fail in any way, so nothing is assumed about callers. -/
namespace Resumption

/-- What callers ask of a window. -/
inductive Command : Type 1
  | issue
  | issueWith {α : Type} (work : Index → Result α)
  | redeem (i : Index)
  | redeemWith {α : Type} (i : Index) (work : Unit → Result α)
  | isOutstanding (i : Index)

/-- What the answer to a command can be. -/
@[reducible] def Command.Answer : Command → Type
  | issue => Result Index
  | @issueWith α _ => Result α
  | redeem _ => Bool
  | @redeemWith α _ _ => Result α
  | isOutstanding _ => Bool

/-- A command together with its answer. -/
abbrev Answered := (command : Command) × command.Answer

/-- The answer of a window, and the window afterwards. -/
def Window.obey (w : Window) : (command : Command) → command.Answer × Window
  | .issue => w.issue
  | .issueWith work => w.issueWith work
  | .redeem i => w.redeem i
  | .redeemWith i work => w.redeemWith i work
  | .isOutstanding i => (w.isOutstanding i, w)

/-- The answer that a ledger gives, and the ledger afterwards. -/
def Ledger.obey (book : Ledger) : (command : Command) → command.Answer × Ledger
  | .issue => book.issueWith .ok
  | .issueWith work => book.issueWith work
  | .redeem i =>
    if i.toInt ∈ book.outstanding then (true, book.settle i.toInt) else (false, book)
  | .redeemWith i work => book.redeemWith i work
  | .isOutstanding i => (decide (i.toInt ∈ book.outstanding), book)

/-- The answers to a sequence of commands, and the state after the last. -/
def answersTo {σ : Type} (obey : σ → (command : Command) → command.Answer × σ) :
    σ → List Command → List Answered × σ
  | state, [] => ([], state)
  | state, command :: commands =>
    let (answer, state) := obey state command
    let (answers, last) := answersTo obey state commands
    (⟨command, answer⟩ :: answers, last)

namespace Window.Represents

variable {w : Window} {book : Ledger}

private theorem redeem (rep : Represents w book) (i : Index) :
    (w.obey (.redeem i)).1 = (book.obey (.redeem i)).1 ∧
      Represents (w.obey (.redeem i)).2 (book.obey (.redeem i)).2 := by
  simp only [Window.obey, Ledger.obey, Window.redeem, Window.redeemWith]
  by_cases valid : w.isOutstanding i = true
  · have member := (rep.isOutstanding_iff i).mp valid
    rw [if_pos valid, if_pos member]
    exact ⟨rfl, rep.settle member⟩
  · rw [if_neg valid, if_neg (mt (rep.isOutstanding_iff i).mpr valid)]
    exact ⟨rfl, rep⟩

/-- One command is answered alike by a window and the ledger that represents
it, and the ledger represents the window afterwards. -/
theorem obey (rep : Represents w book) (command : Command) :
    (w.obey command).1 = (book.obey command).1 ∧
      Represents (w.obey command).2 (book.obey command).2 := by
  cases command with
  | issue => exact rep.issueWith _
  | issueWith work => exact rep.issueWith work
  | redeem i => exact rep.redeem i
  | redeemWith i work => exact rep.redeemWith i work
  | isOutstanding i =>
    refine ⟨?_, rep⟩
    exact Bool.eq_iff_iff.mpr ((rep.isOutstanding_iff i).trans decide_eq_true_iff.symm)

/-- A sequence of commands is answered alike, and the tie lasts to its end. -/
theorem answersTo (rep : Represents w book) (commands : List Command) :
    (answersTo Window.obey w commands).1 = (answersTo Ledger.obey book commands).1 ∧
      Represents (answersTo Window.obey w commands).2 (answersTo Ledger.obey book commands).2 := by
  induction commands generalizing w book with
  | nil => exact ⟨rfl, rep⟩
  | cons command commands ih =>
    obtain ⟨same, later⟩ := rep.obey command
    obtain ⟨answers, last⟩ := ih later
    refine ⟨?_, last⟩
    simp only [Resumption.answersTo, same, answers]

end Window.Represents

theorem Ledger.capacity_answersTo (book : Ledger) (commands : List Command) :
    (answersTo Ledger.obey book commands).2.capacity = book.capacity := by
  induction commands generalizing book with
  | nil => rfl
  | cons command commands ih =>
    refine (ih _).trans ?_
    cases command <;> simp only [Ledger.issueWith, Ledger.redeemWith] <;> repeat' split
    all_goals rfl

/-- A window is a ledger kept in a ring of bits. For every first index, every
capacity that windows have and every sequence of calls, the answers are those
of the ledger, and after the calls both agree on what is outstanding, on the
number of outstanding indices, on the next index and on the lowest one that
could still be redeemed. -/
theorem window_refines_ledger (first : Index) (capacity : Nat) (positive : 0 < capacity)
    (bounded : capacity ≤ maxCapacity) (commands : List Command) :
    ∃ opened, Window.new first capacity = .ok opened ∧
      let real := answersTo Window.obey opened commands
      let ideal := answersTo Ledger.obey (Ledger.new first.toInt capacity) commands
      real.1 = ideal.1 ∧
        (∀ i, real.2.isOutstanding i = true ↔ i.toInt ∈ ideal.2.outstanding) ∧
        real.2.outstanding = ideal.2.outstanding.card ∧
        real.2.next.toInt = ideal.2.next ∧
        real.2.base.toInt = max minInteger (ideal.2.next - capacity) := by
  obtain ⟨opened, new⟩ : ∃ opened, Window.new first capacity = .ok opened :=
    ⟨_, dif_pos ⟨positive, bounded⟩⟩
  refine ⟨opened, new, ?_⟩
  obtain ⟨answers, rep⟩ := (Window.Represents.of_new new).answersTo commands
  have size := Ledger.capacity_answersTo (Ledger.new first.toInt capacity) commands
  refine ⟨answers, rep.isOutstanding_iff, rep.outstanding_eq, rep.next.symm, ?_⟩
  rw [Window.toInt_base, ← rep.next, ← rep.capacity, size]
  rfl

/-- Five indices pass through a window of three that begins next to the lowest
index. The first two grow old. The third is redeemed, after a redemption whose
work failed, and two are left. -/
theorem window_refines_ledger_from_lowest :
    0 < 3 ∧ 3 ≤ maxCapacity ∧ ∃ opened, Window.new (Int64.minValue + 1) 3 = .ok opened ∧
      (answersTo Window.obey opened
        [.issue, .issue, .issue, .issueWith fun i => .ok i.text, .issue,
          .redeemWith (Int64.minValue + 3) fun _ => (.error .exhausted : Result Unit),
          .redeem (Int64.minValue + 3)]).2.outstanding = 2 := by
  refine ⟨by decide, by decide, ?_⟩
  obtain ⟨opened, new, agree⟩ :=
    window_refines_ledger (Int64.minValue + 1) 3 (by decide) (by decide)
      [.issue, .issue, .issue, .issueWith fun i => .ok i.text, .issue,
        .redeemWith (Int64.minValue + 3) fun _ => (.error .exhausted : Result Unit),
        .redeem (Int64.minValue + 3)]
  exact ⟨opened, new, agree.2.2.1.trans (by decide +kernel)⟩

end Resumption
