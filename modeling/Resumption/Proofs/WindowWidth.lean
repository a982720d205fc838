import Resumption.Proofs.WindowRefinement

/-! Two windows of different capacity that are asked the same. They issue the same
indices, but the wider one remembers more of them, so it may redeem an index that the
narrower one has forgotten. From then on the two hold different things; what stays is
that the narrower one holds what the wider one does among its own last indices. -/
namespace Resumption

/-- An answer that grants no more than another to the same command: issues agree, and
what is redeemed or found outstanding for the one is so for the other. -/
inductive Answered.GrantsNoMore : Answered → Answered → Prop
  | issue (answer : Result Index) : GrantsNoMore ⟨.issue, answer⟩ ⟨.issue, answer⟩
  | issueWith {α : Type} (work : Index → Result α) (answer : Result α) :
      GrantsNoMore ⟨.issueWith work, answer⟩ ⟨.issueWith work, answer⟩
  | redeem (i : Index) {less more : Bool} (grants : less = true → more = true) :
      GrantsNoMore ⟨.redeem i, less⟩ ⟨.redeem i, more⟩
  | redeemWith {α : Type} (i : Index) (work : Unit → Result α) {less more : Result α}
      (grants : less = more ∨ less = .error .invalidTicket) :
      GrantsNoMore ⟨.redeemWith i work, less⟩ ⟨.redeemWith i work, more⟩
  | isOutstanding (i : Index) {less more : Bool} (grants : less = true → more = true) :
      GrantsNoMore ⟨.isOutstanding i, less⟩ ⟨.isOutstanding i, more⟩

namespace Ledger

variable {α : Type}

/-- A ledger of less capacity beside another one: both issue the same index next, and
the first holds what the second does among the last indices that it remembers. -/
structure Narrows (narrow wide : Ledger) : Prop where
  capacity : narrow.capacity ≤ wide.capacity
  next : narrow.next = wide.next
  outstanding : ∀ i, i ∈ narrow.outstanding ↔
    i ∈ wide.outstanding ∧ narrow.next - narrow.capacity ≤ i

namespace Narrows

variable {narrow wide : Ledger}

theorem new (first : Int) {less more : Nat} (ordered : less ≤ more) :
    Narrows (Ledger.new first less) (Ledger.new first more) where
  capacity := ordered
  next := rfl
  outstanding := by simp [Ledger.new]

/-- What grows old for the wider ledger grew old for the narrower one before. -/
theorem advance (narrows : Narrows narrow wide) : Narrows narrow.advance wide.advance where
  capacity := narrows.capacity
  next := congrArg (· + 1) narrows.next
  outstanding i := by
    have ordered := narrows.capacity
    have next := narrows.next
    simp only [Ledger.advance, Finset.mem_filter, Finset.mem_insert, narrows.outstanding i]
    constructor
    · rintro ⟨own | ⟨old, -⟩, young⟩
      · exact ⟨⟨.inl (own.trans next), by omega⟩, young⟩
      · exact ⟨⟨.inr old, by omega⟩, young⟩
    · rintro ⟨⟨own | old, -⟩, young⟩
      · exact ⟨.inl (own.trans next.symm), young⟩
      · exact ⟨.inr ⟨old, by omega⟩, young⟩

theorem settle (narrows : Narrows narrow wide) (i : Int) :
    Narrows (narrow.settle i) (wide.settle i) where
  capacity := narrows.capacity
  next := narrows.next
  outstanding j := by
    show j ∈ narrow.outstanding.erase i ↔ j ∈ wide.outstanding.erase i ∧ _
    rw [Finset.mem_erase, Finset.mem_erase, narrows.outstanding, and_assoc]
    rfl

/-- What the narrower ledger does not hold can be taken from the wider one. -/
theorem settle_wide (narrows : Narrows narrow wide) {i : Int} (absent : i ∉ narrow.outstanding) :
    Narrows narrow (wide.settle i) := by
  have same : narrow.settle i = narrow := by
    rw [Ledger.settle, Finset.erase_eq_of_notMem absent]
  exact same ▸ narrows.settle i

theorem issueWith (narrows : Narrows narrow wide) (work : Index → Result α) :
    (narrow.issueWith work).1 = (wide.issueWith work).1 ∧
      Narrows (narrow.issueWith work).2 (wide.issueWith work).2 := by
  unfold Ledger.issueWith
  rw [narrows.next]
  by_cases last : wide.next = maxInteger
  · rw [if_pos last, if_pos last]
    exact ⟨rfl, narrows⟩
  · rw [if_neg last, if_neg last]
    cases work (Int64.ofInt wide.next) with
    | error e => exact ⟨rfl, narrows⟩
    | ok a => exact ⟨rfl, narrows.advance⟩

theorem redeemWith (narrows : Narrows narrow wide) (i : Index) (work : Unit → Result α) :
    ((narrow.redeemWith i work).1 = (wide.redeemWith i work).1 ∨
        (narrow.redeemWith i work).1 = .error .invalidTicket) ∧
      Narrows (narrow.redeemWith i work).2 (wide.redeemWith i work).2 := by
  unfold Ledger.redeemWith
  by_cases recent : i.toInt ∈ narrow.outstanding
  · have held := ((narrows.outstanding _).mp recent).1
    rw [if_pos recent, if_pos held]
    cases work () with
    | error e => exact ⟨.inl rfl, narrows⟩
    | ok a => exact ⟨.inl rfl, narrows.settle i.toInt⟩
  -- The wider ledger may go its own way here, and what it takes the narrower one lacks.
  · rw [if_neg recent]
    refine ⟨.inr rfl, ?_⟩
    split
    · cases work () with
      | error e => exact narrows
      | ok a => exact narrows.settle_wide recent
    · exact narrows

/-- One command: the narrower ledger grants no more, and it stays the narrower one. -/
theorem obey (narrows : Narrows narrow wide) (command : Command) :
    Answered.GrantsNoMore ⟨command, (narrow.obey command).1⟩ ⟨command, (wide.obey command).1⟩ ∧
      Narrows (narrow.obey command).2 (wide.obey command).2 := by
  cases command with
  | issue =>
    obtain ⟨same, later⟩ := narrows.issueWith .ok
    refine ⟨?_, later⟩
    show Answered.GrantsNoMore ⟨.issue, (narrow.issueWith .ok).1⟩ ⟨.issue, (wide.issueWith .ok).1⟩
    rw [same]
    exact .issue _
  | issueWith work =>
    obtain ⟨same, later⟩ := narrows.issueWith work
    refine ⟨?_, later⟩
    show Answered.GrantsNoMore ⟨.issueWith work, (narrow.issueWith work).1⟩
      ⟨.issueWith work, (wide.issueWith work).1⟩
    rw [same]
    exact .issueWith work _
  | redeem i =>
    simp only [Ledger.obey]
    by_cases recent : i.toInt ∈ narrow.outstanding
    · have held := ((narrows.outstanding _).mp recent).1
      rw [if_pos recent, if_pos held]
      exact ⟨.redeem i id, narrows.settle i.toInt⟩
    · rw [if_neg recent]
      refine ⟨.redeem i (by simp), ?_⟩
      split
      · exact narrows.settle_wide recent
      · exact narrows
  | redeemWith i work =>
    obtain ⟨grants, later⟩ := narrows.redeemWith i work
    exact ⟨.redeemWith i work grants, later⟩
  | isOutstanding i =>
    refine ⟨.isOutstanding i fun recent => ?_, narrows⟩
    simp only [Ledger.obey, decide_eq_true_eq] at recent ⊢
    exact ((narrows.outstanding _).mp recent).1

/-- Any number of commands, answer by answer. -/
theorem answersTo (narrows : Narrows narrow wide) (commands : List Command) :
    List.Forall₂ Answered.GrantsNoMore (answersTo Ledger.obey narrow commands).1
        (answersTo Ledger.obey wide commands).1 ∧
      Narrows (answersTo Ledger.obey narrow commands).2
        (answersTo Ledger.obey wide commands).2 := by
  induction commands generalizing narrow wide with
  | nil => exact ⟨.nil, narrows⟩
  | cons command commands ih =>
    obtain ⟨grants, later⟩ := narrows.obey command
    obtain ⟨answers, last⟩ := ih later
    exact ⟨.cons grants answers, last⟩

end Narrows
end Ledger

/-- A wider window never rejects more. Take any first index, any two capacities that
windows have, and any commands, and ask both windows the same. The issues give the same
results, each redemption or question that the narrower window grants is granted by the
wider one, and wherever the run stops, what is outstanding in the narrower window is
what is outstanding in the wider one and covered by the narrower. -/
theorem wider_windows_reject_no_more (first : Index) (less more : Nat) (positive : 0 < less)
    (ordered : less ≤ more) (bounded : more ≤ maxCapacity) (commands : List Command) :
    ∃ narrow wide, Window.new first less = .ok narrow ∧ Window.new first more = .ok wide ∧
      let narrowRun := answersTo Window.obey narrow commands
      let wideRun := answersTo Window.obey wide commands
      List.Forall₂ Answered.GrantsNoMore narrowRun.1 wideRun.1 ∧
        narrowRun.2.next = wideRun.2.next ∧
        ∀ i, narrowRun.2.isOutstanding i = true ↔
          wideRun.2.isOutstanding i = true ∧ narrowRun.2.covers i = true := by
  obtain ⟨narrow, newNarrow⟩ : ∃ narrow, Window.new first less = .ok narrow :=
    ⟨_, dif_pos ⟨positive, ordered.trans bounded⟩⟩
  obtain ⟨wide, newWide⟩ : ∃ wide, Window.new first more = .ok wide :=
    ⟨_, dif_pos ⟨positive.trans_le ordered, bounded⟩⟩
  refine ⟨narrow, wide, newNarrow, newWide, ?_⟩
  intro narrowRun wideRun
  obtain ⟨answersNarrow, repNarrow⟩ := (Window.Represents.of_new newNarrow).answersTo commands
  obtain ⟨answersWide, repWide⟩ := (Window.Represents.of_new newWide).answersTo commands
  obtain ⟨grants, narrows⟩ := (Ledger.Narrows.new first.toInt ordered).answersTo commands
  refine ⟨?_, ?_, fun i => ?_⟩
  · rw [← answersNarrow, ← answersWide] at grants
    exact grants
  · have next := narrows.next
    rw [repNarrow.next, repWide.next] at next
    exact Int64.toInt_inj.mp next
  · have before : wideRun.2.isOutstanding i = true → i.toInt < narrowRun.2.next.toInt := by
      intro valid
      have member := (repWide.isOutstanding_iff i).mp valid
      have below := (repWide.recent _ member).2
      rw [← repWide.next, ← narrows.next, repNarrow.next] at below
      exact below
    rw [repNarrow.isOutstanding_iff, narrows.outstanding, ← repWide.isOutstanding_iff,
      repNarrow.next, repNarrow.capacity, Window.covers_iff]
    constructor
    · rintro ⟨valid, recent⟩
      exact ⟨valid, recent, before valid⟩
    · rintro ⟨valid, recent, -⟩
      exact ⟨valid, recent⟩

/-- Windows of two and of five that begin at the lowest index and are asked for four
issues. Then only the wider one redeems the second index, and it also holds the first,
which the narrower one does not cover any more. -/
theorem wider_windows_reject_no_more_from_lowest :
    0 < 2 ∧ 2 ≤ 5 ∧ 5 ≤ maxCapacity ∧ ∃ narrow wide,
      Window.new Int64.minValue 2 = .ok narrow ∧ Window.new Int64.minValue 5 = .ok wide ∧
        let commands : List Command :=
          [.issue, .issue, .issue, .issue, .redeem (Int64.minValue + 1)]
        let narrowRun := answersTo Window.obey narrow commands
        let wideRun := answersTo Window.obey wide commands
        List.Forall₂ Answered.GrantsNoMore narrowRun.1 wideRun.1 ∧
          narrowRun.2.outstanding = 2 ∧ wideRun.2.outstanding = 3 ∧
          wideRun.2.isOutstanding Int64.minValue = true ∧
          narrowRun.2.isOutstanding Int64.minValue = false := by
  refine ⟨by decide, by decide, by decide, ?_⟩
  obtain ⟨narrow, wide, newNarrow, newWide, grants, -, held⟩ :=
    wider_windows_reject_no_more Int64.minValue 2 5 (by decide) (by decide) (by decide)
      [.issue, .issue, .issue, .issue, .redeem (Int64.minValue + 1)]
  refine ⟨narrow, wide, newNarrow, newWide, grants, ?_⟩
  cases newNarrow
  cases newWide
  refine ⟨by decide +kernel, by decide +kernel, by decide +kernel, ?_⟩
  exact Bool.eq_false_iff.mpr fun valid =>
    absurd ((held _).mp valid).2 (by decide +kernel)

end Resumption
