import Resumption.Proofs.WindowRange

/-! The order of calls to a window. Redemptions clear places of the ring, which can be
done in any order, and what one redemption clears no other index looks at. Issuing looks
at one place only, that of the next index, which two indices share: the next index itself
and the one that grows old. For these two alone it matters what comes first. -/
namespace Resumption

namespace Window

variable (w : Window)

/-! Redemptions among each other -/

theorem redeem_eq (i : Index) :
    w.redeem i = (w.isOutstanding i, if w.isOutstanding i then w.clear i else w) := by
  cases valid : w.isOutstanding i with
  | true => exact w.redeem_of_outstanding valid
  | false => simp [redeem, redeemWith, valid]

/-- A redemption takes its own index from the outstanding ones and no other. -/
theorem isOutstanding_redeem (i j : Index) :
    (w.redeem i).2.isOutstanding j = (w.isOutstanding j && decide (j ≠ i)) := by
  rw [redeem_eq]
  cases valid : w.isOutstanding i with
  | true => exact isOutstanding_clear valid j
  | false =>
    show w.isOutstanding j = _
    by_cases same : j = i
    · simp [same, valid]
    · simp [same]

theorem clear_comm (i j : Index) : (w.clear i).clear j = (w.clear j).clear i := by
  refine eq_of_holds rfl rfl rfl fun p => ?_
  have left : (w.clear i).place j = w.place j := rfl
  have right : (w.clear j).place i = w.place i := rfl
  rw [holds_clear, holds_clear, holds_clear, holds_clear, left, right, Bool.and_right_comm]

/-- Two redemptions leave the same window in either order. -/
theorem redeem_comm (i j : Index) :
    ((w.redeem i).2.redeem j).2 = ((w.redeem j).2.redeem i).2 := by
  by_cases same : i = j
  · rw [same]
  · have left : (w.redeem i).2.isOutstanding j = w.isOutstanding j := by
      simp [isOutstanding_redeem, Ne.symm same]
    have right : (w.redeem j).2.isOutstanding i = w.isOutstanding i := by
      simp [isOutstanding_redeem, same]
    rw [redeem_eq (w.redeem i).2, redeem_eq (w.redeem j).2, left, right, redeem_eq, redeem_eq]
    by_cases first : w.isOutstanding i = true <;> by_cases second : w.isOutstanding j = true <;>
      simp only [first, second, if_true, if_false, Bool.false_eq_true, clear_comm w i j]

/-- The window after redemptions is the same in every order. -/
theorem foldl_redeem_perm {is js : List Index} (same : is.Perm js) :
    is.foldl (fun v i => (v.redeem i).2) w = js.foldl (fun v i => (v.redeem i).2) w :=
  same.foldl_eq' (fun i _ j _ v => v.redeem_comm i j) w

theorem answersTo_redeem_snd (is : List Index) :
    (answersTo Window.obey w (is.map .redeem)).2 = is.foldl (fun v i => (v.redeem i).2) w := by
  induction is generalizing w with
  | nil => rfl
  | cons i is ih => exact ih (w.redeem i).2

/-- Different indices are answered as if each was redeemed alone. -/
theorem answersTo_redeem_fst {is : List Index} (apart : is.Nodup) :
    (answersTo Window.obey w (is.map .redeem)).1 =
      is.map fun i => ⟨.redeem i, w.isOutstanding i⟩ := by
  induction is generalizing w with
  | nil => rfl
  | cons i is ih =>
    obtain ⟨fresh, apart⟩ := List.nodup_cons.mp apart
    have answer : (w.redeem i).1 = w.isOutstanding i := by rw [redeem_eq]
    have later : ∀ j ∈ is, (w.redeem i).2.isOutstanding j = w.isOutstanding j := by
      intro j member
      have other : j ≠ i := fun same => fresh (same ▸ member)
      simp [isOutstanding_redeem, other]
    show (⟨.redeem i, (w.redeem i).1⟩ : Answered) ::
      (answersTo Window.obey (w.redeem i).2 (is.map .redeem)).1 = _
    rw [ih _ apart, answer, List.map_cons]
    refine congrArg (List.cons _) (List.map_congr_left fun j member => ?_)
    rw [later j member]

/-! An issue before or after a redemption -/

theorem holds_advance (p : Nat) : w.advance.holds p = (w.holds p || decide (p = w.place w.next)) :=
  w.holds_mark w.next p

/-- After an issue that index is outstanding, and all others are that were before and
did not grow old. -/
theorem isOutstanding_advance_iff (more : w.next ≠ Index.last) (i : Index) :
    w.advance.isOutstanding i = true ↔
      i = w.next ∨ w.isOutstanding i = true ∧ i.toInt ≠ w.next.toInt - w.capacity := by
  have succ := Index.toInt_succ more
  have issued := isOutstanding_advance more
  by_cases own : i = w.next
  · simp [own, issued]
  · have apart : i.toInt ≠ w.next.toInt := fun same => own (Int64.toInt_inj.mp same)
    have inside : w.advance.covers i = true ↔
        w.covers i = true ∧ i.toInt ≠ w.next.toInt - w.capacity := by
      rw [covers_iff, covers_iff]
      show (w.next + 1).toInt - w.capacity ≤ i.toInt ∧ i.toInt < (w.next + 1).toInt ↔ _
      omega
    -- Covered indices have places of their own, so the new mark is no other's.
    have place (covered : w.advance.covers i = true) : w.place i ≠ w.place w.next := by
      intro same
      rw [isOutstanding_eq, Bool.and_eq_true] at issued
      exact own (eq_of_place_eq covered issued.1 same)
    rw [isOutstanding_eq, isOutstanding_eq, Bool.and_eq_true, Bool.and_eq_true, inside]
    show _ ∧ w.advance.holds (w.place i) = true ↔ _
    rw [holds_advance]
    constructor
    · rintro ⟨⟨covered, young⟩, held⟩
      have free := place (inside.mpr ⟨covered, young⟩)
      exact .inr ⟨⟨covered, by simpa [free] using held⟩, young⟩
    · rintro (same | ⟨⟨covered, held⟩, young⟩)
      · exact absurd same own
      · exact ⟨⟨covered, young⟩, by simp [held]⟩

theorem clear_advance {i : Index} (apart : w.place i ≠ w.place w.next) :
    w.advance.clear i = (w.clear i).advance := by
  refine eq_of_holds rfl rfl rfl fun p => ?_
  have left : w.advance.place i = w.place i := rfl
  have right : (w.clear i).place (w.clear i).next = w.place w.next := rfl
  rw [holds_clear, holds_advance, holds_advance, holds_clear, left, right]
  by_cases cleared : p = w.place i
  · simp [cleared, apart]
  · simp [cleared]

/-- A command that issues an index does so in every window with that next index. -/
theorem obey_of_issues {call : Command}
    (issued : Answered.issues ⟨call, (w.obey call).1⟩ = true) :
    w.next ≠ Index.last ∧
      ∀ v : Window, v.next = w.next → v.obey call = ((w.obey call).1, v.advance) := by
  have of_work {α : Type} (work : Index → Result α)
      (succeeds : (w.issueWith work).1.isOk = true) :
      w.next ≠ Index.last ∧
        ∀ v : Window, v.next = w.next → v.issueWith work = ((w.issueWith work).1, v.advance) := by
    have more : w.next ≠ Index.last := by
      intro last
      rw [w.issueWith_of_last last] at succeeds
      cases succeeds
    refine ⟨more, fun v same => ?_⟩
    simp only [issueWith, same, if_neg more] at succeeds ⊢
    cases done : work w.next with
    | error e =>
      rw [done] at succeeds
      cases succeeds
    | ok a => simp only [advance, same]
  cases call with
  | issue => exact of_work .ok issued
  | issueWith work => exact of_work work issued
  | redeem i => cases issued
  | redeemWith i work => cases issued
  | isOutstanding i => cases issued

/-- Whether an index is redeemed before the next one is issued or after, both calls are
answered alike and the same window is left, unless it is the next index itself or an
outstanding one that grows old with the issue. -/
theorem order_matters_iff (more : w.next ≠ Index.last) (i : Index) :
    w.advance.isOutstanding i = w.isOutstanding i ∧
        (w.advance.redeem i).2 = (w.redeem i).2.advance ↔
      ¬ (i = w.next ∨ i.toInt = w.next.toInt - w.capacity ∧ w.isOutstanding i = true) := by
  have after := w.isOutstanding_advance_iff more i
  have before : w.isOutstanding w.next = false := by
    simp [isOutstanding, covers]
  constructor
  -- In both exceptions the answers differ already, whatever becomes of the windows.
  · rintro ⟨same, -⟩ (rfl | ⟨old, valid⟩)
    · rw [before] at same
      simp [isOutstanding_advance more] at same
    · rw [same, valid] at after
      rcases after.mp rfl with rfl | ⟨-, young⟩
      · rw [before] at valid
        cases valid
      · exact young old
  · intro usual
    obtain ⟨other, recent⟩ := not_or.mp usual
    have same : w.advance.isOutstanding i = w.isOutstanding i := by
      rw [Bool.eq_iff_iff, after, or_iff_right other, and_iff_left_iff_imp]
      exact fun valid old => recent ⟨old, valid⟩
    refine ⟨same, ?_⟩
    rw [redeem_eq, redeem_eq, same]
    cases valid : w.isOutstanding i with
    | false => rfl
    | true =>
      refine w.clear_advance fun place => other ?_
      have issued := isOutstanding_advance more
      rw [isOutstanding_eq, Bool.and_eq_true] at issued
      rw [valid, isOutstanding_eq, Bool.and_eq_true] at same
      exact eq_of_place_eq same.1 issued.1 place

end Window

/-- The order of calls does not matter where it should not. In every window, whatever
calls led to it, different indices can be redeemed in any order: each gets the answer
that it would get first, and all orders end in the same window, bit for bit. A command
that issues an index can come before or after the redemption of any index, with the same
two answers and the same window in the end, except in exactly two cases: the index that
is issued, and an outstanding index that the issue takes out of the window. -/
theorem redemptions_in_any_order (w : Window) :
    (∀ is js : List Index, is.Nodup → is.Perm js →
      (answersTo Window.obey w (is.map .redeem)).1 =
          is.map (fun i => ⟨.redeem i, w.isOutstanding i⟩) ∧
        (answersTo Window.obey w (js.map .redeem)).1 =
          js.map (fun i => ⟨.redeem i, w.isOutstanding i⟩) ∧
        (answersTo Window.obey w (is.map .redeem)).2 =
          (answersTo Window.obey w (js.map .redeem)).2) ∧
      ∀ call : Command, Answered.issues ⟨call, (w.obey call).1⟩ = true → ∀ i : Index,
        let issuedFirst := answersTo Window.obey w [call, .redeem i]
        let redeemedFirst := answersTo Window.obey w [.redeem i, call]
        redeemedFirst.1 = issuedFirst.1.reverse ∧ redeemedFirst.2 = issuedFirst.2 ↔
          ¬ (i = w.next ∨ i.toInt = w.next.toInt - w.capacity ∧ w.isOutstanding i = true) := by
  constructor
  · intro is js apart same
    refine ⟨w.answersTo_redeem_fst apart, w.answersTo_redeem_fst (same.nodup_iff.mp apart), ?_⟩
    rw [w.answersTo_redeem_snd, w.answersTo_redeem_snd, w.foldl_redeem_perm same]
  · intro call issued i issuedFirst redeemedFirst
    obtain ⟨more, obeyed⟩ := w.obey_of_issues issued
    have next : (w.redeem i).2.next = w.next := by
      rw [w.redeem_eq]
      cases w.isOutstanding i <;> rfl
    have first : issuedFirst =
        ([⟨call, (w.obey call).1⟩, ⟨.redeem i, w.advance.isOutstanding i⟩],
          (w.advance.redeem i).2) := by
      have after : (w.obey call).2 = w.advance := by rw [obeyed w rfl]
      have answer : (w.advance.redeem i).1 = w.advance.isOutstanding i := by rw [Window.redeem_eq]
      rw [← after] at answer ⊢
      rw [← answer]
      rfl
    have second : redeemedFirst =
        ([⟨.redeem i, w.isOutstanding i⟩, ⟨call, (w.obey call).1⟩], (w.redeem i).2.advance) := by
      have answer : (w.redeem i).1 = w.isOutstanding i := by rw [Window.redeem_eq]
      have goesOn := obeyed _ next
      show (([⟨.redeem i, (w.redeem i).1⟩, ⟨call, ((w.redeem i).2.obey call).1⟩] : List Answered),
        ((w.redeem i).2.obey call).2) = _
      rw [answer, goesOn]
    rw [first, second, ← w.order_matters_iff more i]
    simp [eq_comm]

/-- A window of three that begins at zero, after four issues: the first index grew old.
Three redemptions, one of an index that was not issued, end alike in two orders. With the
next issue the second index grows old, so that its redemption has to come first, while
that of the third can come before or after. -/
theorem redemptions_in_any_order_when_full :
    ∃ opened, Window.new 0 3 = .ok opened ∧
      let w := (answersTo Window.obey opened [.issue, .issue, .issue, .issue]).2
      let is : List Index := [2, 9, 1]
      let js : List Index := [9, 1, 2]
      is.Nodup ∧ is.Perm js ∧
        (answersTo Window.obey w (is.map .redeem)).2 =
          (answersTo Window.obey w (js.map .redeem)).2 ∧
        Answered.issues ⟨.issue, (w.obey .issue).1⟩ = true ∧
        (answersTo Window.obey w [.redeem 2, .issue]).2 =
          (answersTo Window.obey w [.issue, .redeem 2]).2 ∧
        ¬ ((answersTo Window.obey w [.redeem 1, .issue]).1 =
            (answersTo Window.obey w [.issue, .redeem 1]).1.reverse ∧
          (answersTo Window.obey w [.redeem 1, .issue]).2 =
            (answersTo Window.obey w [.issue, .redeem 1]).2) := by
  refine ⟨_, rfl, ?_⟩
  intro w is js
  obtain ⟨redeems, issues⟩ := redemptions_in_any_order w
  have apart : is.Nodup := by decide
  have same : is.Perm js := by decide
  have issued : Answered.issues ⟨.issue, (w.obey .issue).1⟩ = true := by decide +kernel
  refine ⟨apart, same, (redeems is js apart same).2.2, issued, ?_, ?_⟩
  · exact ((issues .issue issued 2).mpr (by decide +kernel)).2
  · exact fun alike => (issues .issue issued 1).mp alike (by decide +kernel)

end Resumption
