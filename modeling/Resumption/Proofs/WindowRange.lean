import Resumption.Proofs.WindowWords

/-! A window from its first index to the end of the range. Each successful issue
takes one index, so the next index counts them, and no more can succeed than there are
indices before the last. Then only redemptions are left. All of this needs no more
room than machine words have. -/
namespace Resumption

/-- Whether a command was answered with an index that was issued for it. -/
def Answered.issues : Answered → Bool
  | ⟨.issue, answer⟩ => answer.isOk
  | ⟨.issueWith _, answer⟩ => answer.isOk
  | _ => false

namespace Ledger

variable {α : Type} {book : Ledger} {first : Int}

theorem issueWith_cases (book : Ledger) (work : Index → Result α) :
    book.next ≠ maxInteger ∧ (book.issueWith work).1.isOk = true ∧
        (book.issueWith work).2 = book.advance ∨
      (book.issueWith work).1.isOk = false ∧ (book.issueWith work).2 = book := by
  unfold issueWith
  by_cases last : book.next = maxInteger
  · rw [if_pos last]
    exact .inr ⟨rfl, rfl⟩
  · rw [if_neg last]
    cases work (Int64.ofInt book.next) with
    | error e => exact .inr ⟨rfl, rfl⟩
    | ok a => exact .inl ⟨last, rfl, rfl⟩

theorem redeemWith_cases (book : Ledger) (i : Index) (work : Unit → Result α) :
    (book.redeemWith i work).2 = book ∨ (book.redeemWith i work).2 = book.settle i.toInt := by
  unfold redeemWith
  split
  · cases work () with
    | error e => exact .inl rfl
    | ok a => exact .inr rfl
  · exact .inl rfl

/-- A command issues the next index, or it takes at most one index from the
outstanding ones. -/
theorem obey_cases (book : Ledger) (command : Command) :
    book.next ≠ maxInteger ∧ Answered.issues ⟨command, (book.obey command).1⟩ = true ∧
        (book.obey command).2 = book.advance ∨
      Answered.issues ⟨command, (book.obey command).1⟩ = false ∧
        ((book.obey command).2 = book ∨ ∃ i, (book.obey command).2 = book.settle i) := by
  cases command with
  | issue =>
    rcases book.issueWith_cases .ok with issued | ⟨failed, same⟩
    · exact .inl issued
    · exact .inr ⟨failed, .inl same⟩
  | issueWith work =>
    rcases book.issueWith_cases work with issued | ⟨failed, same⟩
    · exact .inl issued
    · exact .inr ⟨failed, .inl same⟩
  | redeem i =>
    refine .inr ⟨rfl, ?_⟩
    by_cases member : i.toInt ∈ book.outstanding
    · exact .inr ⟨i.toInt, by simp [obey, member]⟩
    · exact .inl (by simp [obey, member])
  | redeemWith i work =>
    refine .inr ⟨rfl, ?_⟩
    rcases book.redeemWith_cases i work with same | settled
    · exact .inl same
    · exact .inr ⟨i.toInt, settled⟩
  | isOutstanding i => exact .inr ⟨rfl, .inl rfl⟩

/-- The next index has moved on by the number of indices that were issued. -/
theorem next_answersTo (book : Ledger) (commands : List Command) :
    (answersTo Ledger.obey book commands).2.next =
      book.next + (answersTo Ledger.obey book commands).1.countP Answered.issues := by
  induction commands generalizing book with
  | nil => simp [answersTo]
  | cons command commands ih =>
    have later := ih (book.obey command).2
    show (answersTo Ledger.obey (book.obey command).2 commands).2.next = book.next +
      ((⟨command, (book.obey command).1⟩ ::
        (answersTo Ledger.obey (book.obey command).2 commands).1).countP Answered.issues : Nat)
    rw [later, List.countP_cons]
    rcases book.obey_cases command with ⟨-, issued, after⟩ | ⟨other, after | ⟨i, after⟩⟩
    · rw [issued, after]
      simp [advance]
      omega
    · rw [other, after]
      simp
    · rw [other, after]
      simp [settle]

/-- What is outstanding was issued: it is not below the first index. -/
def IssuedFrom (first : Int) (book : Ledger) : Prop :=
  first ≤ book.next ∧ ∀ i ∈ book.outstanding, first ≤ i

theorem IssuedFrom.obey (issued : book.IssuedFrom first) (command : Command) :
    (book.obey command).2.IssuedFrom first := by
  obtain ⟨low, above⟩ := issued
  rcases book.obey_cases command with ⟨-, -, after⟩ | ⟨-, after | ⟨i, after⟩⟩ <;> rw [after]
  · refine ⟨Int.le_trans low (Int.le_add_one (Int.le_refl _)), fun i member => ?_⟩
    simp only [advance, Finset.mem_filter, Finset.mem_insert] at member
    obtain ⟨rfl | old, -⟩ := member
    · exact low
    · exact above i old
  · exact ⟨low, above⟩
  · exact ⟨low, fun j member => above j (Finset.mem_of_mem_erase member)⟩

theorem IssuedFrom.answersTo (issued : book.IssuedFrom first) (commands : List Command) :
    (answersTo Ledger.obey book commands).2.IssuedFrom first := by
  induction commands generalizing book with
  | nil => exact issued
  | cons command commands ih => exact ih (issued.obey command)

/-- Of many issues in a row, as many succeed as there are indices before the last. -/
theorem countP_issues (book : Ledger) (low : book.next ≤ maxInteger) (n : Nat) :
    (Resumption.answersTo Ledger.obey book (List.replicate n .issue)).1.countP Answered.issues =
      min n (maxInteger - book.next).toNat := by
  induction n generalizing book with
  | zero => simp [Resumption.answersTo]
  | succ n ih =>
    show ((⟨.issue, (book.obey .issue).1⟩ : Answered) ::
      (Resumption.answersTo Ledger.obey (book.obey .issue).2 (List.replicate n .issue)).1).countP
        Answered.issues = _
    rw [List.countP_cons]
    by_cases last : book.next = maxInteger
    · have same : book.obey .issue = (.error .exhausted, book) := if_pos last
      rw [same, ih book low]
      simp [Answered.issues, last, Except.isOk, Except.toBool]
    · have next : book.obey .issue = (.ok (Int64.ofInt book.next), book.advance) := if_neg last
      have step : book.advance.next = book.next + 1 := rfl
      rw [next, ih book.advance (by omega), step]
      simp only [Answered.issues, Except.isOk, Except.toBool, if_true]
      omega

end Ledger

namespace Window

variable {α : Type} (w : Window)

/-- At the end of the range nothing is issued, and no work is asked for. -/
theorem issueWith?_of_last (last : w.next = Index.last) (work : Index → Option (Result α)) :
    w.raw.issueWith? work = some (.error .exhausted, w.raw) := if_pos last

theorem issueWith_of_last (last : w.next = Index.last) (work : Index → Result α) :
    w.issueWith work = (.error .exhausted, w) := if_pos last

/-- What is outstanding is redeemed if the work for it succeeds. -/
theorem redeemWith_of_outstanding {i : Index} (valid : w.isOutstanding i = true)
    (work : Unit → Result α) : (w.redeemWith i work).1 = work () := by
  unfold redeemWith
  rw [if_pos valid]
  cases work () <;> rfl

theorem redeem_of_outstanding {i : Index} (valid : w.isOutstanding i = true) :
    w.redeem i = (true, w.clear i) := by
  unfold redeem redeemWith
  rw [if_pos valid]

theorem first_obey (command : Command) : (w.obey command).2.first = w.first := by
  have issues : ∀ {α : Type} (work : Index → Result α), (w.issueWith work).2.first = w.first := by
    intro α work
    unfold issueWith
    split
    · rfl
    · cases work w.next <;> rfl
  have redeems : ∀ {α : Type} (i : Index) (work : Unit → Result α),
      (w.redeemWith i work).2.first = w.first := by
    intro α i work
    unfold redeemWith
    split
    · cases work () <;> rfl
    · rfl
  cases command with
  | issue => exact issues .ok
  | issueWith work => exact issues work
  | redeem i =>
    refine Eq.trans ?_ (redeems i fun _ => .ok ())
    show (w.redeem i).2.first = _
    unfold redeem
    rcases w.redeemWith i fun _ => .ok () with ⟨e | u, w'⟩ <;> rfl
  | redeemWith i work => exact redeems i work
  | isOutstanding i => rfl

theorem first_answersTo (commands : List Command) :
    (answersTo Window.obey w commands).2.first = w.first := by
  induction commands generalizing w with
  | nil => rfl
  | cons command commands ih => exact (ih _).trans (w.first_obey command)

end Window

/-- A window is exact up to both ends of the range. Take any first index, any capacity
that windows have, and any commands. In machine words no step overflows and none misses
the array: the words answer as the window does, and every index has its bit in a word
that is there. The lowest index that could be redeemed is what the integers give, down
to the least index. The next index is as far from the first as the number of issues that
succeeded, and neither the last index nor one below the first is ever outstanding.
Exactly the indices before the last can be issued. After them every issue fails without
asking for its work and changes nothing, and what is outstanding can still be redeemed. -/
theorem window_is_exact_in_words (first : Index) (capacity : UInt64)
    (positive : 0 < capacity.toNat) (bounded : capacity.toNat ≤ maxCapacity)
    (commands : List Command) :
    ∃ opened, Window.new first capacity.toNat = .ok opened ∧
      RawWindow.new? first capacity = some (.ok opened.raw) ∧
      let answers := (answersTo Window.obey opened commands).1
      let w := (answersTo Window.obey opened commands).2
      let issued : Int := answers.countP Answered.issues
      opened.raw.answersTo? commands = some (answers, w.raw) ∧
      w.raw.base? = some w.base ∧
      (∃ count, w.raw.outstanding? = some count ∧ count.toNat = w.outstanding) ∧
      (∀ i, ∃ number mask, w.raw.slot? i = some (number, mask) ∧
        number.toNat < w.raw.words.size) ∧
      w.base.toInt = max minInteger (w.next.toInt - capacity.toNat) ∧
      w.next.toInt - w.first.toInt = issued ∧
      (∀ i, w.isOutstanding i = true → first ≤ i ∧ i ≠ Index.last) ∧
      issued ≤ maxInteger - first.toInt ∧
      (∀ n, ((answersTo Window.obey w (List.replicate n .issue)).1.countP Answered.issues : Int) =
        min (n : Int) (maxInteger - first.toInt - issued)) ∧
      (issued = maxInteger - first.toInt →
        (∀ {α : Type} (work : Index → Option (Result α)),
          w.raw.issueWith? work = some (.error .exhausted, w.raw)) ∧
        w.issue = (.error .exhausted, w) ∧
        ∀ i, w.isOutstanding i = true → w.redeem i = (true, w.clear i) ∧
          ∀ {α : Type} (work : Unit → Result α), (w.redeemWith i work).1 = work ()) := by
  obtain ⟨opened, new⟩ : ∃ opened, Window.new first capacity.toNat = .ok opened :=
    ⟨_, dif_pos ⟨positive, bounded⟩⟩
  refine ⟨opened, new, Window.new?_raw new, ?_⟩
  intro answers w issued
  let start := Ledger.new first.toInt capacity.toNat
  let book := (answersTo Ledger.obey start commands).2
  obtain ⟨same, rep⟩ : answers = (answersTo Ledger.obey start commands).1 ∧
      Window.Represents w book := (Window.Represents.of_new new).answersTo commands
  have counted : w.next.toInt = first.toInt + issued := by
    rw [← rep.next, show issued = answers.countP Answered.issues from rfl, same]
    exact start.next_answersTo commands
  have from_first : book.IssuedFrom first.toInt :=
    Ledger.IssuedFrom.answersTo ⟨Int.le_refl _, by simp [start, Ledger.new]⟩ commands
  have opened_first : w.first = first := by
    refine (opened.first_answersTo commands).trans ?_
    unfold Window.new at new
    rw [dif_pos ⟨positive, bounded⟩] at new
    cases new
    rfl
  have size : w.capacity = capacity.toNat := by
    rw [← rep.capacity]
    exact start.capacity_answersTo commands
  have high := w.next.le_maxInteger
  refine ⟨opened.answersTo?_raw commands, w.base?_raw, w.outstanding_exists, w.slot_exists,
    ?_, ?_, fun i valid => ?_, by omega, fun n => ?_, fun spent => ?_⟩
  · rw [Window.toInt_base, size]
  · rw [opened_first]
    omega
  · have member := (rep.isOutstanding_iff i).mp valid
    refine ⟨Int64.le_iff_toInt_le.mpr (from_first.2 _ member), ?_⟩
    rintro rfl
    have below := (rep.recent _ member).2
    rw [Index.toInt_last] at below
    omega
  · obtain ⟨alike, -⟩ := rep.answersTo (List.replicate n .issue)
    rw [alike, book.countP_issues (by rw [rep.next]; exact high), rep.next]
    omega
  · have last : w.next = Index.last := (Index.eq_last_iff _).mpr (by omega)
    exact ⟨w.issueWith?_of_last last, w.issueWith_of_last last .ok, fun i valid =>
      ⟨w.redeem_of_outstanding valid, w.redeemWith_of_outstanding valid⟩⟩

/-- A window of a hundred that begins two below the last index. One issue fails with its
work, two succeed, and for the fourth nothing is left. The first index that was issued
can still be redeemed. -/
theorem window_is_exact_in_words_at_end :
    0 < (100 : UInt64).toNat ∧ (100 : UInt64).toNat ≤ maxCapacity ∧
      ∃ opened, Window.new (Index.last - 2) 100 = .ok opened ∧
        let run := answersTo Window.obey opened
          [.issue, .issueWith fun _ => (.error .invalidTicket : Result Unit), .issue, .issue]
        run.2.next.toInt - run.2.first.toInt = 2 ∧ run.2.issue = (.error .exhausted, run.2) ∧
          run.2.isOutstanding (Index.last - 2) = true ∧
          run.2.redeem (Index.last - 2) = (true, run.2.clear (Index.last - 2)) := by
  refine ⟨by decide, by decide, ?_⟩
  obtain ⟨opened, new, -, -, -, -, -, -, distance, -, -, -, spent⟩ :=
    window_is_exact_in_words (Index.last - 2) 100 (by decide) (by decide)
      [.issue, .issueWith fun _ => (.error .invalidTicket : Result Unit), .issue, .issue]
  have played : (Window.new (Index.last - 2) 100).toOption.any (fun opened =>
      let run := answersTo Window.obey opened
        [.issue, .issueWith fun _ => (.error .invalidTicket : Result Unit), .issue, .issue]
      run.1.countP Answered.issues = 2 ∧ run.2.isOutstanding (Index.last - 2) = true) = true := by
    decide +kernel
  rw [show Window.new (Index.last - 2) 100 = .ok opened from new] at played
  simp only [Except.toOption, Option.any_some, decide_eq_true_eq] at played
  obtain ⟨issued, valid⟩ := played
  rw [issued] at distance spent
  obtain ⟨-, exhausted, redeems⟩ := spent (by decide)
  exact ⟨opened, new, distance, exhausted, valid, (redeems _ valid).1⟩

end Resumption
