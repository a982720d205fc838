import Mathlib.Data.List.Chain
import Resumption.Proofs.HostReservation

/-! Hosts that are open at the same time on one data directory. Each keeps what it
has reserved in memory, and extends it without another look at the watermark. As
long as no other host has reserved beyond it in the meantime, reservations stay
apart and no index is issued twice. Otherwise the host issues what another has
reserved, and takes the watermark down. -/
namespace Resumption

/-- A machine, and the hosts that are open on it. -/
structure Fleet where
  machine : Machine
  hosts : List Host

namespace Fleet

open Watermark

/-- What is asked of a fleet. The requests of a call turn out as listed. -/
inductive Call
  /-- Another host is opened. -/
  | start (settings : Settings) (outcomes : List Outcome)
  /-- One of the open hosts issues a ticket. -/
  | issue (host : Nat) (session : Session) (hostData : HostData) (outcomes : List Outcome)

/-- The index of the ticket that a call gives, and the fleet afterwards. -/
def call (dataDir : String) (f : Fleet) : Call → Option Index × Fleet
  | .start settings outcomes =>
    match (Host.start { settings with dataDir }).run.play outcomes f.machine with
    | (.ok host, machine) => (none, ⟨machine, f.hosts ++ [host]⟩)
    | (.error _, machine) => (none, { f with machine })
  | .issue k session hostData outcomes =>
    match f.hosts[k]? with
    | none => (none, f)
    | some host =>
      let ((answer, host), machine) := (host.issue session hostData).play outcomes f.machine
      (answer.toOption.map Envelope.index, ⟨machine, f.hosts.set k host⟩)

/-- What happens at a sequence of calls: the index that each gives, and the fleet
after it. -/
def run (dataDir : String) (f : Fleet) : List Call → List (Option Index × Fleet)
  | [] => []
  | call :: calls => f.call dataDir call :: run dataDir (f.call dataDir call).2 calls

/-- The indices of the tickets that were given, in order. -/
def issuedIndices (course : List (Option Index × Fleet)) : List Index :=
  course.filterMap Prod.fst

/-- Whether a host that has to extend its reservation finds that nobody has
reserved beyond its next index. -/
def isUndisturbed (path : Path) (f : Fleet) : Call → Bool
  | .start _ _ => true
  | .issue k _ _ _ => f.hosts[k]?.all fun host =>
    host.office.window.next < host.reservedUntil ||
      (kept path f.machine).all fun j => j ≤ host.office.window.next

/-- Whether no call of a sequence is disturbed. -/
def areUndisturbed (dataDir : String) (path : Path) (f : Fleet) : List Call → Bool
  | [] => true
  | call :: calls =>
    f.isUndisturbed path call && (f.call dataDir call).2.areUndisturbed dataDir path calls

end Fleet

namespace Host

open Watermark

variable {path : Path} {host host' : Host} {m m' : Machine} {i : Index}

/-- The indices that a host may issue without another reservation. -/
def Holds (host : Host) (i : Index) : Prop :=
  host.office.window.next ≤ i ∧ i < host.reservedUntil

/-- The indices that a host may have issued or reserved after a call: what it held
before the call, and what nobody had reserved. -/
def MayTake (path : Path) (m : Machine) (host : Host) (i : Index) : Prop :=
  host.Holds i ∨ ∀ j, kept path m = some j → j ≤ i

/-- How a host leaves a call: its reservation is covered by the watermark, and it
has taken nothing from others. -/
structure Follows (path : Path) (host : Host) (m : Machine) (host' : Host) (m' : Machine) :
    Prop where
  watermark : host'.watermark = host.watermark
  block : host'.reserveBlock = host.reserveBlock
  kept : ∃ j, kept path m' = some j ∧ host'.reservedUntil ≤ j
  held : ∀ i, host'.Holds i → host.MayTake path m i

/-- What a call for a ticket leaves, and the index of the ticket that it gives. -/
def Served (path : Path) (host : Host) (m : Machine) :
    Except HostError Envelope × Host → Machine → Prop
  | (answer, host'), m' => host.Follows path m host' m' ∧
      ∀ ticket, answer = .ok ticket → host.MayTake path m ticket.index ∧
        ticket.index < host'.reservedUntil ∧ ¬ host'.Holds ticket.index

/-- A host among others: its reservation is covered by the watermark on disk, and
no index that it holds was issued. -/
structure Holding (path : Path) (issued : List Index) (host : Host) (m : Machine) : Prop where
  watermark : host.watermark = path
  block : 0 < host.reserveBlock
  covered : ∃ j, kept path m = some j ∧ host.reservedUntil ≤ j
  fresh : ∀ i, host.Holds i → i ∉ issued

theorem Holding.later {issued : List Index} (holding : Holding path issued host m)
    (rises : Rises path m m') : Holding path issued host m' := by
  obtain ⟨j, found, le⟩ := holding.covered
  obtain ⟨j', found', le'⟩ := rises j found
  exact { holding with covered := ⟨j', found', Int64.le_trans le le'⟩ }

/-- A host whose extension is not disturbed takes nothing from others. -/
theorem issue_ensures (apart : (temporary path).place ≠ path.place)
    (watermark : host.watermark = path) (positive : 0 < host.reserveBlock)
    (covered : ∃ j, kept path m = some j ∧ host.reservedUntil ≤ j)
    (undisturbed : host.reservedUntil ≤ host.office.window.next →
      ∀ j, kept path m = some j → j ≤ host.office.window.next)
    (session : Session) (hostData : HostData) :
    (host.issue session hostData).Ensures (Rises path) (host.Served path m) m := by
  subst watermark
  obtain ⟨j, found, below⟩ := covered
  have reserving := reserve_ensures apart positive fun short =>
    bounded_of_kept found (Int64.le_trans (undisturbed short j found) (le_raise positive))
  unfold Host.issue
  refine Script.Ensures.bind reserving fun answer m' holds => ?_
  cases answer with
  | error e =>
    refine ⟨⟨rfl, rfl, ⟨j, kept_of_keeps holds found, below⟩, fun i => .inl⟩, nofun⟩
  | ok host' =>
    obtain ⟨taken, reserved⟩ := holds
    have office : host'.office = host.office := by
      rcases taken with ⟨rfl, -⟩ | ⟨-, rfl, -⟩ <;> rfl
    have follows : host.Follows host.watermark m host' m' := by
      rcases taken with ⟨rfl, rfl⟩ | ⟨short, rfl, kept⟩
      · exact ⟨rfl, rfl, ⟨j, found, below⟩, fun i => .inl⟩
      · refine ⟨rfl, rfl, ⟨_, kept, Int64.le_refl _⟩, fun i held => .inr fun j found => ?_⟩
        exact Int64.le_trans (undisturbed short j found) held.1
    rw [← office] at reserved
    rcases host'.office.issue_cases session hostData with ⟨e, same⟩ | ⟨ticket, more, wrapped, same⟩
    · simp only [same]
      exact ⟨follows, nofun⟩
    · simp only [same]
      have index := ((Office.wrap_eq_ok_iff _).mp wrapped).2.1
      have ahead := Index.lt_succ more
      refine ⟨⟨follows.watermark, follows.block, follows.kept, fun i held => ?_⟩, ?_⟩
      · exact follows.held i ⟨Int64.le_trans (Int64.le_of_lt ahead) held.1, held.2⟩
      · rintro ticket' same
        obtain rfl := Except.ok.inj same
        rw [index]
        refine ⟨follows.held _ ⟨Int64.le_refl _, reserved more⟩, reserved more, fun held => ?_⟩
        exact Int64.not_lt.mpr held.1 ahead

end Host

namespace Fleet

open Watermark

variable {dataDir : String} {path : Path} {issued : List Index} {f : Fleet} {k : Nat}
  {host host' : Host} {m : Machine} {i : Index}

/-- The indices that were given are different and below the watermark on disk, and
what the hosts hold is neither given already nor held by two. -/
structure Sound (path : Path) (issued : List Index) (f : Fleet) : Prop where
  distinct : issued.Nodup
  below : ∀ i ∈ issued, ∃ j, kept path f.machine = some j ∧ i < j
  holding : ∀ (k : Nat) (host : Host), f.hosts[k]? = some host → host.Holding path issued f.machine
  apart : ∀ (k l : Nat) (a b : Host), f.hosts[k]? = some a → f.hosts[l]? = some b → k ≠ l →
    ∀ i, a.Holds i → ¬ b.Holds i

namespace Sound

/-- What nobody has reserved is neither given nor held. -/
theorem of_unreserved (sound : Sound path issued f)
    (unreserved : ∀ j, kept path f.machine = some j → j ≤ i) :
    i ∉ issued ∧ ∀ (l : Nat) (b : Host), f.hosts[l]? = some b → ¬ b.Holds i := by
  refine ⟨fun member => ?_, fun l b there held => ?_⟩
  · obtain ⟨j, found, less⟩ := sound.below i member
    exact Int64.not_lt.mpr (unreserved j found) less
  · obtain ⟨j, found, le⟩ := (sound.holding l b there).covered
    exact Int64.not_lt.mpr (Int64.le_trans le (unreserved j found)) held.2

/-- What a host may take is neither given nor held by another. -/
theorem of_mayTake (sound : Sound path issued f) (there : f.hosts[k]? = some host)
    (may : host.MayTake path f.machine i) :
    i ∉ issued ∧ ∀ (l : Nat) (b : Host), f.hosts[l]? = some b → k ≠ l → ¬ b.Holds i := by
  rcases may with held | unreserved
  · exact ⟨(sound.holding k host there).fresh i held,
      fun l b other apart => sound.apart k l host b there other apart i held⟩
  · obtain ⟨new, unheld⟩ := sound.of_unreserved unreserved
    exact ⟨new, fun l b other _ => unheld l b other⟩

theorem below_of_rises (sound : Sound path issued f) (rises : Rises path f.machine m) :
    ∀ i ∈ issued, ∃ j, kept path m = some j ∧ i < j := by
  intro i member
  obtain ⟨j, found, less⟩ := sound.below i member
  obtain ⟨j', found', le'⟩ := rises j found
  exact ⟨j', found', Int64.lt_of_lt_of_le less le'⟩

/-- A machine whose watermark rises disturbs no host. -/
theorem later (sound : Sound path issued f) (rises : Rises path f.machine m) :
    Sound path issued { f with machine := m } :=
  { sound with
    below := sound.below_of_rises rises
    holding := fun k host there => (sound.holding k host there).later rises }

/-- Another host is opened, and begins at or above the watermark. -/
theorem opened (sound : Sound path issued f) (rises : Rises path f.machine m)
    (ready : host.Ready path [] m)
    (above : ∀ j, kept path f.machine = some j → j ≤ host.office.window.next) :
    Sound path issued ⟨m, f.hosts ++ [host]⟩ := by
  have new : ∀ i, host.Holds i →
      i ∉ issued ∧ ∀ (l : Nat) (b : Host), f.hosts[l]? = some b → ¬ b.Holds i :=
    fun i held => sound.of_unreserved fun j found => Int64.le_trans (above j found) held.1
  have places : ∀ {k : Nat} {a : Host}, (f.hosts ++ [host])[k]? = some a →
      f.hosts[k]? = some a ∨ k = f.hosts.length ∧ a = host := by
    intro k a there
    rw [List.getElem?_append] at there
    split at there
    · exact .inl there
    · next beyond =>
      obtain ⟨last, rfl⟩ : k - f.hosts.length = 0 ∧ host = a := by
        simpa [List.getElem?_singleton] using there
      exact .inr ⟨by omega, rfl⟩
  refine ⟨sound.distinct, sound.below_of_rises rises, fun k a there => ?_, ?_⟩
  · rcases places there with old | ⟨-, rfl⟩
    · exact (sound.holding k a old).later rises
    · exact ⟨ready.watermark, ready.block, ⟨_, ready.kept, Int64.le_refl _⟩,
        fun i held => (new i held).1⟩
  · intro k l a b at_k at_l apart i first second
    rcases places at_k with old | ⟨rfl, rfl⟩ <;> rcases places at_l with old' | ⟨rfl, rfl⟩
    · exact sound.apart k l a b old old' apart i first second
    · exact (new i second).2 k a old first
    · exact (new i first).2 l b old' second
    · exact apart rfl

/-- One of the hosts has answered a call. -/
theorem served (sound : Sound path issued f) (there : f.hosts[k]? = some host)
    (rises : Rises path f.machine m) (follows : host.Follows path f.machine host' m)
    {given : Option Index}
    (gives : ∀ i, given = some i → host.MayTake path f.machine i ∧ i < host'.reservedUntil ∧
      ¬ host'.Holds i) :
    Sound path (issued ++ given.toList) ⟨m, f.hosts.set k host'⟩ := by
  obtain ⟨j, found, covers⟩ := follows.kept
  have places : ∀ {l : Nat} {a : Host}, (f.hosts.set k host')[l]? = some a →
      k = l ∧ a = host' ∨ k ≠ l ∧ f.hosts[l]? = some a := by
    intro l a at_l
    rw [List.getElem?_set] at at_l
    split at at_l
    · next same =>
      split at at_l
      · exact .inl ⟨same, (Option.some.inj at_l).symm⟩
      · cases at_l
    · next other => exact .inr ⟨other, at_l⟩
  have taken := fun i held => sound.of_mayTake there (follows.held i held)
  refine ⟨?_, ?_, fun l a at_l => ?_, ?_⟩
  · refine sound.distinct.append (by cases given <;> simp) ?_
    intro i member given'
    exact (sound.of_mayTake there (gives i (Option.mem_toList.mp given')).1).1 member
  · intro i member
    rcases List.mem_append.mp member with member | given'
    · exact sound.below_of_rises rises i member
    · have below := (gives i (Option.mem_toList.mp given')).2.1
      exact ⟨j, found, Int64.lt_of_lt_of_le below covers⟩
  · rcases places at_l with ⟨-, rfl⟩ | ⟨other, old⟩
    · refine ⟨follows.watermark.trans (sound.holding k host there).watermark,
        follows.block ▸ (sound.holding k host there).block, ⟨j, found, covers⟩, ?_⟩
      intro i held member
      rcases List.mem_append.mp member with member | given'
      · exact (taken i held).1 member
      · exact (gives i (Option.mem_toList.mp given')).2.2 held
    · refine { (sound.holding l a old).later rises with fresh := fun i held member => ?_ }
      rcases List.mem_append.mp member with member | given'
      · exact (sound.holding l a old).fresh i held member
      · have may := (gives i (Option.mem_toList.mp given')).1
        exact (sound.of_mayTake there may).2 l a old other held
  · intro l l' a b at_l at_l' apart i first second
    rcases places at_l with ⟨rfl, rfl⟩ | ⟨other, old⟩ <;>
      rcases places at_l' with ⟨rfl, rfl⟩ | ⟨other', old'⟩
    · exact apart rfl
    · exact (taken i first).2 l' b old' other' second
    · exact (taken i second).2 l a old other first
    · exact sound.apart l l' a b old old' apart i first second

end Sound

/-- A call that is not disturbed keeps a fleet sound, and the watermark on disk
does not fall. -/
theorem call_sound (sound : Sound path issued f)
    (named : (Path.ofText dataDir).child Watermark.name = path) (call : Call)
    (undisturbed : f.isUndisturbed path call = true) :
    Rises path f.machine (f.call dataDir call).2.machine ∧
      Sound path (issued ++ (f.call dataDir call).1.toList) (f.call dataDir call).2 := by
  have apart : (temporary path).place ≠ path.place := named ▸ temporary_apart _
  cases call with
  | start settings outcomes =>
    subst named
    have named : Path.ofText ({ settings with dataDir } : Settings).dataDir =
      Path.ofText dataDir := rfl
    obtain ⟨rises, ending⟩ :=
      (Host.start_ensures named f.machine).play (.refl _) (fun _ _ _ => .trans) outcomes
    unfold Fleet.call
    dsimp only
    split
    · next host machine same =>
      rw [same] at rises ending
      obtain ⟨ready, -, -, above⟩ := ending
      rw [Option.toList_none, List.append_nil]
      exact ⟨rises, sound.opened rises ready above⟩
    · next e machine same =>
      rw [same] at rises
      rw [Option.toList_none, List.append_nil]
      exact ⟨rises, sound.later rises⟩
  | issue k session hostData outcomes =>
    unfold Fleet.call
    dsimp only
    split
    · rw [Option.toList_none, List.append_nil]
      exact ⟨.refl path f.machine, sound⟩
    · next host there =>
      have holding := sound.holding k host there
      have alone : host.reservedUntil ≤ host.office.window.next →
          ∀ j, kept path f.machine = some j → j ≤ host.office.window.next := by
        intro short j found
        simpa [isUndisturbed, there, found, Int64.not_lt.mpr short] using undisturbed
      have serving := (Host.issue_ensures apart holding.watermark holding.block holding.covered
        alone session hostData).play (.refl path) (fun _ _ _ => .trans)
        outcomes
      obtain ⟨rises, follows, gives⟩ := serving
      refine ⟨rises, sound.served there rises follows fun i given => ?_⟩
      obtain ⟨ticket, answered, rfl⟩ := Option.map_eq_some_iff.mp given
      refine gives ticket ?_
      revert answered
      cases ((host.issue session hostData).play outcomes f.machine).1.1 <;>
        simp [Except.toOption]

theorem issuedIndices_cons (stage : Option Index × Fleet) (course : List (Option Index × Fleet)) :
    issuedIndices (stage :: course) = stage.1.toList ++ issuedIndices course := by
  unfold issuedIndices
  rw [List.filterMap_cons]
  cases stage.1 <;> rfl

/-- What one undisturbed call keeps, every sequence of them keeps. -/
theorem run_sound (sound : Sound path issued f)
    (named : (Path.ofText dataDir).child Watermark.name = path) (calls : List Call)
    (undisturbed : f.areUndisturbed dataDir path calls = true) :
    (issued ++ issuedIndices (run dataDir f calls)).Nodup ∧
      (∀ stage ∈ run dataDir f calls, ∀ i ∈ stage.1,
        ∃ j, kept path stage.2.machine = some j ∧ i < j) ∧
      (f.machine :: (run dataDir f calls).map fun stage => stage.2.machine).IsChain
        (Rises path) := by
  induction calls generalizing f issued with
  | nil =>
    refine ⟨?_, fun stage member => absurd member List.not_mem_nil, .singleton _⟩
    rw [run, issuedIndices, List.filterMap_nil, List.append_nil]
    exact sound.distinct
  | cons call calls ih =>
    obtain ⟨alone, undisturbed⟩ := Bool.and_eq_true_iff.mp undisturbed
    obtain ⟨rises, sound'⟩ := call_sound sound named call alone
    obtain ⟨distinct, below, chain⟩ := ih sound' undisturbed
    rw [run, List.map_cons, List.isChain_cons_cons]
    refine ⟨?_, ?_, rises, chain⟩
    · rw [issuedIndices_cons, ← List.append_assoc]
      exact distinct
    · intro stage member i found
      rcases List.mem_cons.mp member with rfl | member
      · exact sound'.below i (List.mem_append_right _ (Option.mem_toList.mpr found))
      · exact below stage member i found

/-- Hosts that are open at the same time issue no index twice and take no
watermark down, in whatever order they are called and whatever fails, as long as
none has to extend its reservation after another has reserved beyond it. -/
theorem undisturbed_hosts_never_reissue (dataDir : String) (machine : Machine)
    (calls : List Call)
    (undisturbed : areUndisturbed dataDir ((Path.ofText dataDir).child Watermark.name)
      ⟨machine, []⟩ calls = true) :
    let path := (Path.ofText dataDir).child Watermark.name
    let course := run dataDir ⟨machine, []⟩ calls
    (issuedIndices course).Nodup ∧
      (∀ i f, (some i, f) ∈ course →
        ∃ next, (Watermark.load path).run.run f.machine = (.ok (some next), f.machine) ∧
          i < next) ∧
      (machine :: course.map fun stage => stage.2.machine).IsChain (Rises path) := by
  intro path course
  have sound : Sound path [] ⟨machine, []⟩ := ⟨List.nodup_nil, nofun, nofun, nofun⟩
  obtain ⟨distinct, below, chain⟩ := run_sound sound rfl calls undisturbed
  refine ⟨distinct, fun i f member => ?_, chain⟩
  obtain ⟨next, held, less⟩ := below _ member i rfl
  exact ⟨next, run_load_of_kept held, less⟩

/-- Where the machines rise, the watermarks that are found do. -/
theorem kept_isChain {machines : List Machine} (rising : machines.IsChain (Rises path)) :
    (machines.map (kept path)).IsChain fun before after =>
      ∀ i, before = some i → ∃ j, after = some j ∧ i ≤ j := by
  rw [List.isChain_map]
  exact rising

/-- Two hosts that reserve two indices at a time take turns. The second extends its
reservation at the watermark, and the first goes on with what it holds. -/
theorem undisturbed_hosts_never_reissue_in_turns :
    let session : Session :=
      ⟨⟨⟨List.replicate 32 4, rfl⟩⟩, ⟨⟨List.replicate 32 9, rfl⟩⟩⟩
    let hostData : HostData := ⟨List.replicate 8 0, rfl⟩
    let start : Call := .start { dataDir := "", reserveBlock := 2 } []
    let issue (k : Nat) : Call := .issue k session hostData []
    let calls := [start, start, issue 1, issue 0, issue 1, issue 1, issue 0]
    let machine : Machine := ⟨.empty, fun _ => ⟨⟨List.replicate 32 7, rfl⟩⟩, 0⟩
    let path := (Path.ofText "data").child Watermark.name
    let course := run "data" ⟨machine, []⟩ calls
    areUndisturbed "data" path ⟨machine, []⟩ calls = true ∧ (issuedIndices course).Nodup ∧
      issuedIndices course = [2, 0, 3, 4, 1] := by
  intro session hostData start issue calls machine path course
  have undisturbed : areUndisturbed "data" path ⟨machine, []⟩ calls = true := by decide +kernel
  exact ⟨undisturbed, (undisturbed_hosts_never_reissue "data" machine calls undisturbed).1,
    by decide +kernel⟩

/-- Without that the same can go wrong. The second host issues 1 and reserves 2.
Then the first one extends its reservation in memory, from 1: it issues 1 again,
and takes the watermark from 3 down to 2. -/
theorem overlapping_hosts_reissue :
    let session : Session :=
      ⟨⟨⟨List.replicate 32 4, rfl⟩⟩, ⟨⟨List.replicate 32 9, rfl⟩⟩⟩
    let hostData : HostData := ⟨List.replicate 8 0, rfl⟩
    let start : Call := .start { dataDir := "", reserveBlock := 1 } []
    let issue (k : Nat) : Call := .issue k session hostData []
    let calls := [start, start, issue 1, issue 1, issue 0, issue 0]
    let machine : Machine := ⟨.empty, fun _ => ⟨⟨List.replicate 32 7, rfl⟩⟩, 0⟩
    let path := (Path.ofText "data").child Watermark.name
    let course := run "data" ⟨machine, []⟩ calls
    ¬ (issuedIndices course).Nodup ∧
      ¬ (machine :: course.map fun stage => stage.2.machine).IsChain (Rises path) ∧
      issuedIndices course = [1, 2, 0, 1] ∧
      (course.map fun stage => stage.2.machine).map (kept path) =
        [some 1, some 2, some 2, some 3, some 3, some 2] := by
  intro session hostData start issue calls machine path course
  have given : issuedIndices course = [1, 2, 0, 1] := by decide +kernel
  have watermarks : (course.map fun stage => stage.2.machine).map (kept path) =
      [some 1, some 2, some 2, some 3, some 3, some 2] := by decide +kernel
  refine ⟨by rw [given]; decide, fun chain => ?_, given, watermarks⟩
  have risen := kept_isChain chain.tail
  rw [List.tail_cons, watermarks] at risen
  simp [List.isChain_cons_cons] at risen

end Fleet
end Resumption
