import Resumption.Proofs.HostOpening
import Resumption.Proofs.LongPaths

/-! When exactly a host starts, on a machine that serves every request, and where it then
begins. No host starts once everything is reserved. -/
namespace Resumption

namespace Host

variable {settings : Settings} {m m' : Machine} {directory : Path}

/-- A key file that was there is still there. -/
def KeepsKey (directory : Path) (m m' : Machine) : Prop :=
  ∀ content, m.volume.view (directory.child KeyFile.name) = some (.file content) →
    m'.volume.view (directory.child KeyFile.name) = some (.file content)

/-- Starting, step by step. It fails before it saves anything, or it can have a key and
a watermark and ends as `finish` does. -/
theorem run_start (can : CanOpen directory m)
    (named : Path.ofText settings.dataDir = directory) :
    let loaded (m : Machine) := ((Watermark.load (directory.child Watermark.name)).run.run m).1
    (∃ e m', (start settings).run.run m = (.error e, m') ∧ KeepsKey directory m m' ∧
      loaded m' = loaded m ∧
      ¬ (settings.validate = .ok () ∧ Usable directory m ∧ ∃ found, loaded m = .ok found)) ∨
    settings.validate = .ok () ∧ Usable directory m ∧ ∃ found, loaded m = .ok found ∧
      let first := begins settings.tickets.first found
      let reserved := raise first (Index.clamp settings.reserveBlock.toNat)
      ∃ answer m', (start settings).run.run m = (answer, m') ∧ Ends first reserved answer ∧
        Watermark.kept (directory.child Watermark.name) m' = some reserved ∧
        KeepsKey directory m m' := by
  intro loaded
  subst named
  rw [start_eq]
  cases valid : settings.validate with
  | error e =>
    exact .inl ⟨_, m, Work.run_bind_error (run_examine_error valid m) _, fun _ => id, rfl, nofun⟩
  | ok u =>
    rw [Work.run_bind_ok (run_examine_ok valid m)]
    obtain ⟨m₁, made, opens, same⟩ := can.opens
    have same_key := same KeyFile.name key_mem
    have loaded₁ : loaded m₁ = loaded m :=
      Watermark.run_load_congr (same Watermark.name watermark_mem)
    have usable_iff : Usable (Path.ofText settings.dataDir) m₁ ↔
        Usable (Path.ofText settings.dataDir) m := by
      unfold Usable
      rw [same_key]
    dsimp only
    rw [Work.run_bind_ok (Work.run_step_ok made _)]
    rcases run_key opens with
      ⟨unusable, e, failed⟩ | ⟨usable, key, m₂, gave, opens₂, stays, same_watermark⟩
    · refine .inl ⟨e, m₁, Work.run_bind_error failed _, ?_, loaded₁, ?_⟩
      · exact fun content found => same_key.trans found
      · exact fun fine => unusable (usable_iff.mpr fine.2.1)
    · have loaded₂ : loaded m₂ = loaded m :=
        (Watermark.run_load_congr same_watermark).trans loaded₁
      have keeps₂ : KeepsKey (Path.ofText settings.dataDir) m m₂ := by
        intro content found
        rw [stays content (same_key.trans found)]
        exact same_key.trans found
      have loads : (Watermark.load ((Path.ofText settings.dataDir).child Watermark.name)).run.run
          m₂ = (loaded m, m₂) := by
        rw [← loaded₂]
        exact Prod.ext rfl (by rw [Watermark.run_load])
      rw [Work.run_bind_ok gave]
      cases found : loaded m with
      | error e =>
        rw [found] at loads
        exact .inl ⟨e, m₂, Work.run_bind_error loads _, keeps₂, loaded₂.trans found, by simp⟩
      | ok found' =>
        rw [found] at loads
        obtain ⟨answer, m', ran, ends, kept, same_key'⟩ := run_finish opens₂ valid key found'
        refine .inr ⟨rfl, usable_iff.mp usable, found', rfl, answer, m', ?_, ends, kept, ?_⟩
        · rw [Work.run_bind_ok loads]
          exact ran
        · exact fun content stands => same_key'.trans (keeps₂ content stands)

theorem toInt_begins (first : Index) (found : Option Index) :
    (begins first found).toInt =
      found.elim first.toInt fun kept => max kept.toInt first.toInt := by
  cases found with
  | none => rfl
  | some kept =>
    show (if first < kept then kept else first).toInt = max kept.toInt first.toInt
    split
    · next less =>
      rw [Int64.lt_iff_toInt_lt] at less
      omega
    · next above =>
      rw [Int64.lt_iff_toInt_lt] at above
      omega

theorem toInt_raise_clamp (first : Index) (n : Nat) :
    (raise first (Index.clamp n)).toInt =
      min (first.toInt + min (n : Int) maxInteger) maxInteger := by
  have low := first.minInteger_le
  rw [raise, Index.toInt_clamp, Index.toInt_clamp]
  unfold minInteger maxInteger at *
  omega

/-! After everything is reserved -/

/-- Settings that are accepted leave an index to issue. -/
theorem more_of_validate {settings : TicketSettings} (valid : settings.validate = .ok ()) :
    settings.first ≠ Index.last := by
  unfold TicketSettings.validate at valid
  split at valid
  · cases valid
  · split at valid
    · cases valid
    · assumption

/-- A host that starts has an index left, whatever the machine does. -/
theorem start_leaves_index (settings : Settings) (m : Machine) :
    Work.Ensures (fun _ _ => True) (fun host _ => host.office.window.next ≠ Index.last)
      (fun _ _ => True) (start settings) m := by
  rw [start_eq]
  refine (Work.ensures_trivial _ m).bind fun _ m₁ _ => ?_
  refine (Work.ensures_trivial _ m₁).bind fun _ m₂ _ => ?_
  refine (Work.ensures_trivial _ m₂).bind fun key m₃ _ => ?_
  refine (Work.ensures_trivial _ m₃).bind fun found m₄ _ => ?_
  unfold finish
  refine (Work.ensures_trivial _ m₄).bind fun _ m₅ _ => ?_
  dsimp only
  cases opened : Office.ofSettings key
      { settings.tickets with first := begins settings.tickets.first found } with
  | error e => trivial
  | ok office =>
    obtain ⟨_, valid, -⟩ := bind_eq_ok_iff.mp opened
    show office.window.next ≠ Index.last
    rw [next_ofSettings opened]
    exact more_of_validate valid

/-- Where everything is reserved no host starts, and everything stays reserved. -/
theorem start_of_reserved {watermark : Path} (named : Path.ofText settings.dataDir = directory)
    (same : directory.child Watermark.name = watermark)
    (held : Watermark.kept watermark m = some Index.last) (outcomes : List Outcome) :
    (∃ e, ((start settings).run.play outcomes m).1 = .error e) ∧
      Watermark.kept watermark ((start settings).run.play outcomes m).2 = some Index.last := by
  subst same
  obtain ⟨rises, ends⟩ := (start_ensures named m).play (Watermark.Rises.refl _)
    (fun _ _ _ => .trans) outcomes
  have left := (start_leaves_index settings m).of_play outcomes
  have highest : ∀ i : Index, Index.last ≤ i → i = Index.last := by
    intro i above
    have high := i.le_maxInteger
    rw [Int64.le_iff_toInt_le, Index.toInt_last] at above
    exact (Index.eq_last_iff i).mpr (by omega)
  constructor
  · cases answer : ((start settings).run.play outcomes m).1 with
    | error e => exact ⟨e, rfl⟩
    | ok host =>
      rw [answer] at ends left
      obtain ⟨-, -, -, above⟩ := ends
      exact absurd (highest _ (above _ held)) left
  · obtain ⟨i, held', above⟩ := rises _ held
    rw [held', highest i above]

/-- Hosts that start one after another, on a machine that may fail: how each of them
fares, and the machine after the last. -/
def starts : List (Settings × List Outcome) → Machine → List (Except HostError Host) × Machine
  | [], m => ([], m)
  | (settings, outcomes) :: later, m =>
    let (answer, m') := (start settings).run.play outcomes m
    let (answers, last) := starts later m'
    (answer :: answers, last)

theorem starts_of_reserved (held : Watermark.kept (directory.child Watermark.name) m =
      some Index.last) {later : List (Settings × List Outcome)}
    (named : ∀ attempt ∈ later, Path.ofText attempt.1.dataDir = directory)
    {answer : Except HostError Host} (member : answer ∈ (starts later m).1) :
    ∃ e, answer = .error e := by
  induction later generalizing m with
  | nil => cases member
  | cons attempt later ih =>
    obtain ⟨settings, outcomes⟩ := attempt
    obtain ⟨failed, held'⟩ :=
      start_of_reserved (named _ List.mem_cons_self) rfl held outcomes
    rcases List.mem_cons.mp member with rfl | member
    · exact failed
    · exact ih held' (fun other found => named other (List.mem_cons_of_mem _ found)) member

/-- Only a watermark leads to the last index, since settings begin before it. -/
theorem found_of_begins {first : Index} {found : Option Index} (more : first ≠ Index.last)
    (ends : begins first found = Index.last) : found = some Index.last := by
  cases found with
  | none => exact absurd ends more
  | some kept =>
    have chosen : (if first < kept then kept else first) = Index.last := ends
    split at chosen
    · rw [chosen]
    · exact absurd chosen more

theorem raise_last (n : Nat) : raise Index.last (Index.clamp n) = Index.last := by
  rw [Index.eq_last_iff, toInt_raise_clamp, Index.toInt_last]
  unfold maxInteger
  omega

/-- When exactly a host starts, on a machine on which its directory can be made and that
serves every request. It starts exactly if its settings are accepted, the key file is
absent or holds as many bytes as a key has, the watermark file is absent or gives a
watermark of the version that is read, and the larger of that watermark and the first
index of the settings is not the last index. Then it begins at the larger of the two, and
the watermark on disk is that many indices above it as it reserves at a time, both capped
at the end of the range. If it does not start, a key file that was there is still there,
and the watermark loads as before. A watermark that does not load keeps hosts from
starting. If the reservation reaches to the last index, no host starts on the directory
any more, whatever its other settings, whatever fails and whatever changed in the
meantime, as long as the watermark loads as it does. -/
theorem starts_exactly (settings : Settings) (m : Machine)
    (can : CanOpen (Path.ofText settings.dataDir) m) :
    let directory := Path.ofText settings.dataDir
    let keyFile := directory.child KeyFile.name
    let watermark := directory.child Watermark.name
    let loaded (m : Machine) := ((Watermark.load watermark).run.run m).1
    let larger (found : Option Index) : Int := found.elim settings.tickets.first.toInt
      fun kept => max kept.toInt settings.tickets.first.toInt
    let started := (start settings).run.run m
    ((∃ host, started.1 = .ok host) ↔ settings.validate = .ok () ∧
      (m.volume.view keyFile = none ∨
        ∃ content, m.volume.view keyFile = some (.file content) ∧ content.length = keySize) ∧
      ∃ found, Watermark.Reads watermark m.volume found ∧ larger found < maxInteger) ∧
    (∀ host, started.1 = .ok host → ∃ found, Watermark.Reads watermark m.volume found ∧
      host.office.window.next.toInt = larger found ∧
      host.reservedUntil.toInt =
        min (larger found + min (settings.reserveBlock.toNat : Int) maxInteger) maxInteger ∧
      loaded started.2 = .ok (some host.reservedUntil)) ∧
    (∀ e, started.1 = .error e →
      (∀ content, m.volume.view keyFile = some (.file content) →
        started.2.volume.view keyFile = some (.file content)) ∧
      loaded started.2 = loaded m) ∧
    ((∃ e, loaded m = .error e) → ∃ e, started.1 = .error e) ∧
    (∀ host, started.1 = .ok host → host.reservedUntil = Index.last →
      ∀ m', loaded m' = loaded started.2 → ∀ later : List (Settings × List Outcome),
        (∀ attempt ∈ later, attempt.1.dataDir = settings.dataDir) →
          ∀ answer ∈ (starts later m').1, ∃ e, answer = .error e) := by
  intro directory keyFile watermark loaded larger started
  have larger_eq : ∀ found, larger found = (begins settings.tickets.first found).toInt :=
    fun found => (toInt_begins _ found).symm
  have reads_iff : ∀ found, loaded m = .ok found ↔ Watermark.Reads watermark m.volume found :=
    fun _ => Watermark.run_load_eq_ok_iff
  have loaded_of_kept : ∀ {m i}, Watermark.kept watermark m = some i → loaded m = .ok (some i) :=
    fun held => congrArg Prod.fst (Watermark.run_load_of_kept held)
  rcases run_start can rfl with ⟨e, m', ran, keeps, same, unfit⟩ |
    ⟨valid, usable, found, reads, answer, m', ran, ends, held, keeps⟩
  · have failed : started = (.error e, m') := ran
    rw [failed]
    refine ⟨iff_of_false nofun ?_, nofun, fun _ _ => ⟨keeps, same⟩, fun _ => ⟨e, rfl⟩, nofun⟩
    rintro ⟨valid, usable, found, reads, -⟩
    exact unfit ⟨valid, usable, found, (reads_iff found).mpr reads⟩
  · have ran : started = (answer, m') := ran
    have readable : ¬ ∃ e, loaded m = .error e := by
      rintro ⟨e, fails⟩
      cases fails.symm.trans reads
    have unique : ∀ other, Watermark.Reads watermark m.volume other → other = found := by
      intro other reads'
      have same := ((reads_iff other).mpr reads').symm.trans reads
      exact Except.ok.inj same
    rw [ran]
    rcases ends with ⟨last, e, rfl⟩ | ⟨more, host, rfl, next, reserved⟩
    · refine ⟨iff_of_false nofun ?_, nofun, fun _ _ => ⟨keeps, ?_⟩, fun _ => ⟨e, rfl⟩, nofun⟩
      · rintro ⟨-, -, other, reads', below⟩
        rw [unique other reads', larger_eq, last, Index.toInt_last] at below
        exact lt_irrefl _ below
      · have kept := found_of_begins (more_of_validate (tickets_valid valid)) last
        rw [last, raise_last] at held
        exact (loaded_of_kept held).trans (kept ▸ reads.symm)
    · rw [← reserved] at held
      refine ⟨iff_of_true ⟨host, rfl⟩ ⟨valid, usable, found, (reads_iff found).mp reads, ?_⟩,
        ?_, nofun, fun fails => absurd fails readable, ?_⟩
      · rw [larger_eq]
        exact Index.toInt_lt_of_ne_last more
      · rintro host' ⟨⟩
        refine ⟨found, (reads_iff found).mp reads, ?_, ?_, loaded_of_kept held⟩
        · rw [larger_eq, next]
        · rw [larger_eq, reserved, toInt_raise_clamp]
      · rintro host' ⟨⟩ whole m₁ same later named answer member
        have held₁ : Watermark.kept watermark m₁ = some Index.last := by
          rw [whole] at held
          refine Watermark.run_load_iff.mp (Prod.ext (same.trans (loaded_of_kept held)) ?_)
          rw [Watermark.run_load]
        exact starts_of_reserved held₁ (fun attempt found => by rw [named attempt found]) member

/-- A host is stopped while it keeps its first key, just below the end of the range. The
next one starts, removes what is beside the key, and reserves everything that is left, so
that none starts after it. -/
theorem starts_exactly_near_last :
    let key (k : Nat) : TicketKey := ⟨⟨List.replicate 32 (UInt8.ofNat k), by simp⟩⟩
    let kept : Index := Int64.maxValue - 1
    let m : Machine :=
      ⟨⟨[(["data"], .directory), (["data", "ticket.key.tmp"], .file [1, 2, 3]),
          (["data", "ticket_index.json"], .file (Bytes.ofText (Watermark.text kept)))]⟩, key, 7⟩
    let settings : Settings := { dataDir := "data", tickets := { first := -10 } }
    let started := (start settings).run.run m
    let later : List (Settings × List Outcome) :=
      [(settings, []), ({ settings with reserveBlock := 1 }, [.failed none .busy])]
    CanOpen (Path.ofText settings.dataDir) m ∧
      (∃ host, started.1 = .ok host ∧ host.office.window.next = kept ∧
        host.reservedUntil = Index.last) ∧
      ∀ answer ∈ (starts later started.2).1, ∃ e, answer = .error e := by
  intro key kept m settings started later
  have can : CanOpen (Path.ofText settings.dataDir) m := {
    rooted := Volume.rooted_of_entries (by decide)
    direct := by decide
    made := by decide +kernel
    valid := by decide
    free := by decide }
  let watermark := (Path.ofText settings.dataDir).child Watermark.name
  have loads : ((Watermark.load watermark).run.run m).1 = .ok (some kept) := by decide +kernel
  have reads : Watermark.Reads watermark m.volume (some kept) :=
    Watermark.run_load_eq_ok_iff.mp loads
  obtain ⟨starts_iff, begun, -, -, stuck⟩ := starts_exactly settings m can
  obtain ⟨host, opened⟩ := starts_iff.mpr
    ⟨by decide +kernel, .inl (by decide), some kept, reads, by decide⟩
  obtain ⟨found, reads', next, reserved, -⟩ := begun host opened
  have same : found = some kept :=
    Except.ok.inj ((Watermark.run_load_eq_ok_iff.mpr reads').symm.trans loads)
  subst same
  have whole : host.reservedUntil = Index.last := by
    rw [Index.eq_last_iff, reserved]
    decide
  refine ⟨can, ⟨host, opened, Int64.toInt_inj.mp next, whole⟩, ?_⟩
  exact stuck host opened whole started.2 rfl later (by simp [later])

/-- A host does not start in the root if so many slashes lead there that the paths of its
files are too long. -/
theorem start_of_slashes {settings : Settings} (valid : settings.validate = .ok ())
    {count : Nat} (few : count ≤ pathLimit) (many : pathLimit < count + KeyFile.name.utf8ByteSize)
    (m : Machine) :
    let slashes := String.ofList (List.replicate count '/')
    let directory := Path.ofText slashes
    let temporary := KeyFile.temporary (directory.child KeyFile.name)
    ((Script.makeDirectories directory).run m).1 = .ok () ∧
      ((start { settings with dataDir := slashes }).run.run m).1.map (fun _ => ()) =
        .error (.during (.createKey temporary) (.storage .nameTooLong)) := by
  intro text directory temporary
  have size : KeyFile.name.utf8ByteSize < pathLimit := by decide
  have slashes : directory = Path.slashes count := Path.ofText_slashes count
  have stands : m.volume.isDirectory directory = true := by
    rw [slashes]
    exact Volume.isDirectory_slashes (by omega) few
  have made := Script.run_makeDirectories_of_isDirectory stands
  have long : ∀ name ∈ [KeyFile.name, KeyFile.temporaryName],
      Volume.check (directory.child name) = .error .nameTooLong := by
    intro name member
    have fine : '\x00' ∉ name.toList ∧ KeyFile.name.utf8ByteSize ≤ name.utf8ByteSize := by
      revert name
      decide
    rw [slashes]
    exact Volume.check_child_slashes fine.1 (by omega)
  have parent : (directory.child KeyFile.name).parent? = some (Path.slashes 1) := by
    rw [slashes]
    exact Path.parent?_child_slashes (by omega) (by decide)
  have root := Volume.isDirectory_slashes (v := m.volume) Nat.one_pos (by decide)
  obtain ⟨m', failed⟩ := KeyFile.run_load_of_long (long _ (by simp))
    (by rw [KeyFile.temporary_child]; exact long _ (by decide)) parent root
  refine ⟨congrArg Prod.fst made, ?_⟩
  have valid' : ({ settings with dataDir := text } : Settings).validate = .ok () := valid
  rw [start_eq, Work.run_bind_ok (run_examine_ok valid' m)]
  dsimp only
  rw [Work.run_bind_ok (Work.run_step_ok made _), Work.run_bind_error failed]
  rfl

/-- What `starts_exactly` leaves open or says otherwise than one might think. A number of
indices at a time beyond the last index counts as the last index, so that a host which
begins below zero does not reserve everything. Where the directory leads back out of one
that is missing, a start makes that one and fails at the key file, and from then on a
watermark is found that was there. And where the directory is there, but the paths of
the files in it are too long, no key is kept. -/
theorem starts_otherwise :
    let key (k : Nat) : TicketKey := ⟨⟨List.replicate 32 (UInt8.ofNat k), by simp⟩⟩
    let empty : Machine := ⟨.empty, key, 7⟩
    let most : Settings :=
      { dataDir := "data", tickets := { first := -10 }, reserveBlock := UInt64.ofNat (2 ^ 64 - 1) }
    let back : Settings := { dataDir := "a/.." }
    let m : Machine :=
      ⟨⟨[(["ticket_index.json"], .file (Bytes.ofText (Watermark.text 5))),
          (["ticket.key"], .file [0])]⟩, key, 7⟩
    let found (m : Machine) :=
      ((Watermark.load ((Path.ofText back.dataDir).child Watermark.name)).run.run m).1
    let slashes := String.ofList (List.replicate 4090 '/')
    let temporary := KeyFile.temporary ((Path.ofText slashes).child KeyFile.name)
    (((start most).run.run empty).1.map (·.reservedUntil.toInt) = .ok (maxInteger - 10) ∧
      maxInteger - 10 < min (most.tickets.first.toInt + most.reserveBlock.toNat) maxInteger) ∧
      (((Script.makeDirectories (Path.ofText back.dataDir)).run m).1 = .ok () ∧
        found m = .ok none ∧
        ((start back).run.run m).1.map (fun _ => ()) = .error (.keyLength 1) ∧
        found ((start back).run.run m).2 = .ok (some 5)) ∧
      ((Script.makeDirectories (Path.ofText slashes)).run empty).1 = .ok () ∧
        ((start { back with dataDir := slashes }).run.run empty).1.map (fun _ => ()) =
          .error (.during (.createKey temporary) (.storage .nameTooLong)) := by
  intro key empty most back m found slashes temporary
  refine ⟨by decide +kernel, by decide +kernel, ?_⟩
  have accepted : back.validate = .ok () := by decide +kernel
  exact start_of_slashes accepted (by decide) (by decide) empty

end Host
end Resumption
