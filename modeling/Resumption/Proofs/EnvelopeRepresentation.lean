import Resumption.Proofs.CheckedSteps
import Resumption.Proofs.EnvelopeCodec

/-! Envelopes without a promise. Nothing in the fields of a raw envelope keeps the number of
its sealed bytes and the size beside them together, or either within what two bytes of the
wire can tell, and reading puts the fields together without a look at them. Still every
envelope that can be obtained keeps the promise that `Envelope` makes. -/
namespace Resumption

/-- The fields of an envelope. -/
structure RawEnvelope where
  header : UInt8
  index : Index
  hostData : HostData
  sealedBytes : Bytes
  sealedSize : Nat

/-- The fields, and no more of the promise. -/
def Envelope.raw (ticket : Envelope) : RawEnvelope :=
  ⟨ticket.header, ticket.index, ticket.hostData, ticket.sealedBytes, ticket.sealedSize⟩

namespace RawEnvelope

/-- Refuses what is no length of sealed bytes. -/
def checkLength (length : Nat) : Result Unit :=
  if length < tagSize then .error (.malformed (.sealedTooShort length))
  else if maxSealed < length then .error (.malformed (.sealedTooLong length))
  else .ok ()

/-- The envelope with the given content, if the sealed bytes have an admissible length. -/
def make (header : UInt8) (index : Index) (hostData : HostData) (sealedBytes : Bytes) :
    Result RawEnvelope := do
  checkLength sealedBytes.length
  return ⟨header, index, hostData, sealedBytes, sealedBytes.length⟩

/-- The outcome of replacing the sealed bytes, and the envelope afterwards. -/
def replaceSealed (e : RawEnvelope) (sealedBytes : Bytes) : Result Unit × RawEnvelope :=
  match checkLength sealedBytes.length with
  | .error refusal => (.error refusal, e)
  | .ok () => (.ok (), { e with sealedSize := sealedBytes.length, sealedBytes })

def size (e : RawEnvelope) : Nat :=
  envelopeOverhead + e.sealedSize

/-- The fields in order. Of the size no more is written than its two lowest bytes. -/
def encode (e : RawEnvelope) : Bytes :=
  sealContext e.header e.index e.hostData ++
    (Bytes.littleEndian 2 (UInt16.ofNat e.sealedSize).toNat ++ e.sealedBytes)

/-- The envelope at a position and the number of bytes it takes, read in checked steps. The
size that is read is taken as it is. -/
def read (data : Bytes) (start : Position) : Checked (RawEnvelope × Position) := do
  let fixedEnd := start.capped envelopeOverhead
  if data.length < fixedEnd.toNat then
    throw (.truncated .ticketEnvelope fixedEnd.toNat data.length)
  let header ← Checked.byteAt data start
  let place ← Checked.sum start 1
  let index ← Checked.field data place 8 .ticketIndex
  let place ← Checked.sum place 8
  let hostData ← Checked.field data place 8 .ticketHostData
  let place ← Checked.sum place 8
  let length ← Checked.field data place 2 .ticketLength
  let sealedSize := Bytes.ofLittleEndian length.toList
  let place ← Checked.sum place 2
  if sealedSize < tagSize then throw (.malformed (.sealedTooShort sealedSize))
  let stop ← Checked.sum place (UInt64.ofNat sealedSize)
  let some sealedBytes := data.slice? place.toNat stop.toNat
    | throw (.truncated .ticketCiphertext stop.toNat data.length)
  let used ← Checked.difference stop start
  return (⟨header, Index.ofOctets index, hostData, sealedBytes, sealedSize⟩, used)

/-- What `Envelope` promises of its fields. -/
structure Consistent (e : RawEnvelope) : Prop where
  sealedSize_eq : e.sealedSize = e.sealedBytes.length
  tagSize_le : tagSize ≤ e.sealedSize
  le_maxSealed : e.sealedSize ≤ maxSealed

/-- The raw envelopes that can be obtained: by making one, by reading one and by any calls
that replace the sealed bytes, whether they succeed or not. A copy is the envelope itself. -/
inductive Obtained : RawEnvelope → Prop
  | made {header : UInt8} {index : Index} {hostData : HostData} {sealedBytes : Bytes}
      {e : RawEnvelope} (made : make header index hostData sealedBytes = .ok e) : Obtained e
  | read {data : Bytes} (bounded : data.length ≤ maxLength) {start used : Position}
      {e : RawEnvelope} (decoded : (read data start).run = some (.ok (e, used))) : Obtained e
  | replaced {e : RawEnvelope} (before : Obtained e) (sealedBytes : Bytes) :
      Obtained (e.replaceSealed sealedBytes).2

variable {e : RawEnvelope} {data : Bytes} {start : Position}

theorem checkLength_eq_ok_iff {length : Nat} :
    checkLength length = .ok () ↔ tagSize ≤ length ∧ length ≤ maxSealed := by
  unfold checkLength
  split
  · simp; omega
  · split
    · simp; omega
    · simp; omega

/-- The promise is kept by the fields of an envelope and by no others. -/
theorem consistent_iff : e.Consistent ↔ ∃ ticket : Envelope, ticket.raw = e := by
  constructor
  · intro consistent
    exact ⟨⟨e.header, e.index, e.hostData, e.sealedBytes, e.sealedSize,
      consistent.sealedSize_eq, consistent.tagSize_le, consistent.le_maxSealed⟩, rfl⟩
  · rintro ⟨ticket, rfl⟩
    exact ⟨ticket.sealedSize_eq, ticket.tagSize_le, ticket.le_maxSealed⟩

/-- Making an envelope is making its fields. -/
theorem make_eq (header : UInt8) (index : Index) (hostData : HostData) (sealedBytes : Bytes) :
    make header index hostData sealedBytes =
      (Envelope.make header index hostData sealedBytes).map Envelope.raw := by
  unfold make checkLength Envelope.make
  split
  · rfl
  · split <;> rfl

/-- Sealed bytes of an admissible length make an envelope. -/
theorem exists_make (header : UInt8) (index : Index) (hostData : HostData) {sealedBytes : Bytes}
    (low : tagSize ≤ sealedBytes.length) (high : sealedBytes.length ≤ maxSealed) :
    ∃ ticket, Envelope.make header index hostData sealedBytes = .ok ticket ∧
      ticket.raw = ⟨header, index, hostData, sealedBytes, sealedBytes.length⟩ :=
  ⟨⟨header, index, hostData, sealedBytes, sealedBytes.length, rfl, low, high⟩,
    (Envelope.make_eq_ok_iff _ _ _ _ _).mpr ⟨rfl, rfl, rfl, rfl⟩, rfl⟩

/-- Reading an envelope is reading its fields, in steps of which none ends without an
answer. -/
theorem read_tracks (bounded : data.length ≤ maxLength) :
    Checked.Tracks (fun found ticket => found = (ticket.1.raw, ticket.2)) (read data start)
      (Envelope.decode data start) := by
  unfold maxLength at bounded
  unfold read Envelope.decode
  dsimp only
  refine Checked.tracks_refuse fun reach => ?_
  have inside : start.toNat + 19 ≤ data.length := by
    rw [Position.toNat_capped, envelopeOverhead] at reach
    unfold maxWord at reach
    omega
  have room : start.toNat + 19 + 65535 ≤ maxWord := by
    unfold maxWord
    omega
  have behind (n : Nat) (near : n ≤ 19) : (start + UInt64.ofNat n).toNat = start.toNat + n :=
    Position.toNat_add_of_le (by omega)
  have one : (start + 1).toNat = start.toNat + 1 := behind 1 (by decide)
  have nine : (start + 9).toNat = start.toNat + 9 := behind 9 (by decide)
  have seventeen : (start + 17).toNat = start.toNat + 17 := behind 17 (by decide)
  have nineteen : (start + 19).toNat = start.toNat + 19 := behind 19 (by decide)
  have eight : (8 : Position).toNat = 8 := rfl
  have first := List.getElem?_eq_getElem (show start.toNat < data.length by omega)
  simp only [first]
  refine .after (Checked.run_byteAt first) ?_
  refine .after (Checked.run_sum (show start.toNat + 1 ≤ maxWord by omega)) ?_
  refine .bind (Checked.tracks_field ..) ?_
  rintro index _ rfl -
  refine .after (Checked.run_sum (by omega)) ?_
  rw [show start + 1 + 8 = start + 9 from UInt64.add_assoc ..]
  refine .bind (Checked.tracks_field ..) ?_
  rintro hostData _ rfl -
  refine .after (Checked.run_sum (by omega)) ?_
  rw [show start + 9 + 8 = start + 17 from UInt64.add_assoc ..]
  refine .bind (Checked.tracks_field ..) ?_
  rintro length _ rfl -
  refine .after (Checked.run_sum (show (start + 17).toNat + 2 ≤ maxWord by omega)) ?_
  rw [show start + 17 + 2 = start + 19 from UInt64.add_assoc ..]
  refine Checked.tracks_refuse fun tagged => ?_
  have small : Bytes.ofLittleEndian length.toList < 65536 := by
    have bound := Bytes.ofLittleEndian_lt length.toList
    rwa [length.length_toList] at bound
  have narrow : (UInt64.ofNat (Bytes.ofLittleEndian length.toList)).toNat =
      Bytes.ofLittleEndian length.toList := by
    rw [UInt64.toNat_ofNat']
    omega
  refine .after (Checked.run_sum (by omega)) ?_
  have stop := Position.toNat_add_of_le (p := start + 19)
    (n := Bytes.ofLittleEndian length.toList) (by omega)
  cases found : data.slice? (start + 19).toNat
      (start + 19 + UInt64.ofNat (Bytes.ofLittleEndian length.toList)).toNat with
  | none => exact rfl
  | some sealedBytes =>
    have sized := Bytes.length_of_slice? found
    rw [stop, Nat.add_sub_cancel_left] at sized
    -- The length that was read is that of a slice, so nothing is left to be checked.
    obtain ⟨ticket, made, raw⟩ := exists_make data[start.toNat] (Index.ofOctets index) hostData
      (show tagSize ≤ sealedBytes.length by omega) (by unfold maxSealed; omega)
    dsimp only
    rw [made]
    refine .after (Checked.run_difference (by omega)) ?_
    exact Checked.tracks_pure (by rw [raw, sized])

/-- What is read are the fields of the envelopes that are read. -/
theorem read_eq_ok_iff (bounded : data.length ≤ maxLength) {used : Position} :
    (read data start).run = some (.ok (e, used)) ↔
      ∃ ticket : Envelope, ticket.raw = e ∧ Envelope.decode data start = .ok (ticket, used) := by
  have tracks : Checked.Tracks _ (read data start) _ := read_tracks bounded
  cases decoded : Envelope.decode data start with
  | error refusal =>
    rw [decoded] at tracks
    simp [show (read data start).run = _ from tracks]
  | ok ticket =>
    obtain ⟨ticket, taken⟩ := ticket
    rw [decoded] at tracks
    obtain ⟨_, ran, rfl⟩ := tracks
    simp only [ran, Option.some.injEq, Except.ok.injEq, Prod.mk.injEq]
    constructor
    · rintro ⟨rfl, rfl⟩
      exact ⟨ticket, rfl, rfl, rfl⟩
    · rintro ⟨_, rfl, rfl, rfl⟩
      exact ⟨rfl, rfl⟩

/-- Replacing the sealed bytes changes them and their size, or nothing. -/
theorem replaceSealed_cases (e : RawEnvelope) (sealedBytes : Bytes) :
    (tagSize ≤ sealedBytes.length ∧ sealedBytes.length ≤ maxSealed) ∧
      e.replaceSealed sealedBytes =
        (.ok (), { e with sealedBytes, sealedSize := sealedBytes.length }) ∨
    ¬ (tagSize ≤ sealedBytes.length ∧ sealedBytes.length ≤ maxSealed) ∧
      ∃ refusal, e.replaceSealed sealedBytes = (.error refusal, e) := by
  rw [← checkLength_eq_ok_iff]
  unfold replaceSealed
  cases checkLength sealedBytes.length with
  | ok admitted => exact .inl ⟨rfl, rfl⟩
  | error refusal => exact .inr ⟨nofun, refusal, rfl⟩

/-- Replacing the sealed bytes of an envelope is replacing those of its fields. -/
theorem replaceSealed_raw (ticket : Envelope) (sealedBytes : Bytes) :
    ticket.raw.replaceSealed sealedBytes =
      ((ticket.replaceSealed sealedBytes).1, (ticket.replaceSealed sealedBytes).2.raw) := by
  unfold replaceSealed checkLength Envelope.replaceSealed Envelope.make
  split_ifs <;> rfl

theorem consistent_of_obtained (obtained : e.Obtained) : e.Consistent := by
  induction obtained with
  | @made header index hostData sealedBytes e made =>
    rw [make_eq] at made
    cases makes : Envelope.make header index hostData sealedBytes with
    | error refusal =>
      rw [makes] at made
      cases made
    | ok ticket =>
      rw [makes] at made
      cases made
      exact consistent_iff.mpr ⟨ticket, rfl⟩
  | read bounded decoded =>
    obtain ⟨ticket, rfl, -⟩ := (read_eq_ok_iff bounded).mp decoded
    exact consistent_iff.mpr ⟨ticket, rfl⟩
  | replaced before sealedBytes consistent =>
    obtain ⟨ticket, rfl⟩ := consistent_iff.mp consistent
    rw [replaceSealed_raw]
    exact consistent_iff.mpr ⟨_, rfl⟩

/-- However an envelope was obtained and whatever was done to it since, the size beside its
sealed bytes is their number, which the two bytes of the wire can tell, and it is at least
that of a tag. What is written has the size that was told and reads back as the envelope.
A refused replacement leaves every field alone, an admitted one changes the sealed bytes and
their size. All this is as in `Envelope`. -/
theorem obtained_envelopes_are_consistent (obtained : e.Obtained) :
    (e.sealedSize = e.sealedBytes.length ∧
      tagSize ≤ e.sealedBytes.length ∧ e.sealedBytes.length ≤ maxSealed) ∧
    e.encode.length = e.size ∧
    (UInt16.ofNat e.sealedSize).toNat = e.sealedSize ∧
    (read e.encode 0).run = some (.ok (e, UInt64.ofNat e.size)) ∧
    (∀ sealedBytes : Bytes,
      (tagSize ≤ sealedBytes.length ∧ sealedBytes.length ≤ maxSealed) ∧
        e.replaceSealed sealedBytes =
          (.ok (), { e with sealedBytes, sealedSize := sealedBytes.length }) ∨
      ¬ (tagSize ≤ sealedBytes.length ∧ sealedBytes.length ≤ maxSealed) ∧
        ∃ refusal, e.replaceSealed sealedBytes = (.error refusal, e)) ∧
    ∃ ticket : Envelope, ticket.raw = e ∧ ticket.encode = e.encode ∧ ticket.size = e.size ∧
      ∀ sealedBytes, e.replaceSealed sealedBytes =
        ((ticket.replaceSealed sealedBytes).1, (ticket.replaceSealed sealedBytes).2.raw) := by
  have consistent := consistent_of_obtained obtained
  obtain ⟨ticket, rfl⟩ := consistent_iff.mp consistent
  have low := consistent.tagSize_le
  have high := consistent.le_maxSealed
  rw [consistent.sealedSize_eq] at low high
  have length : ticket.raw.encode.length = ticket.raw.size := ticket.length_encode
  have narrow : (UInt16.ofNat ticket.raw.sealedSize).toNat = ticket.raw.sealedSize := by
    rw [consistent.sealedSize_eq, UInt16.toNat_ofNat']
    unfold maxSealed at high
    omega
  have short : ticket.raw.encode.length ≤ maxLength := by
    have small := ticket.size_lt
    change ticket.encode.length ≤ maxLength
    rw [ticket.length_encode]
    unfold maxLength
    omega
  have back : (read ticket.raw.encode 0).run =
      some (.ok (ticket.raw, UInt64.ofNat ticket.raw.size)) := by
    refine (read_eq_ok_iff short).mpr ⟨ticket, rfl, Envelope.decode_of_standsAt ?_ ?_⟩
    · exact Nat.le_trans short (by decide)
    · exact List.prefix_rfl
  exact ⟨⟨consistent.sealedSize_eq, low, high⟩, length, narrow, back, replaceSealed_cases _,
    ticket, rfl, rfl, rfl, replaceSealed_raw ticket⟩

/-- An envelope that was made, refused two bytes and then given twenty. -/
theorem obtained_envelopes_are_consistent_after_refusal :
    let made : RawEnvelope :=
      ⟨7, -2, ⟨[1, 2, 3, 4, 5, 6, 7, 8], rfl⟩, List.replicate 16 9, 16⟩
    let refused := made.replaceSealed [1, 2]
    let replaced := refused.2.replaceSealed (List.replicate 20 5)
    refused = (.error (.malformed (.sealedTooShort 2)), made) ∧
      replaced.2.sealedSize = 20 ∧ replaced.2.encode.length = 39 ∧
      (read replaced.2.encode 0).run = some (.ok (replaced.2, 39)) := by
  intro made refused replaced
  have makes : make 7 (-2) ⟨[1, 2, 3, 4, 5, 6, 7, 8], rfl⟩ (List.replicate 16 9) = .ok made := rfl
  have obtained : replaced.2.Obtained := .replaced (.replaced (.made makes) _) _
  obtain ⟨⟨sized, -⟩, length, -, back, -⟩ := obtained_envelopes_are_consistent obtained
  exact ⟨rfl, sized.trans rfl, length, back⟩

end RawEnvelope
end Resumption
