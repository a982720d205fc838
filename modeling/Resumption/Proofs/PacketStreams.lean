import Resumption.Proofs.PacketCodec

/-! Packets one after another. A packet says itself where it ends, so a row of
encodings is read back packet by packet; and what is read of any buffer accounts
for each byte that was passed, up to the position where the reading stops. -/
namespace Resumption.Packet

variable {data : Bytes} {start used : Position} {run other : Run}

/-- Packets are read from a position to the end of the buffer or to the first
error. No number of rounds is fixed beforehand. -/
inductive Reads (data : Bytes) : Position → Run → Prop
  | finished {start : Position} (reached : data.length ≤ start.toNat) :
      Reads data start ⟨[], none, start⟩
  | refused {start : Position} {e : Error} (more : start.toNat < data.length)
      (refuses : decode data start = .error e) : Reads data start ⟨[], some e, start⟩
  | next {start used : Position} {packet : Packet} {rest : Run} (more : start.toNat < data.length)
      (decoded : decode data start = .ok (packet, used)) (reads : Reads data (start + used) rest) :
      Reads data start { rest with packets := (packet, used) :: rest.packets }

/-- The packets of a run, written again one behind the other. -/
def Run.rewritten (run : Run) : Bytes :=
  (run.packets.map fun step => step.1.encode).flatten

/-- A packet that was read lies within the buffer, so that the position behind it
does not wrap. -/
theorem behind_of_decode (bounded : data.length ≤ maxWord) {packet : Packet}
    (decoded : decode data start = .ok (packet, used)) :
    headerSize ≤ used.toNat ∧ (start + used).toNat = start.toNat + packet.encode.length ∧
      start.toNat + packet.encode.length ≤ data.length ∧
      packet.encode.StandsAt data start.toNat := by
  obtain ⟨taken, stands⟩ := (decode_eq_ok_iff bounded packet).mp decoded
  have inside := stands.le_of_pos (by rw [length_encode]; exact packet.size_pos)
  refine ⟨taken ▸ packet.headerSize_le_size, ?_, inside, stands⟩
  have same : used = UInt64.ofNat packet.size :=
    UInt64.toNat_inj.mp (taken.trans packet.toNat_ofNat_size.symm)
  rw [length_encode] at inside ⊢
  rw [same, Position.toNat_add_of_le (by omega)]

/-- The reading ends: each round but the last takes two bytes or more, and there
are as many rounds as bytes. -/
theorem readUpTo_reads (bounded : data.length ≤ maxWord) (fuel : Nat) (start : Position)
    (enough : data.length ≤ start.toNat + fuel) :
    Reads data start (readUpTo data fuel start) := by
  induction fuel generalizing start with
  | zero => exact .finished enough
  | succ fuel ih =>
    unfold readUpTo
    split
    · next reached => exact .finished reached
    · next more =>
      split
      · next e refuses => exact .refused (not_le.mp more) refuses
      · next packet used decoded =>
        obtain ⟨-, behind, -, -⟩ := behind_of_decode bounded decoded
        have size := packet.headerSize_le_size
        rw [length_encode] at behind
        unfold headerSize at size
        exact .next (not_le.mp more) decoded (ih _ (by omega))

theorem readAll_reads (bounded : data.length ≤ maxWord) (start : Position) :
    Reads data start (readAll data start) :=
  readUpTo_reads bounded _ _ (by omega)

namespace Reads

/-- What is read is fixed by the buffer and the position. -/
theorem unique (left : Reads data start run) (right : Reads data start other) : run = other := by
  induction left generalizing other with
  | finished reached =>
    cases right with
    | finished => rfl
    | refused more _ => omega
    | next more _ _ => omega
  | refused more refuses =>
    cases right with
    | finished reached => omega
    | refused _ refuses' => rw [Except.error.inj (refuses.symm.trans refuses')]
    | next _ decoded _ => cases refuses.symm.trans decoded
  | next more decoded _ ih =>
    cases right with
    | finished reached => omega
    | refused _ refuses => cases decoded.symm.trans refuses
    | next _ decoded' reads' =>
      obtain ⟨rfl, rfl⟩ := Prod.mk.inj (Except.ok.inj (decoded.symm.trans decoded'))
      rw [ih reads']

/-- Each packet that is read takes two bytes or more. -/
theorem takes_two (bounded : data.length ≤ maxWord) (reads : Reads data start run)
    {packet : Packet} (member : (packet, used) ∈ run.packets) : 2 ≤ used.toNat := by
  induction reads with
  | finished => cases member
  | refused => cases member
  | next more decoded _ ih =>
    rcases List.mem_cons.mp member with same | later
    · cases same
      exact (behind_of_decode bounded decoded).1
    · exact ih later

/-- The packets that are read, written again, are the bytes that were passed. -/
theorem accounts (bounded : data.length ≤ maxWord) (reads : Reads data start run) :
    run.stop.toNat = start.toNat + run.rewritten.length ∧
      run.rewritten.StandsAt data start.toNat := by
  induction reads with
  | finished => simp [Run.rewritten]
  | refused => simp [Run.rewritten]
  | next more decoded _ ih =>
    obtain ⟨-, behind, -, stands⟩ := behind_of_decode bounded decoded
    obtain ⟨reached, rest⟩ := ih
    rw [behind] at reached rest
    refine ⟨?_, (Bytes.standsAt_append _ _ _ _).mpr ⟨stands, rest⟩⟩
    rw [reached, Nat.add_assoc, ← List.length_append]
    rfl

/-- A reading that meets no error reaches the end. -/
theorem reaches_end (reads : Reads data start run) (clean : run.failure = none) :
    data.length ≤ run.stop.toNat := by
  induction reads with
  | finished reached => exact reached
  | refused => cases clean
  | next _ _ _ ih => exact ih clean

/-- Encodings that stand at a position up to the end of the buffer are read back. -/
theorem of_encodings (bounded : data.length ≤ maxWord) (packets : List Packet)
    {before : Bytes} (whole : data = before ++ (packets.map encode).flatten)
    (place : start.toNat = before.length) :
    Reads data start
      ⟨packets.map fun packet => (packet, UInt64.ofNat packet.size), none,
        UInt64.ofNat data.length⟩ := by
  -- Each step moves one encoding from the row to the bytes before it.
  induction packets generalizing before start with
  | nil =>
    have length : data.length = start.toNat := by simp [whole, place]
    have stop : UInt64.ofNat data.length = start := by
      rw [length, UInt64.ofNat_toNat]
    rw [stop]
    exact .finished length.le
  | cons packet packets ih =>
    have stands : packet.encode.StandsAt data start.toNat := by
      rw [whole, place, Bytes.StandsAt, List.drop_left, List.map_cons, List.flatten_cons]
      exact List.prefix_append _ _
    have decoded : decode data start = .ok (packet, UInt64.ofNat packet.size) :=
      (decode_eq_ok_iff bounded packet).mpr ⟨packet.toNat_ofNat_size, stands⟩
    obtain ⟨-, behind, inside, -⟩ := behind_of_decode bounded decoded
    have rest := @ih (start + UInt64.ofNat packet.size) (before ++ packet.encode)
      (by rw [whole, List.map_cons, List.flatten_cons, List.append_assoc])
      (by rw [behind, place, List.length_append])
    have more : start.toNat < data.length := by
      have positive := packet.size_pos
      rw [length_encode] at inside
      omega
    exact .next more decoded rest

end Reads

/-- Reading packets one after another ends for every buffer and every position,
with one outcome. Each packet takes two bytes or more, and the packets, written
again, are the bytes between the start and the position reached, whether or not
an error ended the reading. Where the buffer goes on with encodings to its end,
exactly these packets are read, up to the end and without an error. -/
theorem packet_streams_account_for_bytes (data : Bytes) (bounded : data.length ≤ maxWord)
    (start : Position) :
    (∀ run, Reads data start run ↔ run = readAll data start) ∧
      (∀ packet used, (packet, used) ∈ (readAll data start).packets → 2 ≤ used.toNat) ∧
      (readAll data start).stop.toNat = start.toNat + (readAll data start).rewritten.length ∧
      (readAll data start).rewritten =
        (data.drop start.toNat).take ((readAll data start).stop.toNat - start.toNat) ∧
      ((readAll data start).failure = none → data.length ≤ (readAll data start).stop.toNat) ∧
      ∀ (before : Bytes) (packets : List Packet),
        data = before ++ (packets.map encode).flatten → start.toNat = before.length →
          readAll data start =
            ⟨packets.map fun packet => (packet, UInt64.ofNat packet.size), none,
              UInt64.ofNat data.length⟩ := by
  have reads := readAll_reads bounded start
  obtain ⟨reached, stands⟩ := reads.accounts bounded
  refine ⟨fun run => ⟨fun other => other.unique reads, fun same => same ▸ reads⟩,
    fun packet used => reads.takes_two bounded, reached, ?_, reads.reaches_end, ?_⟩
  · rw [reached, Nat.add_sub_cancel_left]
    exact (Bytes.standsAt_iff_take.mp stands).symm
  · intro before packets whole place
    exact reads.unique (.of_encodings bounded packets whole place)

/-- A request and a delivery behind three other bytes. -/
theorem packet_streams_account_for_bytes_behind_others :
    let ticket : Envelope := ⟨7, -2, ⟨[1, 2, 3, 4, 5, 6, 7, 8], rfl⟩, List.replicate 16 9, 16,
      rfl, by decide, by decide⟩
    let packets : List Packet := [.addressRequest ⟨⟩, .delivery ⟨ticket⟩]
    let data : Bytes := [10, 0, 1] ++ (packets.map encode).flatten
    data.length ≤ maxWord ∧
      readAll data 3 = ⟨[(.addressRequest ⟨⟩, 2), (.delivery ⟨ticket⟩, 37)], none, 42⟩ := by
  intro ticket packets data
  have bounded : data.length ≤ maxWord := by decide +kernel
  obtain ⟨-, -, -, -, -, encodings⟩ := packet_streams_account_for_bytes data bounded 3
  exact ⟨bounded, encodings [10, 0, 1] packets rfl rfl⟩

end Resumption.Packet
