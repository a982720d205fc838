import Resumption.Packet.Header
import Resumption.Proofs.SessionCodec

/-! Where the parts of a message stand in a buffer. A part that stands at a
position lies within the buffer, and parts in a row stand behind each other, so
that positions computed in machine words never wrap on the way through a part
that is there. The length of a buffer is itself a machine word. -/
namespace Resumption

namespace Bytes

/-- The bytes of the part are those of the data from a position on. -/
def StandsAt (part data : Bytes) (start : Nat) : Prop :=
  part <+: data.drop start

variable {data part : Bytes} {start : Nat}

@[simp] theorem standsAt_nil (data : Bytes) (start : Nat) : StandsAt [] data start :=
  List.nil_prefix

@[simp] theorem standsAt_append (first second data : Bytes) (start : Nat) :
    StandsAt (first ++ second) data start ↔
      StandsAt first data start ∧ StandsAt second data (start + first.length) := by
  unfold StandsAt
  rw [← List.drop_drop]
  constructor
  · intro both
    obtain ⟨rest, whole⟩ := both
    rw [List.append_assoc] at whole
    refine ⟨⟨second ++ rest, whole⟩, rest, ?_⟩
    rw [← whole, List.drop_left]
  · rintro ⟨⟨behind, whole⟩, tail⟩
    rw [← whole, List.drop_left] at tail
    rw [← whole]
    exact (List.prefix_append_right_inj first).mpr tail

@[simp] theorem standsAt_cons (b : UInt8) (part data : Bytes) (start : Nat) :
    StandsAt (b :: part) data start ↔ data[start]? = some b ∧ StandsAt part data (start + 1) := by
  have single : StandsAt [b] data start ↔ data[start]? = some b := by
    unfold StandsAt
    rw [← List.head?_drop]
    cases data.drop start with
    | nil => simp
    | cons c rest => simp [eq_comm]
  rw [← List.singleton_append, standsAt_append, single, List.length_singleton]

/-- What stands somewhere is there in full. -/
theorem StandsAt.length_le (stands : StandsAt part data start) (inside : start ≤ data.length) :
    start + part.length ≤ data.length := by
  have fits := List.IsPrefix.length_le stands
  rw [List.length_drop] at fits
  omega

theorem StandsAt.le_of_pos (stands : StandsAt part data start) (positive : 0 < part.length) :
    start + part.length ≤ data.length := by
  have fits := List.IsPrefix.length_le stands
  rw [List.length_drop] at fits
  omega

theorem StandsAt.octets_le {n : Nat} {octets : Octets n}
    (stands : octets.toList.StandsAt data start) (positive : 0 < n) :
    start + n ≤ data.length := by
  simpa using stands.le_of_pos (by simpa using positive)

/-- The bytes of a slice are those that stand there. -/
theorem standsAt_iff_take :
    StandsAt part data start ↔ (data.drop start).take part.length = part :=
  List.prefix_iff_eq_take.trans eq_comm

theorem slice?_eq_some_iff {stop : Nat} :
    data.slice? start stop = some part ↔
      stop = start + part.length ∧ stop ≤ data.length ∧ part.StandsAt data start := by
  unfold slice?
  constructor
  · intro found
    split at found
    · next inside =>
      have same := Option.some.inj found
      have length : part.length = stop - start := by
        rw [← same, List.length_take, List.length_drop]
        omega
      refine ⟨by omega, inside.2, ?_⟩
      rw [standsAt_iff_take, length]
      exact same
    · cases found
  · rintro ⟨rfl, inside, stands⟩
    rw [if_pos (by omega), Nat.add_sub_cancel_left, standsAt_iff_take.mp stands]

end Bytes

namespace Position

theorem toNat_add_of_le {p : Position} {n : Nat} (fits : p.toNat + n ≤ maxWord) :
    (p + UInt64.ofNat n).toNat = p.toNat + n := by
  unfold maxWord at fits
  rw [UInt64.toNat_add, UInt64.toNat_ofNat']
  omega

theorem toNat_sum {p q : Position} (fits : p.toNat + q.toNat ≤ maxWord) :
    (p + q).toNat = p.toNat + q.toNat := by
  simpa using toNat_add_of_le (p := p) (n := q.toNat) fits

theorem exists_toNat_eq {n : Nat} (fits : n ≤ maxWord) : ∃ p : Position, p.toNat = n := by
  unfold maxWord at fits
  exact ⟨UInt64.ofNat n, by rw [UInt64.toNat_ofNat']; omega⟩

end Position

namespace Bytes

variable {data : Bytes} {start : Position}

/-- A field is read exactly if its bytes stand at the position. -/
theorem field_eq_ok_iff_standsAt (bounded : data.length ≤ maxWord) {n : Nat} (positive : 0 < n)
    (part : Part) (octets : Octets n) :
    data.field start n part = .ok octets ↔ octets.toList.StandsAt data start.toNat := by
  have length := octets.length_toList
  rw [field_eq_ok_iff]
  constructor
  · rintro ⟨-, inside, same⟩
    rw [standsAt_iff_take, length]
    exact same.symm
  · intro stands
    have inside := stands.le_of_pos (by omega)
    rw [length] at inside
    refine ⟨by omega, inside, ?_⟩
    rw [standsAt_iff_take, length] at stands
    exact stands.symm

/-- The same for a position some way behind another within the data. -/
theorem field_behind_eq_ok_iff (bounded : data.length ≤ maxWord) {k n : Nat} (positive : 0 < n)
    (inside : start.toNat + k ≤ data.length) (part : Part) (octets : Octets n) :
    data.field (start + UInt64.ofNat k) n part = .ok octets ↔
      octets.toList.StandsAt data (start.toNat + k) := by
  rw [field_eq_ok_iff_standsAt bounded positive, Position.toNat_add_of_le (by omega)]

end Bytes

namespace Packet

variable {data : Bytes} {start : Position}

theorem peek_eq_ok_iff (kind : Kind) :
    peek data start = .ok kind ↔ data[start.toNat]? = some kind.toByte := by
  unfold peek
  cases data[start.toNat]? with
  | none => simp
  | some byte =>
    rw [Option.some.injEq, ← Kind.ofByte?_eq_some_iff]
    dsimp only
    cases Kind.ofByte? byte <;> simp

namespace Header

@[simp] theorem length_encode (header : Header) : header.encode.length = headerSize := rfl

/-- A header is read exactly if it is of the expected kind and stands there. -/
theorem decode_eq_ok_iff (bounded : data.length ≤ maxWord) (expected : Kind) (header : Header) :
    decode data start expected = .ok header ↔
      header.kind = expected ∧ header.encode.StandsAt data start.toNat := by
  obtain ⟨kind, flags⟩ := header
  have next : ∀ byte, data[start.toNat]? = some byte →
      (start + 1).toNat = start.toNat + 1 := by
    intro byte found
    obtain ⟨inside, -⟩ := List.getElem?_eq_some_iff.mp found
    exact Position.toNat_add_of_le (n := 1) (by omega)
  constructor
  · intro decoded
    unfold decode at decoded
    dsimp only at decoded
    split at decoded
    · cases decoded
    · split at decoded
      · next byte flags' here there =>
        split at decoded
        · next same =>
          cases decoded
          rw [next byte here] at there
          simp [encode, here, there, same]
        · cases decoded
      · cases decoded
  · rintro ⟨rfl, stands⟩
    have inside := stands.le_of_pos (Nat.succ_pos _)
    simp only [encode, Bytes.standsAt_cons, Bytes.standsAt_nil, and_true] at stands
    obtain ⟨here, there⟩ := stands
    have reach : ¬ data.length < (start.capped headerSize).toNat := by
      rw [length_encode] at inside
      rw [Position.toNat_capped]
      omega
    rw [← next _ here] at there
    simp only [decode, if_neg reach, here, there, if_true]

end Header
end Packet
end Resumption
