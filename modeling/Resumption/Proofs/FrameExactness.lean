import Resumption.Proofs.FrameReading

/-! The two readers of frames side by side. One is for a buffer that may still grow and
waits where a frame is not complete; the other one calls that malformed. Otherwise they
give the same answer, although each looks for the end of the frame in its own way. -/
namespace Resumption.FrameCodec

variable {codec : FrameCodec} {payload data : Bytes} {used : Nat} {e : Error}

/-- Exactly the payloads above the limit are refused. -/
theorem encode_eq_error_iff :
    codec.encode payload = .error e ↔
      codec.limit < payload.length ∧ e = .frameTooLarge payload.length codec.limit := by
  unfold encode checkSize
  by_cases large : codec.limit < payload.length
  · simp [large, bind, Except.bind, eq_comm]
  · simp [large, bind, Except.bind, pure, Except.pure]

theorem decode_of_short (short : data.length < frameHeaderSize) :
    codec.decode data = .error (.truncated .frameHeader frameHeaderSize data.length) := by
  rw [decode, readLength_of_short short]
  rfl

/-- Both readers find the same frame, or both refuse the same length, or one waits and
the other says how many bytes it would take. -/
theorem readers_cases (codec : FrameCodec) (data : Bytes) :
    (∃ found, codec.tryDecode data = .ok (some found) ∧ codec.decode data = .ok found) ∨
      (∃ size, codec.tryDecode data = .error (.frameTooLarge size codec.limit) ∧
        codec.decode data = .error (.frameTooLarge size codec.limit)) ∨
      ∃ part needed, codec.tryDecode data = .ok none ∧
        codec.decode data = .error (.truncated part needed data.length) := by
  rcases front_cases data with short | ⟨size, rest, bounded, rfl⟩
  · exact .inr (.inr ⟨_, _, tryDecode_of_short short, decode_of_short short⟩)
  · rw [decode_lengthField bounded, tryDecode_lengthField bounded, List.length_append,
      length_lengthField]
    by_cases large : codec.limit < size
    · rw [if_pos large, if_pos large]
      exact .inr (.inl ⟨_, rfl, rfl⟩)
    · rw [if_neg large, if_neg large]
      by_cases there : size ≤ rest.length
      · rw [if_pos there, if_pos there]
        exact .inl ⟨_, rfl, rfl⟩
      · rw [if_neg there, if_neg there]
        exact .inr (.inr ⟨_, _, rfl, rfl⟩)

theorem tryDecode_eq_some_iff_decode {found : Bytes × Nat} :
    codec.tryDecode data = .ok (some found) ↔ codec.decode data = .ok found := by
  rcases readers_cases codec data with ⟨_, waiting, whole⟩ | ⟨_, waiting, whole⟩ |
    ⟨_, _, waiting, whole⟩ <;> simp [waiting, whole]

/-- Oversized frames are all that the waiting reader refuses. -/
theorem tryDecode_eq_error_iff_decode :
    codec.tryDecode data = .error e ↔
      (∃ size, e = .frameTooLarge size codec.limit) ∧ codec.decode data = .error e := by
  rcases readers_cases codec data with ⟨_, waiting, whole⟩ | ⟨size, waiting, whole⟩ |
    ⟨_, _, waiting, whole⟩
  · simp [waiting, whole]
  · rw [waiting, whole, Except.error.injEq, Except.error.injEq]
    exact ⟨fun same => ⟨⟨size, same.symm⟩, same⟩, And.right⟩
  · rw [waiting, whole, Except.error.injEq]
    constructor
    · intro same
      cases same
    · rintro ⟨⟨size, rfl⟩, same⟩
      cases same

theorem tryDecode_eq_none_iff_decode :
    codec.tryDecode data = .ok none ↔ ∃ cause, codec.decode data = .error (.malformed cause) := by
  rcases readers_cases codec data with ⟨_, waiting, whole⟩ | ⟨_, waiting, whole⟩ |
    ⟨_, _, waiting, whole⟩ <;> simp [waiting, whole, Error.truncated]

/-- A frame is read exactly if the buffer begins with a frame within the limit. -/
theorem decode_eq_ok_iff :
    codec.decode data = .ok (payload, used) ↔
      payload.length ≤ codec.limit ∧ used = (frame payload).length ∧ frame payload <+: data :=
  tryDecode_eq_some_iff_decode.symm.trans tryDecode_eq_some_iff

/-- Frames are read exactly as they are written, and the two readers agree. For every
limit and every byte string, a payload is read if it is within the limit, which is never
above what a length field can carry, and the bytes begin with its frame; then the frame
is what was taken. Exactly the payloads above the limit are not written. The reader that
can wait finds a frame exactly when the other one does and the same one, refuses an
oversized frame exactly when the other one does and with the same error, and waits
exactly when the other one calls the bytes malformed. -/
theorem frame_readers_are_exact (limit : Nat) (data : Bytes) :
    let codec := withLimit limit
    let bound := min limit maxFrameLimit
    (∀ payload used, codec.decode data = .ok (payload, used) ↔
      payload.length ≤ bound ∧ used = 4 + payload.length ∧
        ∃ whole, codec.encode payload = .ok whole ∧ whole <+: data) ∧
      (∀ payload e, codec.encode payload = .error e ↔
        bound < payload.length ∧ e = .frameTooLarge payload.length bound) ∧
      (∀ found, codec.tryDecode data = .ok (some found) ↔ codec.decode data = .ok found) ∧
      (∀ e, codec.tryDecode data = .error e ↔
        (∃ size, e = .frameTooLarge size bound) ∧ codec.decode data = .error e) ∧
      (codec.tryDecode data = .ok none ↔
        ∃ cause, codec.decode data = .error (.malformed cause)) := by
  intro codec bound
  refine ⟨fun payload used => ?_, fun payload e => encode_eq_error_iff,
    fun found => tryDecode_eq_some_iff_decode, fun e => tryDecode_eq_error_iff_decode,
    tryDecode_eq_none_iff_decode⟩
  rw [decode_eq_ok_iff, length_frame]
  refine and_congr_right fun fits => and_congr_right fun _ => ?_
  constructor
  · exact fun begins => ⟨frame payload, encode_eq_ok_iff.mpr ⟨fits, rfl⟩, begins⟩
  · rintro ⟨whole, written, begins⟩
    rw [(encode_eq_ok_iff.mp written).2] at begins
    exact begins

end Resumption.FrameCodec
