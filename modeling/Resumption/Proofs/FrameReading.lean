import Mathlib.Data.Nat.Basic
import Mathlib.Order.Basic
import Resumption.Frame
import Resumption.Proofs.Outcomes
import Resumption.Proofs.WireParts

/-! What the readers of frames make of the bytes at the front of a buffer. Either
the length field is not complete, or it is and the rest of the answer depends on
the length alone: it is above the limit, or the payload is there, or it is not. -/
namespace Resumption.FrameCodec

variable {codec : FrameCodec} {payload data whole : Bytes} {size used : Nat} {e : Error}

/-- The length field of a payload of the given size. -/
def lengthField (size : Nat) : Bytes :=
  Bytes.littleEndian frameHeaderSize size

/-- A payload behind its length field. -/
def frame (payload : Bytes) : Bytes :=
  lengthField payload.length ++ payload

@[simp] theorem length_lengthField (size : Nat) : (lengthField size).length = frameHeaderSize :=
  Bytes.length_littleEndian ..

@[simp] theorem length_frame (payload : Bytes) :
    (frame payload).length = frameHeaderSize + payload.length := by
  rw [frame, List.length_append, length_lengthField]

theorem ofLittleEndian_lengthField (bounded : size ≤ maxFrameLimit) :
    Bytes.ofLittleEndian (lengthField size) = size := by
  have power : Nat.pow 256 frameHeaderSize = 4294967296 := rfl
  unfold maxFrameLimit at bounded
  rw [lengthField, Bytes.ofLittleEndian_littleEndian, power]
  omega

/-- Exactly the payloads within the limit are written, each as its frame. -/
theorem encode_eq_ok_iff :
    codec.encode payload = .ok whole ↔ payload.length ≤ codec.limit ∧ whole = frame payload := by
  have narrow (fits : payload.length ≤ codec.limit) :
      (UInt32.ofNat payload.length).toNat = payload.length := by
    have bound := codec.limit_le
    unfold maxFrameLimit at bound
    rw [UInt32.toNat_ofNat']
    omega
  unfold encode checkSize
  by_cases large : codec.limit < payload.length
  · simp [large, not_le.mpr large, bind, Except.bind]
  · have fits := not_lt.mp large
    rw [if_neg large, narrow fits]
    simp only [bind, Except.bind, pure, Except.pure, Except.ok.injEq, fits, true_and, frame,
      lengthField]
    exact eq_comm

/-- The front of every buffer: too few bytes for a length field, or such a field. -/
theorem front_cases (data : Bytes) :
    data.length < frameHeaderSize ∨
      ∃ size rest, size ≤ maxFrameLimit ∧ data = lengthField size ++ rest := by
  by_cases short : data.length < frameHeaderSize
  · exact .inl short
  · have four : (data.take frameHeaderSize).length = frameHeaderSize :=
      List.length_take_of_le (not_lt.mp short)
    have bound := Bytes.ofLittleEndian_lt (data.take frameHeaderSize)
    have back := Bytes.littleEndian_ofLittleEndian (data.take frameHeaderSize)
    have power : Nat.pow 256 frameHeaderSize = 4294967296 := rfl
    rw [four] at bound back
    rw [power] at bound
    refine .inr ⟨_, data.drop frameHeaderSize, Nat.le_of_lt_succ bound, ?_⟩
    rw [lengthField, back, List.take_append_drop]

/-! The readers at such a front -/

theorem readLength_of_short (short : data.length < frameHeaderSize) :
    codec.readLength data = .ok none := by
  have none : data.slice? 0 frameHeaderSize = Option.none := by
    rw [Bytes.slice?, if_neg (by omega)]
  rw [readLength, none]

theorem readLength_lengthField (bounded : size ≤ maxFrameLimit) (rest : Bytes) :
    codec.readLength (lengthField size ++ rest) =
      if codec.limit < size then .error (.frameTooLarge size codec.limit) else .ok (some size) := by
  have field : (lengthField size ++ rest).slice? 0 frameHeaderSize = some (lengthField size) := by
    rw [Bytes.slice?_eq_some_iff]
    refine ⟨by simp, by simp, ?_⟩
    exact List.prefix_append _ _
  rw [readLength, field]
  simp only [ofLittleEndian_lengthField bounded, checkSize]
  split <;> rfl

theorem tryDecode_of_short (short : data.length < frameHeaderSize) :
    codec.tryDecode data = .ok none := by
  rw [tryDecode, readLength_of_short short]
  rfl

/-- The payload that stands behind a length field, if it is there in full. -/
private theorem slice?_behind (size : Nat) (rest : Bytes) :
    (lengthField size ++ rest).slice? frameHeaderSize (frameHeaderSize + size) =
      if size ≤ rest.length then some (rest.take size) else none := by
  unfold Bytes.slice?
  rw [List.length_append, length_lengthField, List.drop_left' (length_lengthField size),
    Nat.add_sub_cancel_left]
  by_cases there : size ≤ rest.length
  · rw [if_pos (by omega), if_pos there]
  · rw [if_neg (by omega), if_neg there]

theorem decode_lengthField (bounded : size ≤ maxFrameLimit) (rest : Bytes) :
    codec.decode (lengthField size ++ rest) =
      if codec.limit < size then .error (.frameTooLarge size codec.limit)
      else if size ≤ rest.length then .ok (rest.take size, frameHeaderSize + size)
      else .error (.truncated .frame (frameHeaderSize + size) (frameHeaderSize + rest.length)) := by
  rw [decode, readLength_lengthField bounded]
  by_cases large : codec.limit < size
  · simp only [if_pos large]
    rfl
  · simp only [if_neg large, bind, Except.bind, slice?_behind]
    by_cases there : size ≤ rest.length
    · simp only [if_pos there]
      rfl
    · simp only [if_neg there, List.length_append, length_lengthField]
      rfl

theorem tryDecode_lengthField (bounded : size ≤ maxFrameLimit) (rest : Bytes) :
    codec.tryDecode (lengthField size ++ rest) =
      if codec.limit < size then .error (.frameTooLarge size codec.limit)
      else if size ≤ rest.length then .ok (some (rest.take size, frameHeaderSize + size))
      else .ok none := by
  rw [tryDecode, readLength_lengthField bounded, decode_lengthField bounded]
  by_cases large : codec.limit < size
  · simp only [if_pos large]
    rfl
  · have reach : frameHeaderSize + size ≤ (lengthField size ++ rest).length ↔
        size ≤ rest.length := by
      rw [List.length_append, length_lengthField]
      omega
    simp only [if_neg large, bind, Except.bind, reach]
    by_cases there : size ≤ rest.length
    · simp only [if_pos there]
      rfl
    · simp only [if_neg there]
      rfl

/-- A frame within the limit is read back, whatever follows it. -/
theorem decode_frame (fits : payload.length ≤ codec.limit) (rest : Bytes) :
    codec.decode (frame payload ++ rest) = .ok (payload, (frame payload).length) := by
  have there : payload.length ≤ (payload ++ rest).length := by simp
  rw [frame, List.append_assoc, decode_lengthField (fits.trans codec.limit_le),
    if_neg (not_lt.mpr fits), if_pos there, List.take_left, ← frame, length_frame]

/-! What the answers mean -/

/-- A frame is found exactly if the buffer begins with a frame within the limit. -/
theorem tryDecode_eq_some_iff :
    codec.tryDecode data = .ok (some (payload, used)) ↔
      payload.length ≤ codec.limit ∧ used = (frame payload).length ∧ frame payload <+: data := by
  constructor
  · intro found
    rcases front_cases data with short | ⟨size, rest, bounded, rfl⟩
    · rw [tryDecode_of_short short] at found
      cases found
    · rw [tryDecode_lengthField bounded] at found
      split at found
      · cases found
      · next fits =>
        split at found
        · next there =>
          obtain ⟨rfl, rfl⟩ := Prod.mk.inj (Option.some.inj (Except.ok.inj found))
          have length : (rest.take size).length = size := List.length_take_of_le there
          rw [length_frame, frame, length]
          refine ⟨not_lt.mp fits, rfl, ?_⟩
          exact (List.prefix_append_right_inj _).mpr (List.take_prefix size rest)
        · cases found
  · rintro ⟨fits, rfl, rest, rfl⟩
    have large : ¬ codec.limit < payload.length := not_lt.mpr fits
    have there : payload.length ≤ (payload ++ rest).length := by simp
    rw [frame, List.append_assoc, tryDecode_lengthField (fits.trans codec.limit_le),
      if_neg large, if_pos there, List.take_left, ← frame, length_frame]

/-- A buffer is refused exactly if it begins with a length above the limit. -/
theorem tryDecode_eq_error_iff :
    codec.tryDecode data = .error e ↔ ∃ size, codec.limit < size ∧ size ≤ maxFrameLimit ∧
      lengthField size <+: data ∧ e = .frameTooLarge size codec.limit := by
  constructor
  · intro refused
    rcases front_cases data with short | ⟨size, rest, bounded, rfl⟩
    · rw [tryDecode_of_short short] at refused
      cases refused
    · rw [tryDecode_lengthField bounded] at refused
      split at refused
      · next large =>
        exact ⟨size, large, bounded, List.prefix_append _ _, (Except.error.inj refused).symm⟩
      · split at refused <;> cases refused
  · rintro ⟨size, large, bounded, ⟨rest, rfl⟩, rfl⟩
    rw [tryDecode_lengthField bounded, if_pos large]

/-- More bytes are waited for exactly if the length field is not complete or the
buffer is part of a frame within the limit. -/
theorem tryDecode_eq_none_iff :
    codec.tryDecode data = .ok none ↔ data.length < frameHeaderSize ∨
      ∃ payload, payload.length ≤ codec.limit ∧ data <+: frame payload ∧ data ≠ frame payload := by
  constructor
  · intro waits
    rcases front_cases data with short | ⟨size, rest, bounded, rfl⟩
    · exact .inl short
    · rw [tryDecode_lengthField bounded] at waits
      split at waits
      · cases waits
      · next fits =>
        split at waits
        · cases waits
        · next missing =>
          -- Any bytes will do for what is missing of the payload.
          have length : (rest ++ List.replicate (size - rest.length) 0).length = size := by
            simp only [List.length_append, List.length_replicate]
            omega
          refine .inr ⟨rest ++ List.replicate (size - rest.length) 0, ?_, ?_, ?_⟩
          · rw [length]
            exact not_lt.mp fits
          · rw [frame, length, ← List.append_assoc]
            exact List.prefix_append _ _
          · intro same
            have lengths := congrArg List.length same
            rw [length_frame, length, List.length_append, length_lengthField] at lengths
            omega
  · rintro (short | ⟨payload, fits, part, proper⟩)
    · exact tryDecode_of_short short
    · by_cases short : data.length < frameHeaderSize
      · exact tryDecode_of_short short
      · have field : lengthField payload.length <+: data :=
          List.prefix_of_prefix_length_le (List.prefix_append _ _) part
            (by rw [length_lengthField]; exact not_lt.mp short)
        obtain ⟨rest, rfl⟩ := field
        have inside : rest <+: payload := (List.prefix_append_right_inj _).mp part
        have missing : ¬ payload.length ≤ rest.length := by
          intro there
          have whole := inside.eq_of_length (le_antisymm inside.length_le there)
          exact proper (by rw [frame, whole])
        rw [tryDecode_lengthField (fits.trans codec.limit_le), if_neg (not_lt.mpr fits),
          if_neg missing]

/-- Bytes that follow do not change what was found. -/
theorem tryDecode_append_of_some
    (found : codec.tryDecode data = .ok (some (payload, used))) (more : Bytes) :
    codec.tryDecode (data ++ more) = .ok (some (payload, used)) := by
  rw [tryDecode_eq_some_iff] at found ⊢
  exact ⟨found.1, found.2.1, found.2.2.trans (List.prefix_append _ _)⟩

/-- Bytes that follow do not mend an oversized frame. -/
theorem tryDecode_append_of_error (refused : codec.tryDecode data = .error e) (more : Bytes) :
    codec.tryDecode (data ++ more) = .error e := by
  rw [tryDecode_eq_error_iff] at refused ⊢
  obtain ⟨size, large, bounded, field, same⟩ := refused
  exact ⟨size, large, bounded, field.trans (List.prefix_append _ _), same⟩

/-- A frame that was found takes no more bytes than there are. -/
theorem le_length_of_tryDecode (found : codec.tryDecode data = .ok (some (payload, used))) :
    frameHeaderSize ≤ used ∧ used ≤ data.length := by
  obtain ⟨-, rfl, whole⟩ := tryDecode_eq_some_iff.mp found
  refine ⟨?_, whole.length_le⟩
  rw [length_frame]
  omega

end Resumption.FrameCodec
