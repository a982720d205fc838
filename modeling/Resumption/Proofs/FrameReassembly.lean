import Resumption.Proofs.FrameReading

/-! A stream of frames is received alike however it is cut into chunks. What is
found at the front of a buffer stays there when more bytes arrive, so a buffer
can be drained before the next chunk or after it; what is kept between chunks is
the part that is not yet a frame. -/
namespace Resumption.FrameCodec

variable {codec : FrameCodec} {buffer : Bytes} {drained later : Drained}

/-- Frames are taken off the front of a buffer until there is none or one is
refused. No number of rounds is fixed beforehand. -/
inductive Drains (codec : FrameCodec) : Bytes → Drained → Prop
  | refused {buffer : Bytes} {e : Error} (refuses : codec.tryDecode buffer = .error e) :
      Drains codec buffer ⟨[], buffer, some e⟩
  | waiting {buffer : Bytes} (waits : codec.tryDecode buffer = .ok none) :
      Drains codec buffer ⟨[], buffer, none⟩
  | taken {buffer payload : Bytes} {used : Nat} {later : Drained}
      (found : codec.tryDecode buffer = .ok (some (payload, used)))
      (drains : Drains codec (buffer.drop used) later) :
      Drains codec buffer { later with frames := (payload, used) :: later.frames }

/-- Each round takes a length field at least, so the rounds never run out. -/
theorem drainUpTo_drains (fuel : Nat) (buffer : Bytes) (enough : buffer.length < fuel) :
    Drains codec buffer (codec.drainUpTo fuel buffer) := by
  induction fuel generalizing buffer with
  | zero => omega
  | succ fuel ih =>
    unfold drainUpTo
    split
    · next e refuses => exact .refused refuses
    · next waits => exact .waiting waits
    · next payload used found =>
      obtain ⟨positive, inside⟩ := le_length_of_tryDecode found
      refine .taken found (ih _ ?_)
      unfold frameHeaderSize at positive
      rw [List.length_drop]
      omega

/-- Every buffer is drained: its length allows for all the frames it can hold. -/
theorem drain_drains (codec : FrameCodec) (buffer : Bytes) :
    Drains codec buffer (codec.drain buffer) :=
  drainUpTo_drains _ _ (Nat.lt_succ_self _)

namespace Drains

/-- What a buffer drains to is fixed by its bytes. -/
theorem unique {other : Drained} (left : Drains codec buffer drained)
    (right : Drains codec buffer other) : drained = other := by
  induction left generalizing other with
  | refused refuses =>
    cases right with
    | refused refuses' => rw [Except.error.inj (refuses.symm.trans refuses')]
    | waiting waits => cases refuses.symm.trans waits
    | taken found _ => cases refuses.symm.trans found
  | waiting waits =>
    cases right with
    | refused refuses => cases waits.symm.trans refuses
    | waiting _ => rfl
    | taken found _ => cases waits.symm.trans found
  | taken found _ ih =>
    cases right with
    | refused refuses => cases found.symm.trans refuses
    | waiting waits => cases found.symm.trans waits
    | taken found' drains' =>
      obtain ⟨rfl, rfl⟩ := Prod.mk.inj (Option.some.inj (Except.ok.inj (found.symm.trans found')))
      rw [ih drains']

theorem eq_drain (drains : Drains codec buffer drained) : drained = codec.drain buffer :=
  drains.unique (drain_drains codec buffer)

/-- What is left over is not yet a frame. -/
theorem rest_waits (drains : Drains codec buffer drained) (whole : drained.failure = none) :
    codec.tryDecode drained.rest = .ok none := by
  induction drains with
  | refused => cases whole
  | waiting waits => exact waits
  | taken _ _ ih => exact ih whole

/-- The only error is that of an oversized frame. -/
theorem oversized (drains : Drains codec buffer drained) {e : Error}
    (failed : drained.failure = some e) :
    ∃ size, codec.limit < size ∧ e = .frameTooLarge size codec.limit := by
  induction drains with
  | refused refuses =>
    obtain ⟨size, large, -, -, same⟩ := tryDecode_eq_error_iff.mp refuses
    exact ⟨size, large, (Option.some.inj failed).symm.trans same⟩
  | waiting => cases failed
  | taken _ _ ih => exact ih failed

private theorem drop_append_of_found {payload : Bytes} {used : Nat}
    (found : codec.tryDecode buffer = .ok (some (payload, used))) (more : Bytes) :
    (buffer ++ more).drop used = buffer.drop used ++ more :=
  List.drop_append_of_le_length (le_length_of_tryDecode found).2

/-- An error ends the reading wherever the buffer ends. -/
theorem append_of_failure (drains : Drains codec buffer drained) {e : Error}
    (failed : drained.failure = some e) (more : Bytes) :
    Drains codec (buffer ++ more) { drained with rest := drained.rest ++ more } := by
  induction drains with
  | refused refuses =>
    cases failed
    exact .refused (tryDecode_append_of_error refuses more)
  | waiting => cases failed
  | taken found _ ih =>
    have rest := ih failed
    rw [← drop_append_of_found found] at rest
    exact .taken (tryDecode_append_of_some found more) rest

/-- A buffer with more bytes is drained by going on with what was left over. -/
theorem append_of_waiting (drains : Drains codec buffer drained) (whole : drained.failure = none)
    {more : Bytes} (goesOn : Drains codec (drained.rest ++ more) later) :
    Drains codec (buffer ++ more) { later with frames := drained.frames ++ later.frames } := by
  induction drains with
  | refused => cases whole
  | waiting => exact goesOn
  | taken found _ ih =>
    have rest := ih whole goesOn
    rw [← drop_append_of_found found] at rest
    exact .taken (tryDecode_append_of_some found more) rest

/-- Frames within the limit are taken off one after another. -/
theorem frames_append (payloads : List Bytes) (fit : ∀ p ∈ payloads, p.length ≤ codec.limit)
    (drains : Drains codec buffer drained) :
    Drains codec ((payloads.map frame).flatten ++ buffer) { drained with
      frames := payloads.map (fun p => (p, (frame p).length)) ++ drained.frames } := by
  induction payloads with
  | nil => exact drains
  | cons payload payloads ih =>
    have rest := ih fun p member => fit p (List.mem_cons_of_mem _ member)
    rw [← @List.drop_left _ (frame payload) ((payloads.map frame).flatten ++ buffer)] at rest
    rw [List.map_cons, List.flatten_cons, List.append_assoc]
    exact .taken (tryDecode_eq_some_iff.mpr
      ⟨fit payload List.mem_cons_self, rfl, List.prefix_append _ _⟩) rest

end Drains

/-! A stream as a whole -/

/-- What the receiver of a stream has in the end: the payloads in order, and the
bytes that are left over or the error that ended the reading. -/
structure Received where
  payloads : List Bytes
  ending : Result Bytes
deriving DecidableEq

/-- What the receiver has after the answer to one more chunk. -/
def Received.add (got : Received) (answer : Drained) : Received where
  payloads := got.payloads ++ answer.frames.map Prod.fst
  ending := answer.failure.elim (.ok answer.rest) .error

/-- What the receiver of a stream has after the last chunk, or after the one that
brought an error. -/
def reassemble (codec : FrameCodec) (chunks : List Bytes) : Received :=
  (codec.receive [] chunks).foldl Received.add ⟨[], .ok []⟩

/-- The chunks that follow a buffer without a frame give what the buffer with all
of them would give at once. -/
theorem foldl_receive (chunks : List Bytes) (payloads : List Bytes)
    (waits : codec.tryDecode buffer = .ok none) :
    (codec.receive buffer chunks).foldl Received.add ⟨payloads, .ok buffer⟩ =
      Received.add ⟨payloads, .ok buffer⟩ (codec.drain (buffer ++ chunks.flatten)) := by
  induction chunks generalizing buffer payloads with
  | nil =>
    have drained : codec.drain buffer = ⟨[], buffer, none⟩ := (Drains.waiting waits).eq_drain.symm
    simp [receive, drained, Received.add]
  | cons chunk chunks ih =>
    have drains := drain_drains codec (buffer ++ chunk)
    rw [List.flatten_cons, ← List.append_assoc, receive]
    generalize codec.drain (buffer ++ chunk) = now at drains
    cases failure : now.failure with
    | some e =>
      -- Neither side reads on, and neither keeps the bytes that are left over.
      rw [← (drains.append_of_failure failure chunks.flatten).eq_drain]
      simp [failure, Received.add]
    | none =>
      -- What is left over begins the next buffer, and it holds no frame by itself.
      have goesOn := drain_drains codec (now.rest ++ chunks.flatten)
      rw [← (drains.append_of_waiting failure goesOn).eq_drain]
      have later := ih (payloads ++ now.frames.map Prod.fst) (drains.rest_waits failure)
      simp only [failure, List.foldl_cons, Received.add, Option.elim_none] at later ⊢
      rw [later]
      simp only [List.map_append, List.append_assoc]

theorem reassemble_eq (codec : FrameCodec) (chunks : List Bytes) :
    codec.reassemble chunks = Received.add ⟨[], .ok []⟩ (codec.drain chunks.flatten) :=
  foldl_receive chunks [] (tryDecode_of_short (by decide))

private theorem mapM_encode_eq_ok {payloads wholes : List Bytes}
    (encoded : payloads.mapM codec.encode = .ok wholes) :
    (∀ p ∈ payloads, p.length ≤ codec.limit) ∧ wholes = payloads.map frame := by
  induction payloads generalizing wholes with
  | nil =>
    cases encoded
    simp
  | cons payload payloads ih =>
    rw [List.mapM_cons] at encoded
    obtain ⟨whole, first, encoded⟩ := bind_eq_ok_iff.mp encoded
    obtain ⟨others, rest, same⟩ := bind_eq_ok_iff.mp encoded
    obtain ⟨fits, rfl⟩ := encode_eq_ok_iff.mp first
    obtain ⟨fit, rfl⟩ := ih rest
    exact ⟨List.forall_mem_cons.mpr ⟨fits, fit⟩, (Except.ok.inj same).symm⟩

/-- Reassembly does not depend on chunking. However a byte string is cut into
chunks, the same payloads are delivered, and the stream ends with the same
leftover bytes or the same error, which is that of an oversized frame. The frames
of any payloads, followed by a part of one more, deliver exactly these payloads
and leave that part. -/
theorem reassembly_independent_of_chunking (codec : FrameCodec) (chunks others : List Bytes)
    (same : chunks.flatten = others.flatten) :
    codec.reassemble chunks = codec.reassemble others ∧
      (∀ e, (codec.reassemble chunks).ending = .error e →
        ∃ size, codec.limit < size ∧ e = .frameTooLarge size codec.limit) ∧
      ∀ (payloads wholes : List Bytes) (last whole part : Bytes),
        payloads.mapM codec.encode = .ok wholes → codec.encode last = .ok whole →
        part <+: whole → part ≠ whole → chunks.flatten = wholes.flatten ++ part →
          codec.reassemble chunks = ⟨payloads, .ok part⟩ := by
  refine ⟨by rw [reassemble_eq, reassemble_eq, same], ?_, ?_⟩
  · intro e failed
    have drains := drain_drains codec chunks.flatten
    rw [reassemble_eq, Received.add] at failed
    cases failure : (codec.drain chunks.flatten).failure with
    | none =>
      rw [failure] at failed
      cases failed
    | some e' =>
      rw [failure] at failed
      cases failed
      exact drains.oversized failure
  · intro payloads wholes last whole part encoded written inside proper stream
    obtain ⟨fit, rfl⟩ := mapM_encode_eq_ok encoded
    obtain ⟨fits, rfl⟩ := encode_eq_ok_iff.mp written
    have waits : codec.tryDecode part = .ok none :=
      tryDecode_eq_none_iff.mpr (.inr ⟨last, fits, inside, proper⟩)
    have drains := Drains.frames_append payloads fit (.waiting waits)
    rw [reassemble_eq, stream, ← drains.eq_drain]
    simp [Received.add, Function.comp_def]

/-- A frame of two bytes, an empty one and a part of a third, cut within both
length fields, with an empty chunk, and not cut at all. -/
theorem reassembly_independent_of_chunking_within_lengths :
    let codec := withLimit 3
    let chunks : List Bytes := [[2, 0], [], [0, 0, 9], [8, 0, 0], [0, 0, 3, 0, 0], [0, 7]]
    let others : List Bytes := [[2, 0, 0, 0, 9, 8, 0, 0, 0, 0, 3, 0, 0, 0, 7]]
    chunks.flatten = others.flatten ∧ codec.reassemble chunks = codec.reassemble others ∧
      codec.reassemble chunks = ⟨[[9, 8], []], .ok [3, 0, 0, 0, 7]⟩ := by
  intro codec chunks others
  have same : chunks.flatten = others.flatten := by decide
  obtain ⟨alike, -, frames⟩ := reassembly_independent_of_chunking codec chunks others same
  refine ⟨same, alike, ?_⟩
  exact frames [[9, 8], []] [[2, 0, 0, 0, 9, 8], [0, 0, 0, 0]] [7, 7, 7] [3, 0, 0, 0, 7, 7, 7]
    [3, 0, 0, 0, 7] (by decide +kernel) (by decide +kernel) (by decide) (by decide) (by decide)

end Resumption.FrameCodec
