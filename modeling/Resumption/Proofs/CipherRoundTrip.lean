import Resumption.Cipher

/-! The service's own cipher opens what it sealed. Sealing adds a stream to the
text and opening adds the same stream again, since both texts have one length;
the tag is the same as nothing it is made from has changed. -/
namespace Resumption.Cipher

/-- A cipher that opens what it sealed, for the same index and context. -/
def Faithful (cipher : Cipher) : Prop :=
  ∀ i context text sealedBytes, cipher.encrypt i context text = .ok sealedBytes →
    cipher.decrypt i context sealedBytes = .ok text

theorem zipWith_xor_cancel (text stream : Bytes) (covered : text.length ≤ stream.length) :
    List.zipWith (· ^^^ ·) (List.zipWith (· ^^^ ·) text stream) stream = text := by
  induction text generalizing stream with
  | nil => rfl
  | cons b text ih =>
    cases stream with
    | nil => simp at covered
    | cons s stream =>
      have rest := ih stream (by simpa using covered)
      simp only [List.zipWith_cons_cons, rest, UInt8.xor_assoc, UInt8.xor_self, UInt8.xor_zero]

theorem applyStream_applyStream (key : Octets 32) (nonce : Octets 12) (text : Bytes) :
    applyStream key nonce (applyStream key nonce text) = text := by
  have covered : text.length ≤ (keystream key nonce 1 ((text.length + 63) / 64)).length := by
    rw [length_keystream]
    omega
  rw [applyStream, length_applyStream]
  exact zipWith_xor_cancel text _ covered

theorem length_tag (key : Octets 32) (i : Index) (context ciphertext : Bytes) :
    (tag key i context ciphertext).length = tagSize := by
  simp [tag, tagOf, tagSize]

/-- Sealing adds the tag and nothing else. -/
theorem length_of_chachaEncrypt {key : Octets 32} {i : Index} {context text sealedBytes : Bytes}
    (encrypted : chachaEncrypt key i context text = .ok sealedBytes) :
    sealedBytes.length = text.length + tagSize := by
  unfold chachaEncrypt at encrypted
  split at encrypted
  · cases encrypted
  · cases encrypted
    rw [List.length_append, length_applyStream, length_tag]

/-- Opening takes a sealed text apart where the tag begins. -/
theorem chachaDecrypt_append (key : Octets 32) (i : Index) (context ciphertext : Bytes)
    (short : tooLong ciphertext = false) :
    chachaDecrypt key i context (ciphertext ++ tag key i context ciphertext) =
      .ok (applyStream key (nonce i) ciphertext) := by
  have length : (ciphertext ++ tag key i context ciphertext).length =
      ciphertext.length + tagSize := by
    rw [List.length_append, length_tag]
  have front : (ciphertext ++ tag key i context ciphertext).length - tagSize =
      ciphertext.length := by omega
  unfold chachaDecrypt
  rw [if_neg (by omega)]
  simp only [front, List.take_left', List.drop_left', short, Bool.false_eq_true, if_false, if_true]

theorem chacha_faithful (key : TicketKey) : (chacha key).Faithful := by
  intro i context text sealedBytes encrypted
  show chachaDecrypt key.octets i context sealedBytes = .ok text
  replace encrypted : chachaEncrypt key.octets i context text = .ok sealedBytes := encrypted
  unfold chachaEncrypt at encrypted
  split at encrypted
  · cases encrypted
  · next short =>
    cases encrypted
    have short' : tooLong (applyStream key.octets (nonce i) text) = false := by
      unfold tooLong at short ⊢
      rw [length_applyStream]
      simpa only [Bool.not_eq_true] using short
    rw [chachaDecrypt_append _ _ _ _ short', applyStream_applyStream]

end Resumption.Cipher
