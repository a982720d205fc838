import Resumption.Proofs.CipherRoundTrip

/-! The service's own cipher opens exactly what it seals. Sealing and opening are
written apart, so each is tied to one description of the sealed text: the text
with the stream added, and the tag of context and ciphertext, both under a nonce
that the index alone determines. A sealed text therefore opens to one text, and
no second sealed text opens to it. -/
namespace Resumption.Cipher

variable {key : Octets 32} {i j : Index} {context text sealedBytes : Bytes}

/-- A cipher that opens a sealed text to a text exactly if sealing the text gives
the sealed text, for the same index and context. -/
def Exact (cipher : Cipher) : Prop :=
  ∀ i context text sealedBytes, cipher.decrypt i context sealedBytes = .ok text ↔
    cipher.encrypt i context text = .ok sealedBytes

/-- The sealed form of a text under a nonce: the text with the stream added, then
the tag under a one-time key from the first block of the stream. -/
def sealUnder (key : Octets 32) (nonce : Octets 12) (context text : Bytes) : Bytes :=
  let ciphertext := applyStream key nonce text
  ciphertext ++ tagOf ((block key nonce 0).take 32)
    (filled context ++ filled ciphertext ++ Bytes.littleEndian 8 context.length ++
      Bytes.littleEndian 8 ciphertext.length)

theorem sealUnder_nonce (key : Octets 32) (i : Index) (context text : Bytes) :
    sealUnder key (nonce i) context text =
      applyStream key (nonce i) text ++ tag key i context (applyStream key (nonce i) text) := rfl

/-- Adding the stream changes no length, so what is too long stays too long. -/
theorem tooLong_applyStream (key : Octets 32) (nonce : Octets 12) (text : Bytes) :
    tooLong (applyStream key nonce text) = tooLong text := by
  rw [tooLong, tooLong, length_applyStream]

/-- The stream has blocks for all texts below a fixed length. -/
theorem tooLong_eq_false_iff : tooLong text = false ↔ text.length < 64 * 4294967295 := by
  rw [tooLong, decide_eq_false_iff_not]
  omega

theorem chachaEncrypt_eq_ok_iff :
    chachaEncrypt key i context text = .ok sealedBytes ↔
      tooLong text = false ∧ sealedBytes = sealUnder key (nonce i) context text := by
  unfold chachaEncrypt
  rw [sealUnder_nonce]
  cases tooLong text with
  | true => simp
  | false => simp [eq_comm]

/-- Opening succeeds on the sealed form of the text that it gives, and on nothing
else. -/
theorem chachaDecrypt_eq_ok_iff :
    chachaDecrypt key i context sealedBytes = .ok text ↔
      tooLong text = false ∧ sealedBytes = sealUnder key (nonce i) context text := by
  constructor
  · intro opened
    unfold chachaDecrypt at opened
    split at opened
    · cases opened
    · dsimp only at opened
      split at opened
      · cases opened
      · next short =>
        split at opened
        · next verified =>
          obtain rfl := Except.ok.inj opened
          refine ⟨by simpa only [tooLong_applyStream, Bool.not_eq_true] using short, ?_⟩
          -- Adding the stream again gives the ciphertext that the tag was compared for.
          rw [sealUnder_nonce, applyStream_applyStream, ← verified, List.take_append_drop]
        · cases opened
  · rintro ⟨short, rfl⟩
    rw [sealUnder_nonce, chachaDecrypt_append, applyStream_applyStream]
    rw [tooLong_applyStream, short]

theorem chacha_exact (key : TicketKey) : (chacha key).Exact :=
  fun _ _ _ _ => chachaDecrypt_eq_ok_iff.trans chachaEncrypt_eq_ok_iff.symm

/-- Whatever keeps a text from opening, the ticket is invalid. -/
theorem chachaDecrypt_error {e : Error}
    (refused : chachaDecrypt key i context sealedBytes = .error e) : e = .invalidTicket := by
  unfold chachaDecrypt at refused
  dsimp only at refused
  repeat' split at refused
  all_goals cases refused <;> rfl

theorem nonce_injective : Function.Injective nonce := by
  intro i j same
  have octets : i.toOctets.toList ++ [0, 0, 0, 0] = j.toOctets.toList ++ [0, 0, 0, 0] :=
    congrArg Octets.toList same
  exact Index.toOctets_inj.mp (Octets.ext (List.append_cancel_right octets))

/-- For every key: a sealed text opens to a text exactly if sealing that text gives
it, whatever index, context and lengths. Sealing succeeds on every text that the
stream has blocks for, and gives its sealed form under the nonce of the index, which
is longer by the tag; different indices have different nonces. Every failure to open
is the same error, also where there are fewer bytes than a tag has. -/
theorem opening_inverts_sealing (key : TicketKey) :
    (∀ i context text sealedBytes, (chacha key).decrypt i context sealedBytes = .ok text ↔
      (chacha key).encrypt i context text = .ok sealedBytes) ∧
    (∀ i context text sealedBytes, (chacha key).encrypt i context text = .ok sealedBytes ↔
      text.length < 64 * 4294967295 ∧
        sealedBytes = sealUnder key.octets (nonce i) context text) ∧
    (∀ i context text sealedBytes, (chacha key).encrypt i context text = .ok sealedBytes →
      sealedBytes.length = text.length + tagSize) ∧
    (∀ i context sealedBytes e, (chacha key).decrypt i context sealedBytes = .error e →
      e = .invalidTicket) ∧
    (∀ i context sealedBytes, sealedBytes.length < tagSize →
      (chacha key).decrypt i context sealedBytes = .error .invalidTicket) ∧
    ∀ i j, i ≠ j → nonce i ≠ nonce j := by
  refine ⟨chacha_exact key, fun i context text sealedBytes => ?_,
    fun i context text sealedBytes => length_of_chachaEncrypt,
    fun i context sealedBytes e => chachaDecrypt_error,
    fun i context sealedBytes short => if_pos short, fun i j apart => nonce_injective.ne apart⟩
  rw [← tooLong_eq_false_iff]
  exact chachaEncrypt_eq_ok_iff

/-- A text that ends within its second block, under a negative index. It opens under
this index and not under its absolute value. -/
theorem opening_inverts_sealing_of_partial_block :
    let key : TicketKey := ⟨⟨List.replicate 32 7, rfl⟩⟩
    let text : Bytes := List.replicate 65 3
    let sealedBytes := sealUnder key.octets (nonce (-5)) [1, 2] text
    (chacha key).encrypt (-5) [1, 2] text = .ok sealedBytes ∧
      (chacha key).decrypt (-5) [1, 2] sealedBytes = .ok text ∧ sealedBytes.length = 81 ∧
      (chacha key).decrypt 5 [1, 2] sealedBytes = .error .invalidTicket := by
  intro key text sealedBytes
  obtain ⟨inverts, forms, lengths, failures, -⟩ := opening_inverts_sealing key
  have encrypted : (chacha key).encrypt (-5) [1, 2] text = .ok sealedBytes :=
    (forms (-5) [1, 2] text sealedBytes).mpr ⟨by decide, rfl⟩
  refine ⟨encrypted, (inverts _ _ _ _).mpr encrypted, lengths _ _ _ _ encrypted, ?_⟩
  have refused : ((chacha key).decrypt 5 [1, 2] sealedBytes).isOk = false := by decide +kernel
  cases answer : (chacha key).decrypt 5 [1, 2] sealedBytes with
  | ok opened => simp [answer, Except.isOk, Except.toBool] at refused
  | error e => rw [failures _ _ _ _ answer]

/-- The sealed form agrees with the published example of the construction. -/
example :
    let key : Octets 32 := ⟨(List.range 32).map fun k => UInt8.ofNat (0x80 + k), rfl⟩
    let nonce : Octets 12 :=
      ⟨[0x07, 0, 0, 0, 0x40, 0x41, 0x42, 0x43, 0x44, 0x45, 0x46, 0x47], rfl⟩
    let context : Bytes := [0x50, 0x51, 0x52, 0x53, 0xc0, 0xc1, 0xc2, 0xc3, 0xc4, 0xc5, 0xc6, 0xc7]
    let text := ("Ladies and Gentlemen of the class of '99: If I could offer you only one tip " ++
      "for the future, sunscreen would be it.").toList.map fun c => UInt8.ofNat c.toNat
    let sealedBytes := sealUnder key nonce context text
    sealedBytes.take 16 = [0xd3, 0x1a, 0x8d, 0x34, 0x64, 0x8e, 0x60, 0xdb, 0x7b, 0x86, 0xaf, 0xbc,
        0x53, 0xef, 0x7e, 0xc2] ∧
      sealedBytes.drop 114 = [0x1a, 0xe1, 0x0b, 0x59, 0x4f, 0x09, 0xe2, 0x6a, 0x7e, 0x90, 0x2e,
        0xcb, 0xd0, 0x60, 0x06, 0x91] := by
  decide +kernel

end Resumption.Cipher
