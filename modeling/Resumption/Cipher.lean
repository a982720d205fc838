import Resumption.Cipher.Keystream
import Resumption.Cipher.Tag
import Resumption.Key
import Resumption.Ticket.Index

/-!
Ciphers that protect tickets. A cipher encrypts a text for one index under a context that is
authenticated and not encrypted, and decrypts only what carries a tag for the same index and
context. The service's own cipher encrypts with a stream and tags context and ciphertext with a
one-time key from the same stream. The nonce is the index, which is never used twice under one key.
-/

namespace Resumption

/-- What protects tickets: encryption and decryption for an index, a context and a text. -/
structure Cipher where
  encrypt : Index → (context : Bytes) → (text : Bytes) → Result Bytes
  decrypt : Index → (context : Bytes) → (text : Bytes) → Result Bytes

namespace Cipher

/-- The nonce of an index: its eight bytes and four zeros. -/
def nonce (i : Index) : Octets 12 :=
  ⟨i.toOctets.toList ++ [0, 0, 0, 0], by simp⟩

/-- Zeros that fill the last block of sixteen bytes. -/
def filled (bytes : Bytes) : Bytes :=
  bytes ++ List.replicate ((16 - bytes.length % 16) % 16) 0

/-- The tag of a context and a ciphertext: both filled to whole blocks, then both lengths. -/
def tag (key : Octets 32) (i : Index) (context ciphertext : Bytes) : Bytes :=
  tagOf ((block key (nonce i) 0).take 32)
    (filled context ++ filled ciphertext ++ Bytes.littleEndian 8 context.length ++
      Bytes.littleEndian 8 ciphertext.length)

/-- Whether a text has more blocks than the stream has numbers for. -/
def tooLong (text : Bytes) : Bool :=
  4294967295 ≤ text.length / 64

/-- The ciphertext and its tag. -/
def chachaEncrypt (key : Octets 32) (i : Index) (context text : Bytes) : Result Bytes :=
  if tooLong text then .error (.encryption "aead::Error")
  else
    let ciphertext := applyStream key (nonce i) text
    .ok (ciphertext ++ tag key i context ciphertext)

/-- The text of a ciphertext with a valid tag. Every failure is the same. -/
def chachaDecrypt (key : Octets 32) (i : Index) (context text : Bytes) : Result Bytes :=
  if text.length < tagSize then .error .invalidTicket
  else
    let ciphertext := text.take (text.length - tagSize)
    if tooLong ciphertext then .error .invalidTicket
    else if text.drop (text.length - tagSize) = tag key i context ciphertext then
      .ok (applyStream key (nonce i) ciphertext)
    else .error .invalidTicket

/-- The service's own cipher under a key. -/
def chacha (key : TicketKey) : Cipher where
  encrypt := chachaEncrypt key.octets
  decrypt := chachaDecrypt key.octets

end Cipher

/-- What is shown of the cipher under a key: the key's fingerprint. -/
def TicketKey.describeCipher (key : TicketKey) : String :=
  "ChaChaTicketCipher \x7b key_fingerprint: " ++ Text.quote key.fingerprint ++ " \x7d"

end Resumption
