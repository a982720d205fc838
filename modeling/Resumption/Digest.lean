import Resumption.Wire.Octets

/-!
The two digests of the service: 256 bits for key fingerprints and 512 bits for the expansion of
signing seeds. Both run the same construction, on words of 32 and of 64 bits: the message is padded
to whole blocks, each block is stretched to one word per round, and the rounds stir it into a state
of eight words.
-/

namespace Resumption.Digest

/-- What tells one digest of the family from the other. A triple holds two rotations and a third
amount, which is a shift in the schedule and a rotation in the rounds. -/
structure Variant (w : Nat) where
  roundConstants : List (BitVec w)
  initial : List (BitVec w)
  scheduleOld : Nat × Nat × Nat
  scheduleNew : Nat × Nat × Nat
  stirFirst : Nat × Nat × Nat
  stirFifth : Nat × Nat × Nat

/-- The eight words that a digest works on. -/
structure State (w : Nat) where
  a : BitVec w
  b : BitVec w
  c : BitVec w
  d : BitVec w
  e : BitVec w
  f : BitVec w
  g : BitVec w
  h : BitVec w

namespace State

variable {w : Nat}

def ofList (words : List (BitVec w)) : State w :=
  let word := fun k => words.getD k 0
  ⟨word 0, word 1, word 2, word 3, word 4, word 5, word 6, word 7⟩

def toList (s : State w) : List (BitVec w) :=
  [s.a, s.b, s.c, s.d, s.e, s.f, s.g, s.h]

/-- The word-wise sum. -/
def add (s t : State w) : State w :=
  ⟨s.a + t.a, s.b + t.b, s.c + t.c, s.d + t.d, s.e + t.e, s.f + t.f, s.g + t.g, s.h + t.h⟩

end State

namespace Variant

variable {w : Nat} (v : Variant w)

/-- The exclusive sum of two rotations and a shift of a word. -/
def mixShifted (amounts : Nat × Nat × Nat) (x : BitVec w) : BitVec w :=
  x.rotateRight amounts.1 ^^^ x.rotateRight amounts.2.1 ^^^ (x >>> amounts.2.2)

/-- The exclusive sum of three rotations of a word. -/
def mixRotated (amounts : Nat × Nat × Nat) (x : BitVec w) : BitVec w :=
  x.rotateRight amounts.1 ^^^ x.rotateRight amounts.2.1 ^^^ x.rotateRight amounts.2.2

/-- The word that follows the sixteen words before it, given with the latest first. -/
def nextWord (latest : List (BitVec w)) : BitVec w :=
  let word := fun k => latest.getD k 0
  mixShifted v.scheduleNew (word 1) + word 6 + mixShifted v.scheduleOld (word 14) + word 15

/-- The schedule with `count` more words, latest first. -/
def extend : (count : Nat) → (latest : List (BitVec w)) → List (BitVec w)
  | 0, latest => latest
  | count + 1, latest => extend count (v.nextWord latest :: latest)

/-- One word per round, made from the sixteen words of a block. -/
def schedule (block : List (BitVec w)) : List (BitVec w) :=
  (v.extend (v.roundConstants.length - block.length) block.reverse).reverse

/-- One round: a word of the schedule and its constant are stirred into the state. -/
def round (s : State w) (word constant : BitVec w) : State w :=
  let choice := (s.e &&& s.f) ^^^ (~~~s.e &&& s.g)
  let majority := (s.a &&& s.b) ^^^ (s.a &&& s.c) ^^^ (s.b &&& s.c)
  let first := s.h + mixRotated v.stirFifth s.e + choice + constant + word
  let second := mixRotated v.stirFirst s.a + majority
  ⟨first + second, s.a, s.b, s.c, s.d + first, s.e, s.f, s.g⟩

/-- The state after a block of sixteen words. -/
def absorb (s : State w) (block : List (BitVec w)) : State w :=
  let rounds := (v.schedule block).zip v.roundConstants
  s.add (rounds.foldl (fun state round => v.round state round.1 round.2) s)

/-- The bytes as a number, the most significant first. -/
def bigEndian (bytes : Bytes) : Nat :=
  bytes.foldl (fun n b => 256 * n + b.toNat) 0

/-- The bytes of a word, the most significant first. -/
def wordBytes (x : BitVec w) : Bytes :=
  (Bytes.littleEndian (w / 8) x.toNat).reverse

/-- The message followed by a one bit, zeros, and its length in bits as the last two words: whole
blocks of sixteen words. -/
def padded (message : Bytes) : Bytes :=
  let block := 2 * w
  let tail := w / 4
  let zeros := (2 * block - 1 - tail - message.length % block) % block
  message ++ 0x80 :: List.replicate zeros 0 ++
    (Bytes.littleEndian tail (8 * message.length)).reverse

/-- The first `count` pieces of `size` bytes. -/
def pieces (size : Nat) : (count : Nat) → Bytes → List Bytes
  | 0, _ => []
  | count + 1, bytes => bytes.take size :: pieces size count (bytes.drop size)

/-- The digest of a message. -/
def digest (message : Bytes) : Bytes :=
  let text := padded (w := w) message
  let blocks := pieces (2 * w) (text.length / (2 * w)) text
  let words := fun block =>
    (pieces (w / 8) 16 block).map fun bytes => BitVec.ofNat w (bigEndian bytes)
  let final :=
    blocks.foldl (fun state block => v.absorb state (words block)) (State.ofList v.initial)
  final.toList.flatMap wordBytes

end Variant

/-- The digest of 256 bits. -/
def short : Variant 32 where
  roundConstants := [
  0x428A2F98, 0x71374491, 0xB5C0FBCF, 0xE9B5DBA5, 0x3956C25B, 0x59F111F1, 0x923F82A4, 0xAB1C5ED5,
  0xD807AA98, 0x12835B01, 0x243185BE, 0x550C7DC3, 0x72BE5D74, 0x80DEB1FE, 0x9BDC06A7, 0xC19BF174,
  0xE49B69C1, 0xEFBE4786, 0x0FC19DC6, 0x240CA1CC, 0x2DE92C6F, 0x4A7484AA, 0x5CB0A9DC, 0x76F988DA,
  0x983E5152, 0xA831C66D, 0xB00327C8, 0xBF597FC7, 0xC6E00BF3, 0xD5A79147, 0x06CA6351, 0x14292967,
  0x27B70A85, 0x2E1B2138, 0x4D2C6DFC, 0x53380D13, 0x650A7354, 0x766A0ABB, 0x81C2C92E, 0x92722C85,
  0xA2BFE8A1, 0xA81A664B, 0xC24B8B70, 0xC76C51A3, 0xD192E819, 0xD6990624, 0xF40E3585, 0x106AA070,
  0x19A4C116, 0x1E376C08, 0x2748774C, 0x34B0BCB5, 0x391C0CB3, 0x4ED8AA4A, 0x5B9CCA4F, 0x682E6FF3,
  0x748F82EE, 0x78A5636F, 0x84C87814, 0x8CC70208, 0x90BEFFFA, 0xA4506CEB, 0xBEF9A3F7, 0xC67178F2]
  initial := [
  0x6A09E667, 0xBB67AE85, 0x3C6EF372, 0xA54FF53A, 0x510E527F, 0x9B05688C, 0x1F83D9AB, 0x5BE0CD19]
  scheduleOld := (7, 18, 3)
  scheduleNew := (17, 19, 10)
  stirFirst := (2, 13, 22)
  stirFifth := (6, 11, 25)

/-- The digest of 512 bits. -/
def long : Variant 64 where
  roundConstants := [
  0x428A2F98D728AE22, 0x7137449123EF65CD, 0xB5C0FBCFEC4D3B2F, 0xE9B5DBA58189DBBC,
  0x3956C25BF348B538, 0x59F111F1B605D019, 0x923F82A4AF194F9B, 0xAB1C5ED5DA6D8118,
  0xD807AA98A3030242, 0x12835B0145706FBE, 0x243185BE4EE4B28C, 0x550C7DC3D5FFB4E2,
  0x72BE5D74F27B896F, 0x80DEB1FE3B1696B1, 0x9BDC06A725C71235, 0xC19BF174CF692694,
  0xE49B69C19EF14AD2, 0xEFBE4786384F25E3, 0x0FC19DC68B8CD5B5, 0x240CA1CC77AC9C65,
  0x2DE92C6F592B0275, 0x4A7484AA6EA6E483, 0x5CB0A9DCBD41FBD4, 0x76F988DA831153B5,
  0x983E5152EE66DFAB, 0xA831C66D2DB43210, 0xB00327C898FB213F, 0xBF597FC7BEEF0EE4,
  0xC6E00BF33DA88FC2, 0xD5A79147930AA725, 0x06CA6351E003826F, 0x142929670A0E6E70,
  0x27B70A8546D22FFC, 0x2E1B21385C26C926, 0x4D2C6DFC5AC42AED, 0x53380D139D95B3DF,
  0x650A73548BAF63DE, 0x766A0ABB3C77B2A8, 0x81C2C92E47EDAEE6, 0x92722C851482353B,
  0xA2BFE8A14CF10364, 0xA81A664BBC423001, 0xC24B8B70D0F89791, 0xC76C51A30654BE30,
  0xD192E819D6EF5218, 0xD69906245565A910, 0xF40E35855771202A, 0x106AA07032BBD1B8,
  0x19A4C116B8D2D0C8, 0x1E376C085141AB53, 0x2748774CDF8EEB99, 0x34B0BCB5E19B48A8,
  0x391C0CB3C5C95A63, 0x4ED8AA4AE3418ACB, 0x5B9CCA4F7763E373, 0x682E6FF3D6B2B8A3,
  0x748F82EE5DEFB2FC, 0x78A5636F43172F60, 0x84C87814A1F0AB72, 0x8CC702081A6439EC,
  0x90BEFFFA23631E28, 0xA4506CEBDE82BDE9, 0xBEF9A3F7B2C67915, 0xC67178F2E372532B,
  0xCA273ECEEA26619C, 0xD186B8C721C0C207, 0xEADA7DD6CDE0EB1E, 0xF57D4F7FEE6ED178,
  0x06F067AA72176FBA, 0x0A637DC5A2C898A6, 0x113F9804BEF90DAE, 0x1B710B35131C471B,
  0x28DB77F523047D84, 0x32CAAB7B40C72493, 0x3C9EBE0A15C9BEBC, 0x431D67C49C100D4C,
  0x4CC5D4BECB3E42B6, 0x597F299CFC657E2A, 0x5FCB6FAB3AD6FAEC, 0x6C44198C4A475817]
  initial := [
  0x6A09E667F3BCC908, 0xBB67AE8584CAA73B, 0x3C6EF372FE94F82B, 0xA54FF53A5F1D36F1,
  0x510E527FADE682D1, 0x9B05688C2B3E6C1F, 0x1F83D9ABFB41BD6B, 0x5BE0CD19137E2179]
  scheduleOld := (1, 8, 7)
  scheduleNew := (19, 61, 6)
  stirFirst := (28, 34, 39)
  stirFifth := (14, 18, 41)

/-- The 256-bit digest of a message. -/
def sha256 (message : Bytes) : Bytes :=
  short.digest message

/-- The 512-bit digest of a message. -/
def sha512 (message : Bytes) : Bytes :=
  long.digest message

end Resumption.Digest
