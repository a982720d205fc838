import Resumption.Wire.Octets

/-!
The one-time authenticator: a text is read as the coefficients of a polynomial over the field of
`2 ^ 130 - 5` elements, and the tag is its value at a secret point plus a secret number. Each block
of up to sixteen bytes counts as a number with a one after its last byte, so no two texts have the
same coefficients.
-/

namespace Resumption.Cipher

/-- The order of the authenticator's field. -/
def tagOrder : Nat := Nat.pow 2 130 - 5

/-- The bits of the secret point that are kept. -/
def pointMask : Nat := 0x0FFFFFFC0FFFFFFC0FFFFFFC0FFFFFFF

/-- The number of a block: its little-endian bytes with a one behind them. -/
def coefficient (block : Bytes) : Nat :=
  Bytes.ofLittleEndian block + Nat.pow 256 block.length

/-- The value at `point` of the polynomial whose coefficients are the next `count` blocks, begun at
the value so far. -/
def evaluate (point : Nat) : (count : Nat) → (value : Nat) → (text : Bytes) → Nat
  | 0, value, _ => value
  | count + 1, value, text =>
    evaluate point count ((value + coefficient (text.take 16)) * point % tagOrder) (text.drop 16)

/-- The tag of a text under a one-time key of a point and a number. -/
def tagOf (oneTimeKey : Bytes) (text : Bytes) : Bytes :=
  let point := Bytes.ofLittleEndian (oneTimeKey.take 16) &&& pointMask
  let offset := Bytes.ofLittleEndian ((oneTimeKey.drop 16).take 16)
  let value := evaluate point ((text.length + 15) / 16) 0 text
  Bytes.littleEndian 16 (value + offset)

end Resumption.Cipher
