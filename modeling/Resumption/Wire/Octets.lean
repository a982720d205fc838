/-!
Byte strings, byte strings of a fixed length, and the two ways in which the wire writes a number:
little-endian fields and lower-case hexadecimal text. A field that was written reads back to the
number modulo its width, so a number that fits is never changed by the wire.
-/

namespace Resumption

/-- A byte string. -/
abbrev Bytes := List UInt8

/-- Exactly `n` bytes. -/
structure Octets (n : Nat) where
  toList : Bytes
  length_toList : toList.length = n
deriving DecidableEq, Repr

namespace Octets

attribute [simp] length_toList

/-- The bytes, if there are exactly `n` of them. -/
def ofList? (n : Nat) (bytes : Bytes) : Option (Octets n) :=
  if fits : bytes.length = n then some ⟨bytes, fits⟩ else none

@[ext] theorem ext {n : Nat} {a b : Octets n} (same : a.toList = b.toList) : a = b := by
  cases a; cases b; simp_all

theorem ofList?_toList {n : Nat} (a : Octets n) : ofList? n a.toList = some a := by
  simp [ofList?]

end Octets

namespace Bytes

/-- The lowest `width` bytes of `n`, the least significant first. -/
def littleEndian : (width : Nat) → (n : Nat) → Bytes
  | 0, _ => []
  | width + 1, n => UInt8.ofNat n :: littleEndian width (n / 256)

/-- The number whose little-endian bytes are given. -/
def ofLittleEndian : Bytes → Nat
  | [] => 0
  | b :: rest => b.toNat + 256 * ofLittleEndian rest

@[simp] theorem length_littleEndian (width n : Nat) : (littleEndian width n).length = width := by
  induction width generalizing n with
  | zero => rfl
  | succ width ih => simp [littleEndian, ih]

theorem ofLittleEndian_littleEndian (width n : Nat) :
    ofLittleEndian (littleEndian width n) = n % Nat.pow 256 width := by
  show _ = n % 256 ^ width
  induction width generalizing n with
  | zero => simp [littleEndian, ofLittleEndian, Nat.mod_one]
  | succ width ih =>
    have low : (UInt8.ofNat n).toNat = n % 256 := UInt8.toNat_ofNat'
    have split : n % (256 * 256 ^ width) = n % 256 + 256 * (n / 256 % 256 ^ width) := Nat.mod_mul
    rw [littleEndian, ofLittleEndian, ih, low, ← split, ← Nat.pow_succ']

theorem ofLittleEndian_lt (bytes : Bytes) : ofLittleEndian bytes < Nat.pow 256 bytes.length := by
  show _ < 256 ^ bytes.length
  induction bytes with
  | nil => simp [ofLittleEndian]
  | cons b rest ih =>
    have := b.toNat_lt
    simp only [ofLittleEndian, List.length_cons, Nat.pow_succ']
    omega

theorem littleEndian_ofLittleEndian (bytes : Bytes) :
    littleEndian bytes.length (ofLittleEndian bytes) = bytes := by
  induction bytes with
  | nil => rfl
  | cons b rest ih =>
    have low := b.toNat_lt
    have head : UInt8.ofNat (b.toNat + 256 * ofLittleEndian rest) = b := by
      apply UInt8.toNat_inj.mp
      rw [UInt8.toNat_ofNat']
      omega
    have tail : (b.toNat + 256 * ofLittleEndian rest) / 256 = ofLittleEndian rest := by omega
    simp only [List.length_cons, littleEndian, ofLittleEndian, head, tail, ih]

/-- The part from position `start` up to `stop`, if the bytes reach that far. -/
def slice? (bytes : Bytes) (start stop : Nat) : Option Bytes :=
  if start ≤ stop ∧ stop ≤ bytes.length then some ((bytes.drop start).take (stop - start)) else none

theorem length_of_slice? {bytes part : Bytes} {start stop : Nat}
    (found : bytes.slice? start stop = some part) : part.length = stop - start := by
  unfold slice? at found
  split at found
  · cases found; simp; omega
  · cases found

/-- A hexadecimal digit, lower case. -/
def hexDigit (n : Nat) : Char :=
  if n < 10 then Char.ofNat (48 + n) else Char.ofNat (87 + n)

/-- A byte as two hexadecimal digits. -/
def hexByte (b : UInt8) : String :=
  String.ofList [hexDigit (b.toNat / 16), hexDigit (b.toNat % 16)]

/-- The bytes as hexadecimal text, two digits each. -/
def hex (bytes : Bytes) : String :=
  String.join (bytes.map hexByte)

/-- The bytes as decimal numbers between commas. -/
def decimalList (bytes : Bytes) : String :=
  ", ".intercalate (bytes.map fun b => toString b.toNat)

end Bytes

end Resumption
