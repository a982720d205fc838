import Resumption.Wire.Octets

/-!
The twisted Edwards curve of the signing keys, over the field of `2 ^ 255 - 19` elements. A key is
the vertical coordinate of a point with the sign of the other one in the top bit. The coordinate is
taken modulo the field's order, so a key has a point exactly when a root exists; the sign of zero is
not checked.
-/

namespace Resumption.Curve

/-- The order of the field. -/
def order : Nat := Nat.pow 2 255 - 19

/-- `base ^ exponent` modulo the field's order, by repeated squaring over `bits` binary digits. -/
def power (base : Nat) : (bits : Nat) → (exponent : Nat) → Nat
  | 0, _ => 1
  | bits + 1, exponent =>
    let half := power base bits (exponent / 2)
    let square := half * half % order
    if exponent % 2 = 1 then square * base % order else square

/-- The inverse in the field; that of zero is zero. -/
def inverse (x : Nat) : Nat :=
  power x 255 (order - 2)

/-- Whether the field holds a square root of `x`. -/
def isSquare (x : Nat) : Bool :=
  power x 255 ((order - 1) / 2) ≤ 1

/-- The negative of `x` in the field. -/
def negative (x : Nat) : Nat :=
  (order - x % order) % order

/-- The constant of the curve equation `y² - x² = 1 + d x² y²`. -/
def d : Nat :=
  negative 121665 * inverse 121666 % order

/-- Whether the curve has a point with vertical coordinate `y`. -/
def hasPoint (y : Nat) : Bool :=
  let square := y * y % order
  let above := (square + order - 1) % order
  let below := (d * square + 1) % order
  isSquare (above * below % order)

/-- Whether the 32 bytes of a key give a point of the curve. -/
def isKey (key : Octets 32) : Bool :=
  hasPoint (Bytes.ofLittleEndian key.toList % Nat.pow 2 255 % order)

/-- A point in coordinates over a common denominator. -/
structure Point where
  x : Nat
  y : Nat
  z : Nat

namespace Point

/-- The neutral point. -/
def zero : Point := ⟨0, 1, 1⟩

/-- The point that keys are multiples of. -/
def base : Point :=
  ⟨15112221349535400772501151409588531511454012693041857206046113283949847762202,
    46316835694926478169428394003475163141307993866256225615783033603165251855960, 1⟩

/-- The sum of two points; the law has no exceptions on this curve. -/
def add (p q : Point) : Point :=
  let a := p.z * q.z % order
  let b := a * a % order
  let c := p.x * q.x % order
  let e := p.y * q.y % order
  let f := d * (c * e % order) % order
  let minus := (b + order - f) % order
  let plus := (b + f) % order
  let cross := (p.x + p.y) * (q.x + q.y) % order
  ⟨a * minus % order * ((cross + 2 * order - c - e) % order) % order,
    a * plus % order * ((e + c) % order) % order,
    minus * plus % order⟩

/-- The multiple of a point by the lowest `bits` binary digits of a number. -/
def multiple (p : Point) : (bits : Nat) → (n : Nat) → Point
  | 0, _ => zero
  | bits + 1, n =>
    let half := multiple p bits (n / 2)
    let twice := half.add half
    if n % 2 = 1 then twice.add p else twice

/-- The key of a point: its vertical coordinate, with the lowest bit of the other as top bit. -/
def toKey (p : Point) : Octets 32 :=
  let scale := inverse p.z
  let x := p.x * scale % order
  let y := p.y * scale % order
  ⟨Bytes.littleEndian 32 (y + x % 2 * Nat.pow 2 255), by simp⟩

end Point

/-- The factor that a digest of a signing seed stands for: its first half, with the lowest three
bits and the top bit cleared and the second highest bit set. -/
def factor (digest : Bytes) : Nat :=
  let n := Bytes.ofLittleEndian (digest.take 32) % Nat.pow 2 254
  n / 8 * 8 + Nat.pow 2 254

/-- The public key of the signing seed that has the given digest. -/
def publicKey (digest : Bytes) : Octets 32 :=
  (Point.base.multiple 255 (factor digest)).toKey

end Resumption.Curve
