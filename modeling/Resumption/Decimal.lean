/-!
Binary floating-point numbers of 64 bits, read from decimal text and written back. A decimal number
is read as the nearest number there is, and of two equally near ones as the one with an even
significand. A number is written with the fewest digits that read back as it, of several such
decimals with the nearest one, of two equally near ones with the greater, and without an exponent.
-/

namespace Resumption

/-- A floating-point number: `significand * 2 ^ exponent` with a sign, an infinity, or no number. -/
inductive Binary64
  | finite (negative : Bool) (significand : Nat) (exponent : Int)
  | infinite (negative : Bool)
  | notANumber
deriving DecidableEq, Repr

namespace Binary64

/-- The least exponent of a finite number. -/
def leastExponent : Int := -1074

/-- The greatest exponent of a finite number. -/
def greatestExponent : Int := 971

/-- `n / d` rounded to the nearest integer, halves to the even one. -/
def divideToEven (n d : Nat) : Nat :=
  let quotient := n / d
  let twice := 2 * (n % d)
  if twice < d ∨ (twice = d ∧ quotient % 2 = 0) then quotient else quotient + 1

/-- `n / d` over `2 ^ exponent`, as a fraction. -/
def scaled (n d : Nat) (exponent : Int) : Nat × Nat :=
  if 0 ≤ exponent then (n, d * Nat.pow 2 exponent.toNat) else (n * Nat.pow 2 (-exponent).toNat, d)

/-- The exponent at which the significand of `n / d` has 53 binary digits, or the least one. -/
def exponentOf (n d : Nat) : Int :=
  let estimate : Int := (n.log2 : Int) - d.log2 - 52
  let (a, b) := scaled n d estimate
  max leastExponent (if a / b < Nat.pow 2 52 then estimate - 1 else estimate)

/-- The number nearest to `n / d`. -/
def ofFraction (negative : Bool) (n d : Nat) : Binary64 :=
  if n = 0 then finite negative 0 leastExponent
  else
    let exponent := exponentOf n d
    let (a, b) := scaled n d exponent
    let significand := divideToEven a b
    let (significand, exponent) :=
      if significand = Nat.pow 2 53 then (Nat.pow 2 52, exponent + 1) else (significand, exponent)
    if greatestExponent < exponent then infinite negative
    else finite negative significand exponent

/-- The number nearest to `digits * 10 ^ exponent`. Exponents far outside the range decide by
themselves. -/
def ofDecimal (negative : Bool) (digits : Nat) (exponent : Int) : Binary64 :=
  let size : Int := (Nat.toDigits 10 digits).length + exponent
  if digits = 0 ∨ size < -400 then finite negative 0 leastExponent
  else if 400 < size then infinite negative
  else if 0 ≤ exponent then ofFraction negative (digits * Nat.pow 10 exponent.toNat) 1
  else ofFraction negative digits (Nat.pow 10 (-exponent).toNat)

/-- Whether `c * 10 ^ place` reads back as the number with the given positive significand. Distances
are compared in quarters of the last binary digit; below a power of two the lower neighbour is only
half as far. -/
def readsBack (significand : Nat) (exponent : Int) (c : Nat) (place : Int) : Bool :=
  let (n, d) :=
    if 0 ≤ place then (c * Nat.pow 10 place.toNat, 1) else (c, Nat.pow 10 (-place).toNat)
  let (a, b) := scaled (4 * n) d exponent
  let below := if significand = Nat.pow 2 52 ∧ leastExponent < exponent then 1 else 2
  let low := (4 * significand - below) * b
  let high := (4 * significand + 2) * b
  if significand % 2 = 0 then low ≤ a && a ≤ high else low < a && a < high

/-- The value in units of `10 ^ place`, as a fraction. -/
def inUnits (significand : Nat) (exponent : Int) (place : Int) : Nat × Nat :=
  let (n, d) := if 0 ≤ exponent then (significand * Nat.pow 2 exponent.toNat, 1)
    else (significand, Nat.pow 2 (-exponent).toNat)
  if 0 ≤ place then (n, d * Nat.pow 10 place.toNat) else (n * Nat.pow 10 (-place).toNat, d)

/-- `n / d` rounded to the nearest integer, halves up. -/
def divideHalfUp (n d : Nat) : Nat :=
  (2 * n + d) / (2 * d)

/-- The nearest decimal on the grid of `10 ^ place` that reads back, if one does, and of two equally
near ones the greater. -/
def onGrid (significand : Nat) (exponent : Int) (place : Int) : Option Nat :=
  let (n, d) := inUnits significand exponent place
  let nearest := divideHalfUp n d
  [nearest, n / d, n / d + 1].find? fun c => readsBack significand exponent c place

/-- The fewest digits that read back, and the place of the last one, searched from `place` down. -/
def shortest (significand : Nat) (exponent : Int) : (fuel : Nat) → (place : Int) → Nat × Int
  | 0, place => (0, place)
  | fuel + 1, place =>
    match onGrid significand exponent place with
    | some c => if c = 0 then shortest significand exponent fuel (place - 1) else (c, place)
    | none => shortest significand exponent fuel (place - 1)

/-- Decimal digits with their last one at a place, as text without an exponent and with at least one
digit on either side of the point. -/
def positional (digits : List Char) (place : Int) : List Char :=
  if 0 ≤ place then digits ++ List.replicate place.toNat '0' ++ ['.', '0']
  else
    let after := (-place).toNat
    let padded := List.replicate (after + 1 - digits.length) '0' ++ digits
    padded.take (padded.length - after) ++ ['.'] ++ padded.drop (padded.length - after)

/-- The number as text. -/
def text : Binary64 → String
  | notANumber => "NaN"
  | infinite negative => if negative then "-inf" else "inf"
  | finite negative significand exponent =>
    let (digits, place) :=
      if significand = 0 then (0, 0) else shortest significand exponent 700 309
    let sign := if negative then ['-'] else []
    String.ofList (sign ++ positional (Nat.toDigits 10 digits) place)

end Binary64
end Resumption
