/-!
Readers of text. A reader takes the rest of a document and gives what it read and what is left, or
nothing where the document is in error.
-/

namespace Resumption.Text

/-- What a reader makes of the rest of a document. -/
abbrev Reader (α : Type) := List Char → Option (α × List Char)

/-- A part put in front of those that a reader gives. -/
def prepend {α : Type} (part : α) (read : Option (List α × List Char)) :
    Option (List α × List Char) :=
  read.map fun (parts, rest) => (part :: parts, rest)

/-- The text behind a character that it has to begin with. -/
def expect (c : Char) : List Char → Option (List Char)
  | x :: rest => if x = c then some rest else none
  | [] => none

/-- The value of a hexadecimal digit in either case. -/
def hexValue? (c : Char) : Option Nat :=
  if c.isDigit then some (c.toNat - 48)
  else if 'a' ≤ c ∧ c ≤ 'f' then some (c.toNat - 87)
  else if 'A' ≤ c ∧ c ≤ 'F' then some (c.toNat - 55)
  else none

/-- The number that digits give in a base. What is no digit counts as zero. -/
def numberOf (base : Nat) (digits : List Char) : Nat :=
  digits.foldl (fun n c => base * n + (hexValue? c).getD 0) 0

/-- The number that hexadecimal digits give, if they are nothing else. -/
def hexNumber? (digits : List Char) : Option Nat :=
  if digits.all fun c => (hexValue? c).isSome then some (numberOf 16 digits) else none

/-- The character that a code point in hexadecimal digits stands for. -/
def codePoint? (digits : List Char) : Option Char := do
  let n ← hexNumber? digits
  if n.isValidChar then some (Char.ofNat n) else none

end Resumption.Text
