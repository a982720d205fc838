import Resumption.Toml.Scalar
import Resumption.Wire.Octets

/-!
How a text is written as a string. The first form that can hold the text without escapes is taken,
tabs apart: double quotes, single quotes, three double quotes, three single quotes. A text for which
there is none is written with escapes, on several lines if it holds a line break.
-/

namespace Resumption.Toml

/-- The forms of a string. -/
inductive StringForm
  | basic
  | literal
  | basicLines
  | literalLines
deriving DecidableEq, Repr

/-- The greatest number of times that a character stands in a row, given the length of the row at
hand and the greatest so far. -/
def longestRun (c : Char) : (current best : Nat) → List Char → Nat
  | _, best, [] => best
  | current, best, x :: rest =>
    if x = c then longestRun c (current + 1) (max best (current + 1)) rest
    else longestRun c 0 best rest

/-- Whether a character is a control that has no place in a string without escapes. -/
def isControl (c : Char) : Bool :=
  (c.toNat < 0x20 && c ≠ '\t' && c ≠ '\n') || c.toNat = 0x7F

namespace StringForm

/-- The form in which a text is written. -/
def ofText (text : List Char) : StringForm :=
  let doubles := longestRun '"' 0 0 text
  let singles := longestRun '\'' 0 0 text
  let controls := text.any isControl
  let backslash := text.contains '\\'
  let newline := text.contains '\n'
  if !controls && !backslash && doubles = 0 && !newline then basic
  else if !controls && singles = 0 && !newline then literal
  else if !controls && !backslash && doubles ≤ 2 then basicLines
  else if !controls && singles ≤ 2 then literalLines
  else if newline then basicLines
  else basic

def isLines : StringForm → Bool
  | basicLines | literalLines => true
  | basic | literal => false

/-- The quotes around a text. -/
def delimiter : StringForm → List Char
  | basic => ['"']
  | literal => ['\'']
  | basicLines => ['"', '"', '"']
  | literalLines => ['\'', '\'', '\'']

end StringForm

/-- A code point in four upper-case hexadecimal digits, for a character below 65536. -/
def fourDigits (c : Char) : List Char :=
  [12, 8, 4, 0].map fun shift => (Bytes.hexDigit ((c.toNat >>> shift) % 16)).toUpper

/-- A character as it is written between double quotes, apart from the quote itself. -/
def escapeChar (lines : Bool) (c : Char) : List Char :=
  if c = '\x08' then ['\\', 'b']
  else if c = '\t' then ['\\', 't']
  else if c = '\n' then if lines then ['\n'] else ['\\', 'n']
  else if c = '\x0c' then ['\\', 'f']
  else if c = '\r' then ['\\', 'r']
  else if c = '\\' then ['\\', '\\']
  else if isControl c then ['\\', 'u'] ++ fourDigits c
  else [c]

/-- A text as it is written between double quotes. On several lines two quotes in a row stand as
they are; `quotes` counts those just passed. -/
def escape (lines : Bool) : (quotes : Nat) → List Char → List Char
  | _, [] => []
  | quotes, c :: rest =>
    if c = '"' then
      if lines && quotes < 2 then '"' :: escape lines (quotes + 1) rest
      else ['\\', '"'] ++ escape lines 0 rest
    else escapeChar lines c ++ escape lines 0 rest

/-- A text as a string. On several lines a text with line breaks begins on a line of its own. -/
def quoteAs (form : StringForm) (text : List Char) : List Char :=
  let opening := form.delimiter ++ if form.isLines && text.contains '\n' then ['\n'] else []
  let content := match form with
    | .literal | .literalLines => text
    | .basic => escape false 0 text
    | .basicLines => escape true 0 text
  opening ++ content ++ form.delimiter

/-- A text as a string in the form that suits it. -/
def quote (text : String) : String :=
  String.ofList (quoteAs (StringForm.ofText text.toList) text.toList)

end Resumption.Toml
