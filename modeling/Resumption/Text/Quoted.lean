import Resumption.Text.Graphic

/-!
Quoted text as it appears when a value is shown to a developer: between double quotes, with the
double quote, the backslash and the common controls as two-character escapes, and every other
character without a visible form of its own as its code point in braces.
-/

namespace Resumption.Text

/-- The code point in lower-case hexadecimal, without leading zeros. -/
def codePoint (c : Char) : List Char :=
  Nat.toDigits 16 c.toNat

/-- One character as quoted text shows it. -/
def quoteChar (c : Char) : List Char :=
  if c = '\x00' then ['\\', '0']
  else if c = '\t' then ['\\', 't']
  else if c = '\r' then ['\\', 'r']
  else if c = '\n' then ['\\', 'n']
  else if c = '"' then ['\\', '"']
  else if c = '\\' then ['\\', '\\']
  else if isGraphic c then [c]
  else ['\\', 'u', '\x7b'] ++ codePoint c ++ ['\x7d']

/-- The text between double quotes, with escapes. -/
def quote (text : String) : String :=
  String.ofList (['"'] ++ text.toList.flatMap quoteChar ++ ['"'])

end Resumption.Text
