import Resumption.Limits
import Resumption.Text.Reader
import Resumption.Toml.Tree

/-!
The readers of scalars. Strings come in four forms, numbers in decimal and three other bases, with
single underscores between digits.
-/

namespace Resumption.Toml

open Text

/-- The number of bytes of a text. -/
def byteSize : (text : List Char) → Nat
  | [] => 0
  | c :: rest => c.utf8Size + byteSize rest

/-- Whether a character is a blank within a line. -/
def isSpace (c : Char) : Bool :=
  c = ' ' || c = '\t'

/-- The text without the blanks it begins with. -/
def skipSpace (text : List Char) : List Char :=
  text.dropWhile isSpace

/-- Whether comments and strings may hold the character as it is: any but the controls, though a tab
is admitted. -/
def isPlain (c : Char) : Bool :=
  c = '\t' || (0x20 ≤ c.toNat && c.toNat ≠ 0x7F)

/-- The text behind a line break, if it begins with one. -/
def newline? : List Char → Option (List Char)
  | '\n' :: rest => some rest
  | '\r' :: '\n' :: rest => some rest
  | _ => none

/-! Strings -/

/-- The character that a letter stands for behind a backslash. -/
def escape? (letter : Char) : Option Char :=
  if letter = 'b' then some '\x08'
  else if letter = 't' then some '\t'
  else if letter = 'n' then some '\n'
  else if letter = 'f' then some '\x0c'
  else if letter = 'r' then some '\r'
  else if letter = '"' then some '"'
  else if letter = '\\' then some '\\'
  else none

/-- The content of a string in double quotes, behind the first of them. -/
def readBasic : Reader (List Char)
  | [] => none
  | '"' :: rest => some ([], rest)
  | '\\' :: 'u' :: a :: b :: c :: d :: rest =>
    (codePoint? [a, b, c, d]).bind fun x => prepend x (readBasic rest)
  | '\\' :: 'U' :: a :: b :: c :: d :: e :: f :: g :: h :: rest =>
    (codePoint? [a, b, c, d, e, f, g, h]).bind fun x => prepend x (readBasic rest)
  | '\\' :: letter :: rest => (escape? letter).bind fun x => prepend x (readBasic rest)
  | c :: rest => if isPlain c && c ≠ '\\' then prepend c (readBasic rest) else none

/-- The content of a string in three double quotes, behind them. Up to two quotes may stand before
the closing three. A backslash at the end of a line takes all blanks and line breaks that follow
with it; `skipping` says that these are being passed. -/
def readBasicLines : (skipping : Bool) → Reader (List Char)
  | _, [] => none
  | _, '"' :: '"' :: '"' :: '"' :: '"' :: rest => some (['"', '"'], rest)
  | _, '"' :: '"' :: '"' :: '"' :: rest => some (['"'], rest)
  | _, '"' :: '"' :: '"' :: rest => some ([], rest)
  | skipping, '\r' :: '\n' :: rest =>
    if skipping then readBasicLines true rest else prepend '\n' (readBasicLines false rest)
  | skipping, '\n' :: rest =>
    if skipping then readBasicLines true rest else prepend '\n' (readBasicLines false rest)
  | _, '\\' :: 'u' :: a :: b :: c :: d :: rest =>
    (codePoint? [a, b, c, d]).bind fun x => prepend x (readBasicLines false rest)
  | _, '\\' :: 'U' :: a :: b :: c :: d :: e :: f :: g :: h :: rest =>
    (codePoint? [a, b, c, d, e, f, g, h]).bind fun x => prepend x (readBasicLines false rest)
  | _, '\\' :: letter :: rest =>
    if (newline? (skipSpace (letter :: rest))).isSome then readBasicLines true (letter :: rest)
    else (escape? letter).bind fun x => prepend x (readBasicLines false rest)
  | skipping, c :: rest =>
    if skipping && isSpace c then readBasicLines true rest
    else if isPlain c && c ≠ '\\' then prepend c (readBasicLines false rest)
    else none

/-- The content of a string in single quotes, behind the first of them. -/
def readLiteral : Reader (List Char)
  | [] => none
  | '\'' :: rest => some ([], rest)
  | c :: rest => if isPlain c then prepend c (readLiteral rest) else none

/-- The content of a string in three single quotes, behind them. -/
def readLiteralLines : Reader (List Char)
  | [] => none
  | '\'' :: '\'' :: '\'' :: '\'' :: '\'' :: rest => some (['\'', '\''], rest)
  | '\'' :: '\'' :: '\'' :: '\'' :: rest => some (['\''], rest)
  | '\'' :: '\'' :: '\'' :: rest => some ([], rest)
  | '\r' :: '\n' :: rest => prepend '\n' (readLiteralLines rest)
  | '\n' :: rest => prepend '\n' (readLiteralLines rest)
  | c :: rest => if isPlain c then prepend c (readLiteralLines rest) else none

/-- The text without a line break that it begins with. -/
def skipNewline (text : List Char) : List Char :=
  (newline? text).getD text

/-- A string in any of the four forms. -/
def readString : Reader (List Char)
  | '"' :: '"' :: '"' :: rest => readBasicLines false (skipNewline rest)
  | '"' :: rest => readBasic rest
  | '\'' :: '\'' :: '\'' :: rest => readLiteralLines (skipNewline rest)
  | '\'' :: rest => readLiteral rest
  | _ => none

/-! Numbers, dates and times -/

/-- The digits behind the first one. An underscore has to stand between two digits. -/
def moreDigits (isDigit : Char → Bool) : Reader (List Char)
  | [] => some ([], [])
  | ['_'] => none
  | '_' :: c :: rest => if isDigit c then prepend c (moreDigits isDigit rest) else none
  | c :: rest => if isDigit c then prepend c (moreDigits isDigit rest) else some ([], c :: rest)

/-- One digit or more. -/
def readDigits (isDigit : Char → Bool) : Reader (List Char)
  | [] => none
  | c :: rest => if isDigit c then prepend c (moreDigits isDigit rest) else none

/-- An integer, if it is within the range of 64 bits with a sign. -/
def boundedInteger (n : Int) : Option Scalar :=
  if minInteger ≤ n ∧ n ≤ maxInteger then some (.integer n) else none

/-- An integer in another base, behind its mark. -/
def readBased (base : Nat) (isDigit : Char → Bool) : Reader Scalar := fun text => do
  let (digits, rest) ← readDigits isDigit text
  return (← boundedInteger (numberOf base digits), rest)

/-- The digits before the point: a zero alone, or digits that do not begin with zero. -/
def readWhole : Reader (List Char)
  | '0' :: rest => some (['0'], rest)
  | text => readDigits Char.isDigit text

/-- A point and the digits behind it, if the text begins with a point. -/
def readFraction : Reader (Option (List Char))
  | '.' :: rest => (readDigits Char.isDigit rest).map fun (digits, rest) => (some digits, rest)
  | text => some (none, text)

/-- An exponent, if the text begins with its mark. -/
def readExponent : Reader (Option Int)
  | c :: rest =>
    if c = 'e' ∨ c = 'E' then
      let (negative, rest) := match rest with
        | '-' :: rest => (true, rest)
        | '+' :: rest => (false, rest)
        | _ => (false, rest)
      (readDigits Char.isDigit rest).map fun (digits, rest) =>
        let n : Int := numberOf 10 digits
        (some (if negative then -n else n), rest)
    else some (none, c :: rest)
  | [] => some (none, [])

/-- A decimal number behind its sign. A number that rounds to positive infinity is refused. -/
def readDecimal (negative : Bool) : Reader Scalar := fun text => do
  let (whole, rest) ← readWhole text
  let (fraction, rest) ← readFraction rest
  let (exponent, rest) ← readExponent rest
  if fraction.isNone ∧ exponent.isNone then
    let n : Int := numberOf 10 whole
    return (← boundedInteger (if negative then -n else n), rest)
  else
    let behind := fraction.getD []
    let x := Binary64.ofDecimal negative (numberOf 10 (whole ++ behind))
      (exponent.getD 0 - behind.length)
    if x = .infinite false then none else return (.float x, rest)

/-- The number that two digits give, if it is at most `limit`. -/
def twoDigits (limit : Nat) : Reader Nat
  | a :: b :: rest =>
    let n := numberOf 10 [a, b]
    if a.isDigit ∧ b.isDigit ∧ n ≤ limit then some (n, rest) else none
  | _ => none

/-- The rest behind the digits of a fraction of a second, if there is one. -/
def skipSecondFraction : List Char → List Char
  | '.' :: c :: rest => if c.isDigit then rest.dropWhile Char.isDigit else '.' :: c :: rest
  | text => text

/-- The rest behind the minutes and seconds of a time of day, behind its hour. -/
def readMinutes (text : List Char) : Option (List Char) := do
  let (_, rest) ← twoDigits 59 (← expect ':' text)
  let (_, rest) ← twoDigits 60 (← expect ':' rest)
  return skipSecondFraction rest

/-- The rest behind an offset from universal time, if there is one. -/
def readOffset : List Char → Option (List Char)
  | c :: rest =>
    if c = 'Z' ∨ c = 'z' then some rest
    else if c = '+' ∨ c = '-' then do
      let (_, rest) ← twoDigits 23 rest
      let (_, rest) ← twoDigits 59 (← expect ':' rest)
      return rest
    else some (c :: rest)
  | [] => some []

/-- The last day of a month. -/
def daysOf (year month : Nat) : Nat :=
  if month = 2 then
    if year % 4 = 0 ∧ (year % 100 ≠ 0 ∨ year % 400 = 0) then 29 else 28
  else if month = 4 ∨ month = 6 ∨ month = 9 ∨ month = 11 then 30
  else 31

/-- The rest behind a time of day and an offset that follow a date, if they do. -/
def readTimeOfDate : List Char → Option (List Char)
  | c :: rest =>
    if c = 'T' ∨ c = 't' ∨ c = ' ' then
      match twoDigits 23 rest with
      | some (_, ':' :: behind) => do readOffset (← readMinutes (':' :: behind))
      | _ => some (c :: rest)
    else some (c :: rest)
  | [] => some []

/-- The rest behind a date, behind its year. -/
def readDate (year : Nat) (text : List Char) : Option (List Char) := do
  let (month, rest) ← twoDigits 12 (← expect '-' text)
  let (day, rest) ← twoDigits 31 (← expect '-' rest)
  if month = 0 ∨ day = 0 ∨ daysOf year month < day then none
  else readTimeOfDate rest

/-- A number, a date or a time. Four digits before a hyphen begin a date, and an hour before a colon
begins a time. -/
def readNumber (text : List Char) : Option (Scalar × List Char) :=
  match text with
  | a :: b :: c :: d :: '-' :: rest =>
    if [a, b, c, d].all Char.isDigit then
      (readDate (numberOf 10 [a, b, c, d]) ('-' :: rest)).map (Scalar.moment, ·)
    else plain
  | a :: b :: ':' :: rest =>
    if (twoDigits 23 [a, b]).isSome then (readMinutes (':' :: rest)).map (Scalar.moment, ·)
    else plain
  | _ => plain
where
  /-- A number, with its sign and its base. -/
  plain : Option (Scalar × List Char) :=
    match text with
    | '0' :: 'x' :: rest => readBased 16 (fun c => (hexValue? c).isSome) rest
    | '0' :: 'o' :: rest => readBased 8 (fun c => '0' ≤ c && c ≤ '7') rest
    | '0' :: 'b' :: rest => readBased 2 (fun c => c = '0' || c = '1') rest
    | '+' :: rest => signed false rest
    | '-' :: rest => signed true rest
    | _ => signed false text
  /-- A number behind its sign. -/
  signed (negative : Bool) (text : List Char) : Option (Scalar × List Char) :=
    match text with
    | 'i' :: 'n' :: 'f' :: rest => some (.float (.infinite negative), rest)
    | 'n' :: 'a' :: 'n' :: rest => some (.float .notANumber, rest)
    | _ => readDecimal negative text

/-- A value without parts. -/
def readScalar : Reader Scalar
  | [] => none
  | c :: rest =>
    let text := c :: rest
    if c = '"' ∨ c = '\'' then
      (readString text).map fun (content, rest) => (.text (String.ofList content), rest)
    else match text with
      | 't' :: 'r' :: 'u' :: 'e' :: rest => some (.boolean true, rest)
      | 'f' :: 'a' :: 'l' :: 's' :: 'e' :: rest => some (.boolean false, rest)
      | _ => readNumber text

end Resumption.Toml
