import Resumption.Limits
import Resumption.Text.Reader

/-!
Documents of nested values: the constants, numbers, texts, lists and objects. A number counts as an
integer if it is written as one and fits a word, with a sign or without; minus zero does not. A text
may spell a character as two halves of sixteen bits; a half that stands alone is admitted where
nobody asks for the text.
-/

namespace Resumption.Json

open Text

/-- A value of a document. -/
inductive Tree
  | null
  | boolean (b : Bool)
  | integer (n : Int)
  /-- Any other number. -/
  | fraction
  /-- A text, unless it holds half a character. -/
  | text (content : Option String)
  | list (items : List Tree)
  | object (members : List (Option String × Tree))

/-- Whether a character may stand around values. -/
def isBlank (c : Char) : Bool :=
  c = ' ' || c = '\n' || c = '\t' || c = '\r'

/-- The text without the blanks it begins with. -/
def skipBlanks (text : List Char) : List Char :=
  text.dropWhile isBlank

/-! Texts -/

/-- A character, or half of one by its sixteen bits. -/
inductive Piece
  | whole (c : Char)
  | half (bits : Nat)

/-- What four hexadecimal digits stand for. -/
def piece? (digits : List Char) : Option Piece := do
  let n ← hexNumber? digits
  return if n.isValidChar then .whole (Char.ofNat n) else .half n

/-- The character that a letter stands for behind a backslash. -/
def escape? (letter : Char) : Option Char :=
  if letter = '"' then some '"'
  else if letter = '\\' then some '\\'
  else if letter = '/' then some '/'
  else if letter = 'b' then some '\x08'
  else if letter = 'f' then some '\x0c'
  else if letter = 'n' then some '\n'
  else if letter = 'r' then some '\r'
  else if letter = 't' then some '\t'
  else none

/-- The pieces of a text up to the closing quote. Controls have to be escaped. -/
def readPieces : Reader (List Piece)
  | [] => none
  | '"' :: rest => some ([], rest)
  | '\\' :: 'u' :: a :: b :: c :: d :: rest =>
    (piece? [a, b, c, d]).bind fun piece => prepend piece (readPieces rest)
  | '\\' :: letter :: rest =>
    (escape? letter).bind fun c => prepend (.whole c) (readPieces rest)
  | c :: rest => if c.toNat < 0x20 ∨ c = '\\' then none else prepend (.whole c) (readPieces rest)

/-- The characters of pieces, if each half is followed by the half that completes it. -/
def assemble : List Piece → Option (List Char)
  | [] => some []
  | .whole c :: rest => (assemble rest).map (c :: ·)
  | .half high :: .half low :: rest =>
    if high < 0xDC00 ∧ 0xDC00 ≤ low then
      (assemble rest).map
        (Char.ofNat (0x10000 + (high - 0xD800) * 0x400 + (low - 0xDC00)) :: ·)
    else none
  | .half _ :: _ => none

/-- A text behind its opening quote. -/
def readText : Reader (Option String) := fun text => do
  let (pieces, rest) ← readPieces text
  return ((assemble pieces).map String.ofList, rest)

/-! Numbers -/

/-- One digit or more. -/
def readDigits : Reader (List Char) := fun text =>
  match text.takeWhile Char.isDigit with
  | [] => none
  | digits => some (digits, text.dropWhile Char.isDigit)

/-- The digits before the point: a zero alone, or digits that do not begin with zero. -/
def readWhole : Reader (List Char) := fun text => do
  let (digits, rest) ← readDigits text
  match digits with
  | '0' :: _ :: _ => none
  | _ => return (digits, rest)

/-- The text behind a point and its digits, and whether they are there. -/
def skipFraction : List Char → Option (Bool × List Char)
  | '.' :: rest => (readDigits rest).map fun (_, rest) => (true, rest)
  | text => some (false, text)

/-- The text without a sign that it begins with. -/
def skipSign : List Char → List Char
  | '+' :: rest => rest
  | '-' :: rest => rest
  | text => text

/-- The text behind an exponent, and whether it is there. -/
def skipExponent : List Char → Option (Bool × List Char)
  | c :: rest =>
    if c = 'e' ∨ c = 'E' then (readDigits (skipSign rest)).map fun (_, rest) => (true, rest)
    else some (false, c :: rest)
  | [] => some (false, [])

/-- The value of digits without a point or an exponent. -/
def wordOf (negative : Bool) (n : Nat) : Tree :=
  if negative then if 0 < n ∧ minInteger ≤ -(n : Int) then .integer (-n) else .fraction
  else if n ≤ maxWord then .integer n else .fraction

/-- A number behind its sign. -/
def readNumber (negative : Bool) : Reader Tree := fun text => do
  let (digits, rest) ← readWhole text
  let (pointed, rest) ← skipFraction rest
  let (scaled, rest) ← skipExponent rest
  return (if pointed || scaled then .fraction else wordOf negative (numberOf 10 digits), rest)

/-! Values -/

/-- One item or more, with commas between them, up to a closing bracket. -/
def readSeries {α : Type} (close : Char) (item : Reader α) : (fuel : Nat) → Reader (List α)
  | 0, _ => none
  | fuel + 1, text => do
    let (first, rest) ← item text
    match skipBlanks rest with
    | c :: rest =>
      if c = close then return ([first], rest)
      else if c = ',' then prepend first (readSeries close item fuel rest)
      else none
    | [] => none

/-- The items up to a closing bracket, if there are any. -/
def readItems {α : Type} (close : Char) (item : Reader α) : Reader (List α) := fun text =>
  match expect close (skipBlanks text) with
  | some rest => some ([], rest)
  | none => readSeries close item text.length text

/-- A name, a colon and a value. -/
def readMember (value : Reader Tree) : Reader (Option String × Tree) := fun text => do
  let (name, rest) ← readText (← expect '"' (skipBlanks text))
  let (tree, rest) ← value (← expect ':' (skipBlanks rest))
  return ((name, tree), rest)

/-- A value that nests fewer than `depth` lists and objects. -/
def readValue : (depth : Nat) → Reader Tree
  | 0, _ => none
  | depth + 1, text =>
    match skipBlanks text with
    | 'n' :: 'u' :: 'l' :: 'l' :: rest => some (.null, rest)
    | 't' :: 'r' :: 'u' :: 'e' :: rest => some (.boolean true, rest)
    | 'f' :: 'a' :: 'l' :: 's' :: 'e' :: rest => some (.boolean false, rest)
    | '"' :: rest => (readText rest).map fun (content, rest) => (.text content, rest)
    | '[' :: rest =>
      (readItems ']' (readValue depth) rest).map fun (items, rest) => (.list items, rest)
    | '\x7b' :: rest =>
      (readItems '\x7d' (readMember (readValue depth)) rest).map fun (members, rest) =>
        (.object members, rest)
    | '-' :: rest => readNumber true rest
    | text => readNumber false text

/-- The value that a document holds, with nothing but blanks around it. -/
def parse (document : String) : Option Tree := do
  let (tree, rest) ← readValue (document.length + 1) document.toList
  if skipBlanks rest = [] then return tree else none

/-! Typed values -/

/-- The integer of a value, if it is one within bounds. -/
def Tree.integer? (low high : Int) : Tree → Option Int
  | integer n => if low ≤ n ∧ n ≤ high then some n else none
  | _ => none

/-- A field of a record: its name, and how a value changes a record. -/
structure Field (σ : Type) where
  name : String
  set : Tree → σ → Option σ

/-- The record after the members of an object. Other names are passed over; no field is given
twice. -/
def decodeMembers {σ : Type} (fields : List (Field σ)) (record : σ)
    (members : List (Option String × Tree)) : Option σ := do
  let named ← members.mapM fun (name, tree) => name.map fun name => (name, tree)
  let given := named.filterMap fun (name, tree) =>
    (fields.find? fun field => field.name = name).map fun field => (field, tree)
  if (given.map fun (field, _) => field.name).Nodup then
    given.foldlM (fun record (field, tree) => field.set tree record) record
  else none

/-- The record that a value gives, beginning with the values of fields that are not given. A list
gives the first fields in order. -/
def decodeRecord {σ : Type} (fields : List (Field σ)) (record : σ) : Tree → Option σ
  | .object members => decodeMembers fields record members
  | .list items =>
    if items.length ≤ fields.length then
      (fields.zip items).foldlM (fun record (field, tree) => field.set tree record) record
    else none
  | _ => none

end Resumption.Json
