import Resumption.Toml.Scalar
import Resumption.Toml.Section

/-!
A document as its statements: headers in single or double brackets, and keys with their values.
Values may hold arrays and tables in braces, up to a fixed depth. Blank lines and comments say
nothing.
-/

namespace Resumption.Toml

open Text

/-- What a line of a document says. -/
inductive Statement
  | header (name : List Key) (span : Span)
  | sharedHeader (name : List Key) (span : Span)
  | assign (key : List Key) (value : Tree)

/-- A key has fewer parts than this, and a value nests fewer arrays and tables. -/
def nestingLimit : Nat := 80

/-! Keys -/

/-- Whether a key may hold the character without quotes. -/
def isBare (c : Char) : Bool :=
  c.isAlphanum || c = '-' || c = '_'

/-- One part of a key, between blanks. -/
def readKeyPart : Reader Key := fun text =>
  let text := skipSpace text
  let found : Option (List Char × List Char) := match text with
    | '"' :: rest => readBasic rest
    | '\'' :: rest => readLiteral rest
    | _ => match text.takeWhile isBare with
      | [] => none
      | name => some (name, text.dropWhile isBare)
  found.map fun (name, rest) =>
    (⟨String.ofList name, ⟨byteSize text, byteSize rest⟩⟩, skipSpace rest)

/-- The parts of a key that follow dots. -/
def moreKeyParts : (fuel : Nat) → Reader (List Key)
  | 0, _ => none
  | fuel + 1, text =>
    match text with
    | '.' :: rest => do
      let (part, rest) ← readKeyPart rest
      let (parts, rest) ← moreKeyParts fuel rest
      return (part :: parts, rest)
    | _ => some ([], text)

/-- A key of one part or more, with dots between them. -/
def readKey : Reader (List Key) := fun text => do
  let (part, rest) ← readKeyPart text
  let (parts, rest) ← moreKeyParts (rest.length + 1) rest
  if nestingLimit ≤ parts.length + 1 then none else return (part :: parts, rest)

/-! Ends of lines -/

/-- The text behind a comment, if it begins with one. -/
def skipComment : List Char → List Char
  | '#' :: rest => rest.dropWhile isPlain
  | text => text

/-- The text behind blanks, a comment and the end of the line or of the document. -/
def endOfLine (text : List Char) : Option (List Char) :=
  match skipComment (skipSpace text) with
  | [] => some []
  | rest => newline? rest

/-- The text behind blanks, comments and line breaks. -/
def skipLines : (fuel : Nat) → List Char → Option (List Char)
  | 0, text => some text
  | fuel + 1, text =>
    match skipSpace text with
    | '#' :: rest => (newline? (rest.dropWhile isPlain)).bind (skipLines fuel)
    | '\n' :: rest => skipLines fuel rest
    | '\r' :: rest => (newline? ('\r' :: rest)).bind (skipLines fuel)
    | rest => some rest

/-! Values -/

/-- The items of an array up to its closing bracket, each between blanks, comments and line breaks.
A comma may follow the last one. -/
def readItems (item : Reader Tree) : (fuel : Nat) → Reader (List Tree)
  | 0, _ => none
  | fuel + 1, text => do
    match ← skipLines text.length text with
    | ']' :: rest => return ([], rest)
    | text =>
      let (first, rest) ← item text
      match ← skipLines rest.length rest with
      | ']' :: rest => return ([first], rest)
      | ',' :: rest =>
        let (items, rest) ← readItems item fuel rest
        return (first :: items, rest)
      | _ => none

/-- A key, an equals sign and a value. -/
def readPair (value : Reader Tree) : Reader (List Key × Tree) := fun text => do
  let (key, rest) ← readKey text
  let (tree, rest) ← value (skipSpace (← expect '=' rest))
  return ((key, tree), rest)

/-- The pairs of a table in braces up to the closing one, added to the entries so far. No comma
follows the last one. -/
def readPairs (value : Reader Tree) : (fuel : Nat) → Entries → Reader Entries
  | 0, _, _ => none
  | fuel + 1, entries, text => do
    let ((key, tree), rest) ← readPair value text
    let entries ← entries.assignInline key tree
    match skipSpace rest with
    | '\x7d' :: rest => return (entries, rest)
    | ',' :: rest => readPairs value fuel entries rest
    | _ => none

/-- A value that nests at most `depth` arrays and tables. -/
def readValue : (depth : Nat) → Reader Tree
  | 0, text => do
    if let '[' :: _ := text then none
    else if let '\x7b' :: _ := text then none
    else
      let (value, rest) ← readScalar text
      return (.scalar ⟨byteSize text, byteSize rest⟩ value, rest)
  | depth + 1, text =>
    match text with
    | '[' :: inside => do
      let (items, rest) ← readItems (readValue depth) text.length inside
      return (.array ⟨byteSize text, byteSize rest⟩ items, rest)
    | '\x7b' :: inside => do
      let (entries, rest) ← match skipSpace inside with
        | '\x7d' :: rest => some ([], rest)
        | _ => readPairs (readValue depth) text.length [] inside
      return (.table .inline (some ⟨byteSize text, byteSize rest⟩) entries, rest)
    | _ => do
      let (value, rest) ← readScalar text
      return (.scalar ⟨byteSize text, byteSize rest⟩ value, rest)

/-! Lines -/

/-- A header behind its opening bracket or brackets; `whole` is the text with them. -/
def readHeader (whole : List Char) : Reader Statement
  | '[' :: rest => do
    let (name, rest) ← readKey rest
    let rest ← (expect ']' rest).bind (expect ']')
    return (.sharedHeader name ⟨byteSize whole, byteSize rest⟩, rest)
  | rest => do
    let (name, rest) ← readKey rest
    let rest ← expect ']' rest
    return (.header name ⟨byteSize whole, byteSize rest⟩, rest)

/-- One statement, without the end of its line. -/
def readStatement : Reader Statement
  | '[' :: rest => readHeader ('[' :: rest) rest
  | text => (readPair (readValue (nestingLimit - 1)) text).map fun ((key, value), rest) =>
    (.assign key value, rest)

/-- The statements of a text, one to a line. -/
def readLines : (fuel : Nat) → List Char → Option (List Statement)
  | 0, _ => none
  | fuel + 1, text =>
    match skipSpace text with
    | [] => some []
    | '#' :: rest => (endOfLine ('#' :: rest)).bind (readLines fuel)
    | '\n' :: rest => readLines fuel rest
    | '\r' :: rest => (newline? ('\r' :: rest)).bind (readLines fuel)
    | text => do
      let (statement, rest) ← readStatement text
      let statements ← readLines fuel (← endOfLine rest)
      return statement :: statements

/-- The statements of a document, which may begin with a byte order mark. -/
def statements (document : List Char) : Option (List Statement) :=
  let text := match document with
    | '\ufeff' :: rest => rest
    | _ => document
  readLines (text.length + 1) text

end Resumption.Toml
