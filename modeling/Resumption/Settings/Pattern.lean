import Resumption.Text.Alphanumeric
import Resumption.Text.Blank
import Resumption.Text.Reader

/-!
Patterns that log filters hold the values of fields against: regular expressions, of which only the
form matters here. Patterns know no properties of characters outside of ASCII. What asks for such
properties (the classes of letters, digits and blanks, the boundaries of words, and letters in
either case) is in error until a flag confines the pattern to ASCII. Numbers of repetitions are not
admitted.
-/

namespace Resumption.Pattern

/-- How a part of a pattern is taken. -/
structure Mode where
  /-- Letters stand for either case. -/
  caseless : Bool
  /-- Only characters of ASCII have properties. -/
  ascii : Bool
  /-- Blanks and comments between the parts mean nothing. -/
  spaced : Bool
deriving DecidableEq, Repr

namespace Mode

/-- The mode that a pattern begins with. -/
def initial : Mode := ⟨false, false, false⟩

/-- The mode with a flag set or taken away, if there is such a flag. -/
def withFlag (mode : Mode) (flag : Char) (isSet : Bool) : Option Mode :=
  if flag = 'i' then some { mode with caseless := isSet }
  else if flag = 'u' then some { mode with ascii := !isSet }
  else if flag = 'x' then some { mode with spaced := isSet }
  else if "msUR".contains flag then some mode
  else none

/-- Whether single characters need to have their other cases known outside of ASCII. -/
def needsCases (mode : Mode) : Bool :=
  mode.caseless && !mode.ascii

/-- Whether the mode gives the character no meaning. -/
def refuses (mode : Mode) (c : Char) : Bool :=
  mode.ascii && 0x7F < c.toNat

end Mode

/-- The text without the blanks and the comments that it begins with. A comment goes from a number
sign to the end of its line. -/
def skipComments : (inside : Bool) → List Char → List Char
  | _, [] => []
  | true, c :: rest => skipComments (c ≠ '\n') rest
  | false, c :: rest =>
    if c = '#' then skipComments true rest
    else if Text.isBlank c then skipComments false rest
    else c :: rest

/-- The text without what means nothing at its beginning. -/
def Mode.skip (mode : Mode) (text : List Char) : List Char :=
  if mode.spaced then skipComments false text else text

/-! Escapes -/

/-- What a backslash and what follows it stand for. -/
inductive Escape
  | character (c : Char)
  /-- The letters, the digits or the blanks. -/
  | kind
  /-- A place between characters. -/
  | place
deriving DecidableEq, Repr

/-- The number of hexadecimal digits behind a letter that announces a code point. -/
def codePointWidth? (letter : Char) : Option Nat :=
  if letter = 'x' then some 2
  else if letter = 'u' then some 4
  else if letter = 'U' then some 8
  else none

/-- The control characters that have a letter. -/
def controls : List (Char × Char) :=
  [('a', '\x07'), ('f', '\x0c'), ('t', '\t'), ('n', '\n'), ('r', '\r'), ('v', '\x0b')]

/-- An escape, behind its backslash. A letter or a digit has to have a meaning; any other character
of ASCII stands for itself. -/
def readEscape (mode : Mode) : Text.Reader Escape
  | [] => none
  | letter :: rest =>
    match codePointWidth? letter, controls.lookup letter with
    | some width, _ =>
      if rest.length < width then none
      else do
        let c ← Text.codePoint? (rest.take width)
        if letter = 'x' ∧ mode.refuses c then none else some (.character c, rest.drop width)
    | none, some c => some (.character c, rest)
    | none, none =>
      if letter = 'A' ∨ letter = 'z' then some (.place, rest)
      else if "bB<>".contains letter then if mode.ascii then some (.place, rest) else none
      else if "dsw".contains letter then if mode.ascii then some (.kind, rest) else none
      else if letter.isAlphanum ∨ 0x7F < letter.toNat then none
      else some (.character letter, rest)

/-! Classes -/

/-- The names of classes within brackets. -/
def classNames : List String :=
  ["alnum", "alpha", "ascii", "blank", "cntrl", "digit", "graph", "lower", "print", "punct",
    "space", "upper", "word", "xdigit"]

/-- The text behind the name of a class between colons and the bracket that closes it, if it begins
with one behind the opening bracket. A circumflex before the name takes the other characters. -/
def afterClassName? : (text : List Char) → Option (List Char)
  | ':' :: rest =>
    let rest := match rest with
      | '^' :: rest => rest
      | _ => rest
    classNames.findSome? fun name =>
      let closed := name.toList ++ [':', ']']
      if closed.isPrefixOf rest then some (rest.drop closed.length) else none
  | _ => none

/-- One item of a class: the character that it is, if it is one. -/
def readItem (mode : Mode) : Text.Reader (Option Char)
  | [] => none
  | '\\' :: rest =>
    match readEscape mode rest with
    | some (.character c, rest) => if mode.refuses c then none else some (some c, rest)
    | some (.kind, rest) => some (none, rest)
    | some (.place, _) | none => none
  | c :: rest => if mode.refuses c then none else some (some c, rest)

/-- The text behind an item of a class or behind a range from a character to one that is not before
it. A minus sign makes no range before a closing bracket or another minus sign. -/
def afterMember? (mode : Mode) (text : List Char) : Option (List Char) := do
  let (first, rest) ← readItem mode text
  match mode.skip rest with
  | '-' :: more =>
    match mode.skip more with
    | ']' :: _ | '-' :: _ => return '-' :: more
    | more =>
      let (last, rest) ← readItem mode more
      match first, last with
      | some a, some b => if a ≤ b then return rest else none
      | _, _ => none
  | rest => return rest

/-- The text behind what has a meaning of its own only at the beginning of a class: a circumflex,
then minus signs, or else a closing bracket as a member. -/
def afterClassStart? (mode : Mode) (text : List Char) : Option (List Char) :=
  let members (text : List Char) : List Char :=
    match mode.skip text with
    | ']' :: rest => rest
    | '-' :: rest => rest.dropWhile (· = '-')
    | rest => rest
  match mode.skip text with
  | '^' :: rest => if mode.ascii then none else some (members rest)
  | rest => some (members rest)

/-- The text behind a class, behind its start, with a number of classes open inside of it. Every
step takes a character, so the length of the text is fuel enough. -/
def afterClass? (mode : Mode) : (fuel : Nat) → (inside : Nat) → List Char → Option (List Char)
  | 0, _, _ => none
  | fuel + 1, inside, text =>
    match mode.skip text with
    | [] => none
    | ']' :: rest =>
      match inside with
      | 0 => some rest
      | inside + 1 => afterClass? mode fuel inside rest
    | '[' :: rest =>
      match afterClassName? rest with
      | some rest => afterClass? mode fuel inside rest
      | none => (afterClassStart? mode rest).bind (afterClass? mode fuel (inside + 1))
    | '&' :: '&' :: rest | '-' :: '-' :: rest | '~' :: '~' :: rest =>
      afterClass? mode fuel inside rest
    | rest => (afterMember? mode rest).bind (afterClass? mode fuel inside)

/-! Groups -/

/-- The flags up to a colon or a closing bracket, which stays, and the mode they make. Every flag
stands once; those behind a minus sign are taken away. -/
def readFlags (mode : Mode) (seen : List Char) : Text.Reader Mode
  | [] => none
  | c :: rest =>
    if c = ':' ∨ c = ')' then if seen.head? = some '-' then none else some (mode, c :: rest)
    else if seen.contains c then none
    else if c = '-' then readFlags mode (c :: seen) rest
    else (mode.withFlag c (!seen.contains '-')).bind fun mode => readFlags mode (c :: seen) rest

/-- Whether a character may stand in the name of a group. -/
def isNameCharacter (isFirst : Bool) (c : Char) : Bool :=
  c = '_' || Text.isAlphanumeric c && !(isFirst && c.isDigit) ||
    !isFirst && (c = '.' || c = '[' || c = ']')

/-- The name of a group, with what ends it taken away. -/
def readName (text : List Char) : Option (List Char × List Char) :=
  match text.takeWhile (· ≠ '>'), text.dropWhile (· ≠ '>') with
  | first :: others, _ :: rest =>
    if isNameCharacter true first && others.all (isNameCharacter false) then
      some (first :: others, rest)
    else none
  | _, _ => none

/-! Patterns -/

/-- What a reader knows in the midst of a pattern. -/
structure Reading where
  mode : Mode
  /-- The modes around the open groups, from the inside out. -/
  around : List Mode
  /-- The names of the groups so far. -/
  names : List (List Char)
  /-- Whether there is a part that a repetition can apply to. -/
  hasPart : Bool

namespace Reading

/-- The reader before a pattern. -/
def start : Reading := ⟨.initial, [], [], false⟩

/-- The reader behind a part. -/
def withPart (r : Reading) : Reading :=
  { r with hasPart := true }

/-- The reader inside a group. -/
def within (r : Reading) (mode : Mode) : Reading :=
  { r with mode := mode, around := r.mode :: r.around, hasPart := false }

/-- The reader behind the opening of a group that has a name. Every name is given once. -/
def openNamed (r : Reading) (text : List Char) : Option (Reading × List Char) := do
  let (name, rest) ← readName text
  if r.names.contains name then none
  else some ({ r.within r.mode with names := name :: r.names }, rest)

/-- The reader behind the opening bracket of a group and its flags or its name. Flags in brackets of
their own hold to the end of the group around them. -/
def openGroup (r : Reading) : (text : List Char) → Option (Reading × List Char)
  | '?' :: 'P' :: '<' :: rest => r.openNamed rest
  | '?' :: '<' :: rest => r.openNamed rest
  | '?' :: ')' :: _ => none
  | '?' :: rest => do
    match ← readFlags r.mode [] rest with
    | (mode, ')' :: rest) => return ({ r with mode := mode, hasPart := false }, rest)
    | (mode, rest) => return (r.within mode, rest.tail)
  | rest => some (r.within r.mode, rest)

/-- The reader behind the character that the rest of a pattern begins with, and what belongs to
it. -/
def next (r : Reading) (c : Char) (rest : List Char) : Option (Reading × List Char) :=
  if c = '(' then r.openGroup (r.mode.skip rest)
  else if c = ')' then
    match r.around with
    | [] => none
    | mode :: around => some ({ r.withPart with mode := mode, around := around }, rest)
  else if c = '|' then some ({ r with hasPart := false }, rest)
  else if c = '*' ∨ c = '+' ∨ c = '?' then
    if r.hasPart then some (r, if rest.head? = some '?' then rest.tail else rest) else none
  else if c = '\x7b' then none
  else if c = '.' then if r.mode.ascii then none else some (r.withPart, rest)
  else if c = '^' ∨ c = '$' then some (r.withPart, rest)
  else if c = '\\' then
    match readEscape r.mode rest with
    | some (.character _, rest) => if r.mode.needsCases then none else some (r.withPart, rest)
    | some (_, rest) => some (r.withPart, rest)
    | none => none
  else if r.mode.needsCases then none
  else if c = '[' then
    (afterClassStart? r.mode rest).bind fun text =>
      (afterClass? r.mode (text.length + 1) 0 text).map fun rest => (r.withPart, rest)
  else some (r.withPart, rest)

/-- Whether the rest of a text completes a pattern. Every step takes a character, so the length of
the text is fuel enough. -/
def completes : (fuel : Nat) → Reading → List Char → Bool
  | 0, _, _ => false
  | fuel + 1, r, text =>
    match r.mode.skip text with
    | [] => r.around = []
    | c :: rest =>
      match r.next c rest with
      | some (r, rest) => completes fuel r rest
      | none => false

end Reading

/-- Whether a text is a pattern. -/
def isValid (text : List Char) : Bool :=
  Reading.start.completes (text.length + 1) text

end Resumption.Pattern
