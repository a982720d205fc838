import Resumption.Settings.Pattern
import Resumption.Text.Alphanumeric
import Resumption.Text.Blank
import Resumption.Text.Pieces

/-!
Log filters in two readings. A filter reader splits a filter at its commas and walks through each
piece character by character; what it finds is a level, or a target with a level. A target may end
in brackets with the name of a span and, in braces, a field that the span has to have. The check
that settings go through is stricter in that every piece has to name a level, and laxer about blanks
around it; a setting has to pass both.
-/

namespace Resumption.LogFilter

/-- How much a filter lets through, from nothing to everything. -/
inductive Level
  | off
  | error
  | warn
  | info
  | debug
  | trace
deriving DecidableEq, Repr

namespace Level

def all : List Level :=
  [off, error, warn, info, debug, trace]

def name : Level → String
  | off => "off"
  | error => "error"
  | warn => "warn"
  | info => "info"
  | debug => "debug"
  | trace => "trace"

/-- The level that a text names, without regard to case. No letter outside of ASCII is another case
of a letter of these names. -/
def ofName? (text : List Char) : Option Level :=
  all.find? fun level => level.name.toList = text.map Char.toLower

/-- The number that decimal digits give after an optional plus sign. -/
def number? (text : List Char) : Option Nat :=
  let digits := match text with
    | '+' :: rest => rest
    | _ => text
  if digits ≠ [] ∧ digits.all Char.isDigit then
    some (digits.foldl (fun n c => 10 * n + (c.toNat - 48)) 0)
  else none

/-- The level that a text gives to a filter reader: a name, or its number from zero for `off` to
five for `trace`. -/
def ofText? (text : List Char) : Option Level :=
  (ofName? text).or ((number? text).bind (all[·]?))

end Level

/-- The pieces between the commas of a filter. -/
def pieces (filter : String) : List (List Char) :=
  Text.pieces ',' filter.toList

/-! Fields -/

/-- Whether a text is an exponent of a number, or empty. -/
def isExponent : List Char → Bool
  | [] => true
  | mark :: rest =>
    let digits := match rest with
      | '+' :: digits | '-' :: digits => digits
      | digits => digits
    (mark = 'e' || mark = 'E') && digits ≠ [] && digits.all Char.isDigit

/-- Whether a text is a number: digits with a sign, a point and an exponent as they are wanted, an
infinity, or no number. -/
def isNumber (text : List Char) : Bool :=
  let unsigned := match text with
    | '+' :: rest | '-' :: rest => rest
    | _ => text
  let whole := unsigned.takeWhile Char.isDigit
  let (part, rest) := match unsigned.dropWhile Char.isDigit with
    | '.' :: rest => (rest.takeWhile Char.isDigit, rest.dropWhile Char.isDigit)
    | rest => ([], rest)
  ["inf", "infinity", "nan"].contains (String.ofList (unsigned.map Char.toLower)) ||
    (whole ++ part ≠ [] && isExponent rest)

/-- Whether a text asks for a field: by a name, or by a name and a value behind an equals sign. The
value is a number or a pattern, and a second equals sign ends it. -/
def isField (text : List Char) : Bool :=
  match Text.pieces '=' text with
  | _ :: value :: _ => isNumber value || Pattern.isValid value
  | _ => text ≠ []

/-! Pieces -/

/-- The text behind the first `count` bytes, if a character ends there. -/
def dropBytes : (count : Nat) → List Char → Option (List Char)
  | 0, text => some text
  | _ + 1, [] => none
  | count + 1, c :: rest =>
    if c.utf8Size ≤ count + 1 then dropBytes (count + 1 - c.utf8Size) rest else none

/-- The first `count` bytes of a text, if a character ends there. -/
def takeBytes : (count : Nat) → List Char → Option (List Char)
  | 0, _ => some []
  | _ + 1, [] => none
  | count + 1, c :: rest =>
    if c.utf8Size ≤ count + 1 then (takeBytes (count + 1 - c.utf8Size) rest).map (c :: ·)
    else none

/-- Where the reader is within a piece. A position counts bytes of the piece without the blanks
around it. -/
inductive Walk
  | start
  | levelOrTarget
  /-- Inside the brackets around a span's name. -/
  | span
  /-- Inside the braces around a field, which begins at the position. -/
  | field (position : Nat)
  /-- Behind the braces. -/
  | fields
  /-- Behind the brackets. -/
  | target
  /-- Behind the equals sign, which ends at the position. -/
  | level (position : Nat)
deriving DecidableEq, Repr

/-- Whether a piece may begin with the character. -/
def canBegin (c : Char) : Bool :=
  c = '-' || c = ':' || c = '_' || Text.isAlphanumeric c

/-- Whether the bytes of a piece from one position up to another ask for a field. -/
def holdsField (piece : List Char) (start stop : Nat) : Bool :=
  ((dropBytes start piece).bind (takeBytes (stop - start))).any isField

/-- One step of the reader of a piece over a character that ends at the position. Positions count
without the blanks around the piece, but the text of a field is taken from the piece with its
blanks. -/
def Walk.next (piece : List Char) (walk : Walk) (c : Char) (stop : Nat) : Option Walk :=
  match walk with
  | start => if c = '[' then some span else if canBegin c then some levelOrTarget else none
  | levelOrTarget =>
    some (if c = '=' then level stop else if c = '[' then span else levelOrTarget)
  | span => some (if c = ']' then target else if c = '\x7b' then field stop else span)
  | field position =>
    if c ≠ '\x7d' then some (field position)
    else if holdsField piece position (stop - 1) then some fields
    else none
  | fields => if c = ']' then some target else none
  | target => if c = '=' then some (level stop) else none
  | level position => some (level position)

/-- The reader's walk over a text of a piece from a position on. -/
def Walk.over (piece : List Char) (walk : Walk) : (text : List Char) → (position : Nat) →
    Option Walk
  | [], _ => some walk
  | c :: rest, position =>
    (walk.next piece c (position + c.utf8Size)).bind
      (Walk.over piece · rest (position + c.utf8Size))

/-- What a piece of a filter asks for. -/
inductive Directive
  /-- A level for everything. -/
  | level (level : Level)
  /-- A level for what a target selects. -/
  | selected (level : Level)
deriving DecidableEq, Repr

/-- What a reader takes from one piece. A piece that is no level is a target, and a target without
a level, or with nothing behind its equals sign, is let through entirely. The level behind an equals
sign is looked up in the piece with its blanks, at the position counted without them. -/
def readPiece (piece : List Char) : Option Directive :=
  match Walk.over piece .start (Text.trim piece) 0 with
  | some .levelOrTarget =>
    match Level.ofText? piece with
    | some level => some (.level level)
    | none => some (.selected .trace)
  | some .target => some (.selected .trace)
  | some (.level position) =>
    match dropBytes position piece with
    | some [] => some (.selected .trace)
    | some text => (Level.ofText? text).map .selected
    | none => none
  | some .start | some .span | some (.field _) | some .fields | none => none

/-- What a reader takes from a filter: the directives of its pieces, empty ones left out. -/
def read (filter : String) : Option (List Directive) :=
  ((pieces filter).filter (· ≠ [])).mapM readPiece

/-- The text before and behind the last equals sign. -/
def splitLast (piece : List Char) : Option (List Char × List Char) :=
  match piece.reverse.dropWhile (· ≠ '=') with
  | [] => none
  | _ :: before => some (before.reverse, (piece.reverse.takeWhile (· ≠ '=')).reverse)

/-- The level that the check sees in a piece: the piece, or what follows its last equals sign if
there is a target before it. -/
def checkPiece (piece : List Char) : Option Level :=
  match splitLast piece with
  | none => Level.ofName? (Text.trim piece)
  | some (target, level) =>
    if Text.trim target = [] then none else Level.ofName? (Text.trim level)

/-- The levels that the check sees, if there is one in every piece. -/
def check (filter : String) : Option (List Level) :=
  (pieces filter).mapM checkPiece

/-- Whether a filter is a valid setting. -/
def isValid (filter : String) : Bool :=
  (check filter).isSome && (read filter).isSome

end Resumption.LogFilter
