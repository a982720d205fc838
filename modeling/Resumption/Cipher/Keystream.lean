import Resumption.Wire.Octets

/-!
The stream cipher: a key, a nonce and a block number give 64 bytes, and consecutive blocks give a
stream that is added to a text bit by bit. Adding the same stream twice gives the text back.
-/

namespace Resumption.Cipher

/-- Four words: one line of the square that a block is mixed in. -/
structure Line where
  a : UInt32
  b : UInt32
  c : UInt32
  d : UInt32

namespace Line

/-- The line from four words in a list. -/
def ofList (words : List UInt32) : Line :=
  ⟨words.getD 0 0, words.getD 1 0, words.getD 2 0, words.getD 3 0⟩

def toList (x : Line) : List UInt32 :=
  [x.a, x.b, x.c, x.d]

/-- The word-wise sum. -/
def add (x y : Line) : Line :=
  ⟨x.a + y.a, x.b + y.b, x.c + y.c, x.d + y.d⟩

/-- A word with its bits turned left by fewer than 32 places. -/
def turnWord (places : UInt32) (x : UInt32) : UInt32 :=
  x <<< places ||| x >>> (32 - places)

/-- The exclusive sum of two lines, each word turned left. -/
def xorTurn (places : UInt32) (x y : Line) : Line :=
  ⟨turnWord places (x.a ^^^ y.a), turnWord places (x.b ^^^ y.b),
    turnWord places (x.c ^^^ y.c), turnWord places (x.d ^^^ y.d)⟩

/-- The line moved by one place to the left, the first word last. -/
def shift (x : Line) : Line :=
  ⟨x.b, x.c, x.d, x.a⟩

end Line

/-- The sixteen words of a block in four lines. -/
structure Square where
  first : Line
  second : Line
  third : Line
  fourth : Line

namespace Square

/-- Mixes the four words of every column. -/
def mixColumns (s : Square) : Square :=
  let first := s.first.add s.second
  let fourth := s.fourth.xorTurn 16 first
  let third := s.third.add fourth
  let second := s.second.xorTurn 12 third
  let first := first.add second
  let fourth := fourth.xorTurn 8 first
  let third := third.add fourth
  ⟨first, second.xorTurn 7 third, third, fourth⟩

/-- Mixes the columns, then the diagonals. -/
def mix (s : Square) : Square :=
  let s := s.mixColumns
  let s := mixColumns ⟨s.first, s.second.shift, s.third.shift.shift, s.fourth.shift.shift.shift⟩
  ⟨s.first, s.second.shift.shift.shift, s.third.shift.shift, s.fourth.shift⟩

/-- The line-wise sum. -/
def add (s t : Square) : Square :=
  ⟨s.first.add t.first, s.second.add t.second, s.third.add t.third, s.fourth.add t.fourth⟩

def toList (s : Square) : List UInt32 :=
  s.first.toList ++ s.second.toList ++ s.third.toList ++ s.fourth.toList

end Square

/-- The little-endian words of a byte string, up to the given number. -/
def words : (count : Nat) → Bytes → List UInt32
  | 0, _ => []
  | count + 1, bytes =>
    UInt32.ofNat (Bytes.ofLittleEndian (bytes.take 4)) :: words count (bytes.drop 4)

/-- The block before any mixing: four fixed words, the key, the block's number and the nonce. -/
def startOf (key : Octets 32) (nonce : Octets 12) (number : UInt32) : Square where
  first := ⟨0x61707865, 0x3320646E, 0x79622D32, 0x6B206574⟩
  second := Line.ofList (words 4 key.toList)
  third := Line.ofList (words 4 (key.toList.drop 16))
  fourth := Line.ofList (number :: words 3 nonce.toList)

/-- The 64 bytes of a block: ten mixings of its start, added to the start. -/
def block (key : Octets 32) (nonce : Octets 12) (number : UInt32) : Bytes :=
  let start := startOf key nonce number
  let mixed := (List.range 10).foldl (fun s _ => s.mix) start
  (mixed.add start).toList.flatMap fun word => Bytes.littleEndian 4 word.toNat

/-- The bytes of `count` consecutive blocks. -/
def keystream (key : Octets 32) (nonce : Octets 12) (number : UInt32) (count : Nat) : Bytes :=
  (List.range count).flatMap fun k => block key nonce (number + UInt32.ofNat k)

/-- The text with the stream added, the stream beginning at the block after the first. -/
def applyStream (key : Octets 32) (nonce : Octets 12) (text : Bytes) : Bytes :=
  List.zipWith (· ^^^ ·) text (keystream key nonce 1 ((text.length + 63) / 64))

theorem length_block (key : Octets 32) (nonce : Octets 12) (number : UInt32) :
    (block key nonce number).length = 64 := by
  simp [block, Square.toList, Line.toList]

theorem length_keystream (key : Octets 32) (nonce : Octets 12) (number : UInt32) (count : Nat) :
    (keystream key nonce number count).length = 64 * count := by
  have same : (List.range count).map (fun _ => 64) = List.replicate count 64 := by
    rw [List.map_const', List.length_range]
  simp only [keystream, List.length_flatMap, length_block, same, List.sum_replicate_nat]
  exact Nat.mul_comm ..

theorem length_applyStream (key : Octets 32) (nonce : Octets 12) (text : Bytes) :
    (applyStream key nonce text).length = text.length := by
  simp only [applyStream, List.length_zipWith, length_keystream]
  omega

end Resumption.Cipher
