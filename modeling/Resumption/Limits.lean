/-!
The sizes the wire format and the service are built on, and the ends of the ranges of words.
-/

namespace Resumption

/-- The authentication tag at the end of every sealed text. -/
def tagSize : Nat := 16

/-- The type byte and the flag byte in front of every packet. -/
def headerSize : Nat := 2

/-- A public or symmetric key. -/
def keySize : Nat := 32

/-- What an envelope takes besides its sealed bytes: format byte, index, host data and length. -/
def envelopeOverhead : Nat := 19

/-- The most sealed bytes that the two-byte length of an envelope can describe. -/
def maxSealed : Nat := 65535

/-- The most indices that a window tracks. -/
def maxCapacity : Nat := 16777216

/-- The length field in front of every frame. -/
def frameHeaderSize : Nat := 4

/-- The most bytes a frame carries unless another limit is chosen. -/
def defaultFrameLimit : Nat := 65535

/-- The most bytes that the four-byte length of a frame can describe. -/
def maxFrameLimit : Nat := 4294967295

/-- The largest word of 64 bits. -/
def maxWord : Nat := 18446744073709551615

/-- The least integer that a word of 64 bits holds as a signed number. -/
def minInteger : Int := -9223372036854775808

/-- The greatest integer that a word of 64 bits holds as a signed number. -/
def maxInteger : Int := 9223372036854775807

end Resumption
