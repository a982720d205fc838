import Resumption.Limits
import Resumption.Wire.Octets

/-!
The number a ticket is issued under: a signed word, written in eight little-endian bytes. Sums that
would leave the range of the word stop at its ends.
-/

namespace Resumption

/-- The number a ticket is issued under. -/
abbrev Index := Int64

namespace Index

/-- The largest index, which is never issued. -/
def last : Index := Int64.maxValue

/-- The integer held at the ends of the range of an index. -/
def clamp (n : Int) : Index :=
  Int64.ofInt (max minInteger (min n maxInteger))

/-- The index as an integer written in decimal. -/
def text (i : Index) : String :=
  toString i.toInt

/-- The eight bytes of an index on the wire. -/
def toOctets (i : Index) : Octets 8 :=
  ⟨Bytes.littleEndian 8 i.toUInt64.toNat, by simp⟩

/-- The index that eight bytes of the wire give. -/
def ofOctets (bytes : Octets 8) : Index :=
  (UInt64.ofNat (Bytes.ofLittleEndian bytes.toList)).toInt64

theorem toInt_clamp (n : Int) : (clamp n).toInt = max minInteger (min n maxInteger) := by
  unfold clamp minInteger maxInteger
  rw [Int64.toInt_ofInt_of_le] <;> omega

theorem ofOctets_toOctets (i : Index) : ofOctets (toOctets i) = i := by
  have bound := i.toUInt64.toNat_lt
  simp [ofOctets, toOctets, Bytes.ofLittleEndian_littleEndian, Nat.mod_eq_of_lt bound]

theorem toOctets_inj {i j : Index} : toOctets i = toOctets j ↔ i = j := by
  refine ⟨fun same => ?_, congrArg toOctets⟩
  rw [← ofOctets_toOctets i, same, ofOctets_toOctets]

theorem toOctets_ofOctets (bytes : Octets 8) : toOctets (ofOctets bytes) = bytes := by
  have bound := Bytes.ofLittleEndian_lt bytes.toList
  have back := Bytes.littleEndian_ofLittleEndian bytes.toList
  rw [bytes.length_toList] at bound back
  apply Octets.ext
  simp only [toOctets, ofOctets, UInt64.toUInt64_toInt64, UInt64.toNat_ofNat']
  rw [Nat.mod_eq_of_lt (by omega)]
  exact back

end Index
end Resumption
