/-
The cyclic redundancy check of 32 bits, as pictures use it.

Bits go in with the least significant one first; the register starts with all bits set
and its complement is the checksum.
-/
namespace Paperwork.Picture

/-- One bit shifted out of the register. -/
def shiftBit (register : UInt32) : UInt32 :=
  if register &&& 1 = 1 then (register >>> 1) ^^^ 0xEDB88320 else register >>> 1

/-- One byte taken into the register. -/
def takeByte (register : UInt32) (byte : UInt8) : UInt32 :=
  Nat.repeat shiftBit 8 (register ^^^ byte.toUInt32)

/-- The checksum of bytes. -/
def checksum (bytes : List UInt8) : UInt32 := bytes.foldl takeByte 0xFFFFFFFF ^^^ 0xFFFFFFFF

end Paperwork.Picture
