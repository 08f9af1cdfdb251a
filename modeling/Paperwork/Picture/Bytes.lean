/-
Numbers written in bytes.
-/
namespace Paperwork.Picture

/-- The number that bytes spell, the first being the most significant. -/
def bigEndian (bytes : List UInt8) : Nat := bytes.foldl (fun n byte => n * 256 + byte.toNat) 0

/-- The number that bytes spell, the first being the least significant. -/
def littleEndian (bytes : List UInt8) : Nat := bytes.foldr (fun byte n => n * 256 + byte.toNat) 0

/-- The first `count` bytes, if there are as many. -/
def take? (count : Nat) (bytes : List UInt8) : Option (List UInt8) :=
  if bytes.length < count then none else some (bytes.take count)

/-- The number in the first `count` bytes, the first being the most significant. -/
def bigEndian? (count : Nat) (bytes : List UInt8) : Option Nat := (take? count bytes).map bigEndian

/-- The number in the first `count` bytes, the first being the least significant. -/
def littleEndian? (count : Nat) (bytes : List UInt8) : Option Nat :=
  (take? count bytes).map littleEndian

/-- Which of the bytes of a number comes first. -/
inductive ByteOrder
  | mostFirst
  | leastFirst
  deriving DecidableEq, Repr

/-- The number in the first `count` bytes. -/
def ByteOrder.number? : ByteOrder → Nat → List UInt8 → Option Nat
  | mostFirst => bigEndian?
  | leastFirst => littleEndian?

/-- The bytes of a text in ASCII. -/
def ascii (text : String) : List UInt8 := text.toList.map fun c => UInt8.ofNat c.toNat

end Paperwork.Picture
