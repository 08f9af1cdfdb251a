/-
The header of a BMP picture.

It stands behind the fourteen bytes of the file's own header and begins with its
length.  A compact header writes sizes in two bytes, all others in four.
-/
import Paperwork.Picture.Bytes
import Paperwork.Picture.Measures

namespace Paperwork.Picture.Bmp

/-- What every picture begins with. -/
def signature : List UInt8 := ascii "BM"

/-! ### Measuring -/

/-- The resolution of pictures that tell none. -/
def screenResolution : Nat := 96

/-- The resolution of so many pixels per meter. -/
def resolution (perMeter : Nat) : Nat := if perMeter = 0 then screenResolution else perInch perMeter

/-- The measures of a picture, whose header is taken for a long one. -/
def measures (bytes : List UInt8) : Except MeasureError Measures := do
  let word (place : Nat) := told (littleEndian? 4 (bytes.drop place))
  return ⟨← word 18, ← word 22, resolution (← word 38), resolution (← word 42)⟩

/-! ### Reading with care -/

/-- What a header declares about pixels: the bits of each, how they are packed, and how
many colours there are if they are numbered. -/
structure Header where
  length : Nat
  width : Nat
  height : Nat
  depth : Nat
  packing : Nat
  colours : Nat

/-- A header that is understood.  Lines from top to bottom are declared by a height below
zero. -/
def header? (bytes : List UInt8) : Option Header := do
  let number (count place : Nat) := littleEndian? count (bytes.drop place)
  let length ← number 4 14
  let _ ← take? (length - 4) (bytes.drop 18)
  if length = 12 then
    let depth ← number 2 24
    return ⟨length, ← number 2 18, ← number 2 20, depth, 0, Nat.pow 2 depth⟩
  else if [40, 52, 56, 64, 108, 124].contains length then
    let height ← number 4 22
    let depth ← number 2 28
    let colours ← number 4 46
    return {
      length
      width := ← number 4 18
      height := if bytes[25]? = some 0xFF then 0x100000000 - height else height
      depth
      packing := ← number 4 30
      colours := if colours = 0 then Nat.pow 2 depth else colours }
  else none

/-- The masks of red, green, blue and opacity.  Short headers have none for opacity. -/
def masks? (length : Nat) (bytes : List UInt8) : Option (List Nat) := do
  let mask (place : Nat) := littleEndian? 4 (bytes.drop place)
  return [← mask 54, ← mask 58, ← mask 62, ← if length < 56 then some 0 else mask 66]

/-- Whether masks are known for a depth. -/
def areKnown (masks : List Nat) : Nat → Bool
  | 16 => [[0xF800, 0x7E0, 0x1F], [0x7C00, 0x3E0, 0x1F]].contains (masks.take 3)
  | 24 => masks.take 3 == [0xFF0000, 0xFF00, 0xFF]
  | 32 =>
    [[0xFF0000, 0xFF00, 0xFF, 0], [0xFF000000, 0xFF0000, 0xFF00, 0], [0xFF000000, 0xFF00, 0xFF, 0],
      [0xFF000000, 0xFF0000, 0xFF00, 0xFF], [0xFF, 0xFF00, 0xFF0000, 0xFF000000],
      [0xFF0000, 0xFF00, 0xFF, 0xFF000000], [0xFF000000, 0xFF00, 0xFF, 0xFF0000],
      [0, 0, 0, 0]].contains masks
  | _ => false

/-- Whether pixels are packed in a known way: plain, by runs, or by masks. -/
def Header.isUnpackable (header : Header) (bytes : List UInt8) : Bool :=
  match header.packing with
  | 0 | 1 | 2 => true
  | 3 =>
    match masks? header.length bytes with
    | some masks => areKnown masks header.depth
    | none => false
  | _ => false

/-- Whether there are bits enough for a pixel and not too many colours to number. -/
def Header.isColoured (header : Header) : Bool :=
  match header.depth with
  | 1 | 4 | 8 => header.colours ≤ 65536
  | 16 | 24 | 32 => true
  | _ => false

/-- The size of a picture that can be shown. -/
def declaredSize? (bytes : List UInt8) : Option (Nat × Nat) := do
  let header ← header? bytes
  if header.isColoured && header.isUnpackable bytes && 0 < header.width && 0 < header.height then
    some (header.width, header.height)
  else none

end Paperwork.Picture.Bmp
