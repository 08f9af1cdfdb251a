/-
The size of a GIF picture.

The screen size stands right behind the signature.  A reader that wants to show the
picture also looks for its first frame, which may reach beyond the screen.
-/
import Paperwork.Picture.Bytes

namespace Paperwork.Picture.Gif

/-- What pictures begin with. -/
def signatures : List (List UInt8) := [ascii "GIF87a", ascii "GIF89a"]

/-- Whether bytes begin as a picture does. -/
def isSigned (bytes : List UInt8) : Bool := signatures.contains (bytes.take 6)

/-- The size of the screen. -/
def screen? (bytes : List UInt8) : Option (Nat × Nat) := do
  let width ← littleEndian? 2 (bytes.drop 6)
  let height ← littleEndian? 2 (bytes.drop 8)
  return (width, height)

/-- The number of bytes of the palette that flags announce. -/
def paletteLength (flags : UInt8) : Nat :=
  if flags &&& 128 = 0 then 0 else 3 * Nat.pow 2 ((flags &&& 7).toNat + 1)

/-- What follows the blocks of an extension, `skip` bytes of the first one being left.
Each block begins with its length, and an empty one is the last. -/
def afterBlocks : Nat → List UInt8 → List UInt8
  | _, [] => []
  | skip + 1, _ :: rest => afterBlocks skip rest
  | 0, length :: rest => if length = 0 then rest else afterBlocks length.toNat rest

theorem afterBlocks_length (skip : Nat) (bytes : List UInt8) :
    (afterBlocks skip bytes).length ≤ bytes.length := by
  fun_induction afterBlocks skip bytes <;> simp <;> omega

/-- The right and lower ends of a frame, whose description begins the bytes and whose
data has to begin behind it. -/
def frameEnds? (bytes : List UInt8) : Option (Nat × Nat) := do
  let left ← littleEndian? 2 bytes
  let top ← littleEndian? 2 (bytes.drop 2)
  let width ← littleEndian? 2 (bytes.drop 4)
  let height ← littleEndian? 2 (bytes.drop 6)
  let flags ← bytes[8]?
  let _ ← bytes[9 + paletteLength flags]?
  return (left + width, top + height)

/-- The right and lower ends of the first frame. -/
def firstFrameEnds? : List UInt8 → Option (Nat × Nat)
  | [] => none
  | [mark] => if mark = 0x2C then frameEnds? [] else none
  | mark :: label :: rest =>
    if mark = 0x21 then firstFrameEnds? (afterBlocks 0 rest)
    else if mark = 0x2C then frameEnds? (label :: rest)
    else if mark = 0x3B then none
    else firstFrameEnds? (label :: rest)
termination_by bytes => bytes.length
decreasing_by
  · have := afterBlocks_length 0 rest
    simp only [List.length_cons]
    omega
  · simp

/-- The size of a picture that can be shown. -/
def declaredSize? (bytes : List UInt8) : Option (Nat × Nat) := do
  let (width, height) ← screen? bytes
  let flags ← bytes[10]?
  let _ ← bytes[12]?
  let (right, bottom) ← firstFrameEnds? (bytes.drop (13 + paletteLength flags))
  let (width, height) := (max width right, max height bottom)
  if 0 < width ∧ 0 < height then some (width, height) else none

end Paperwork.Picture.Gif
