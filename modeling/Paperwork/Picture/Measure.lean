/-
How large a picture is.

A word processor takes the size in pixels and the resolution from the head of a
picture and does not look at the rest.  A printer shows only pictures that are sound
and not too large, and knows no resolution.
-/
import Paperwork.Picture.Bmp
import Paperwork.Picture.Gif
import Paperwork.Picture.Jpeg
import Paperwork.Picture.Png

namespace Paperwork.Picture

/-! ### Measuring -/

/-- The resolution that a density chunk tells: pixels per unit, the unit being a meter
if it is known at all. -/
def resolution (perUnit unit : Nat) : Nat :=
  if unit = 1 ∧ perUnit ≠ 0 then perInch perUnit else usualResolution

/-- The measures of a PNG picture. -/
def measurePng (bytes : List UInt8) : Except MeasureError Measures := do
  let chunks ←
    match Png.chunks? (bytes.drop Png.signature.length) with
    | .ok chunks => pure chunks
    | .error .truncated => throw .truncated
    | .error .unreadableName => throw .unreadableText
  let word (place : Nat) (chunk : Png.Chunk) := told (bigEndian? 4 (chunk.rest.drop place))
  match chunks.find? fun chunk => chunk.name = ascii "IHDR" with
  | none => throw .noHeader
  | some header =>
    let width ← word 0 header
    let height ← word 4 header
    match chunks.find? fun chunk => chunk.name = ascii "pHYs" with
    | none => return ⟨width, height, usualResolution, usualResolution⟩
    | some density =>
      let unit := ((density.rest[8]?).map UInt8.toNat).getD 0
      return ⟨width, height, resolution (← word 0 density) unit,
        resolution (← word 4 density) unit⟩

/-- The measures of a GIF picture. -/
def measureGif (bytes : List UInt8) : Except MeasureError Measures :=
  match Gif.screen? bytes with
  | some (width, height) => .ok ⟨width, height, usualResolution, usualResolution⟩
  | none => .error .shortHeader

/-- The measures of a picture. -/
def measure (bytes : List UInt8) : Except MeasureError Measures :=
  if Png.signature.isPrefixOf bytes then measurePng bytes
  else
    match Jpeg.convention? bytes with
    | some convention => Jpeg.measures convention bytes
    | none =>
      if Gif.isSigned bytes then measureGif bytes
      else if Tiff.isSigned bytes then Tiff.measures bytes
      else if Bmp.signature.isPrefixOf bytes then Bmp.measures bytes
      else .error .unrecognized

/-! ### Showing -/

/-- Why a picture is not shown. -/
inductive ShowError
  | unreadable
  | tooManyPixels (width height : Nat)
  deriving DecidableEq, Repr

/-- The most pixels of a picture that is shown. -/
def mostPixels : Nat := 178956970

/-- The size that a picture declares, if it is sound. -/
def declaredSize? (bytes : List UInt8) : Option (Nat × Nat) :=
  if Png.signature.isPrefixOf bytes then Png.declaredSize? bytes
  else if Gif.isSigned bytes then Gif.declaredSize? bytes
  else if Jpeg.signature.isPrefixOf bytes then Jpeg.declaredSize? bytes
  else if Bmp.signature.isPrefixOf bytes then Bmp.declaredSize? bytes
  else none

/-- The size in pixels of a picture that is shown. -/
def shownSize (bytes : List UInt8) : Except ShowError (Nat × Nat) :=
  match declaredSize? bytes with
  | none => .error .unreadable
  | some (width, height) =>
    if mostPixels < width * height then .error (.tooManyPixels width height)
    else .ok (width, height)

end Paperwork.Picture
