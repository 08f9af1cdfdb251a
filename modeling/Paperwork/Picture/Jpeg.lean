/-
The markers of a JPEG picture.

A marker is a byte with all bits set and then a code, and most are followed by a segment
that begins with its length.  Bytes between segments are passed over.  There are two
readings of the markers up to the scan: `parts` takes size and resolution from them as
they come, `lastFrame?` checks what a picture that is to be shown must have.
-/
import Paperwork.Picture.Tiff

namespace Paperwork.Picture.Jpeg

/-! ### Markers -/

/-- The code of the first marker and all that follows it.  Bytes with all bits set may be
repeated, and such a byte before a zero is no marker; `marked` says whether the byte
before was one. -/
def marker? (marked : Bool) : List UInt8 → Option (UInt8 × List UInt8)
  | [] => none
  | byte :: rest =>
    if byte = 0xFF then marker? true rest
    else if marked ∧ byte ≠ 0 then some (byte, rest)
    else marker? false rest

/-- Behind a marker there are fewer bytes than before it. -/
theorem marker?_length {marked : Bool} {bytes rest : List UInt8} {code : UInt8}
    (h : marker? marked bytes = some (code, rest)) : rest.length < bytes.length := by
  fun_induction marker? marked bytes with
  | case1 => simp at h
  | case2 _ _ ih => exact Nat.lt_succ_of_lt (ih h)
  | case3 =>
    simp only [Option.some.injEq, Prod.mk.injEq] at h
    simp [h.2]
  | case4 _ _ _ _ _ ih => exact Nat.lt_succ_of_lt (ih h)

/-- Whether a code begins a frame, whose segment tells the size of the picture. -/
def isFrame (code : UInt8) : Bool :=
  0xC0 ≤ code && code ≤ 0xCF && code != 0xC4 && code != 0xC8 && code != 0xCC

/-- The code that ends a picture. -/
def pictureEnd : UInt8 := 0xD9

/-- The code that begins a scan. -/
def scanStart : UInt8 := 0xDA

/-- Whether a marker stands without a segment. -/
def isAlone (code : UInt8) : Bool := code == 1 || (0xD0 ≤ code && code ≤ 0xD9)

/-! ### Measuring -/

/-- What a segment tells: a size, or a resolution by one of two conventions. -/
inductive Part
  | frame (width height : Nat)
  | density (across down : Nat)
  | exif (across down : Nat)
  | other
  deriving DecidableEq, Repr

/-- The resolution of a density in some unit. -/
def resolution (unit density : Nat) : Nat :=
  match unit with
  | 1 => density
  | 2 => nearest ((Binary64.ofInt density).mul centimetersPerInch)
  | _ => usualResolution

/-- What a segment of so many bytes tells, the bytes behind it included. -/
def part (code : UInt8) (length : Nat) (segment : List UInt8) : Except MeasureError Part := do
  let number (count place : Nat) := told (bigEndian? count (segment.drop place))
  if code = 0xE0 then
    let unit ← number 1 9
    return .density (resolution unit (← number 2 10)) (resolution unit (← number 2 12))
  else if code = 0xE1 then
    if (segment.drop 2).take 6 = ascii "Exif" ++ [0, 0] then
      let picture := segment.drop 8
      let picture := if length < 8 then picture else picture.take (length - 8)
      let (across, down) ← Tiff.resolutions picture
      return .exif across down
    else return .exif usualResolution usualResolution
  else if isFrame code then
    let height ← number 2 3
    return .frame (← number 2 5) height
  else return .other

/-- The part behind a marker and what follows it. -/
def partWithRest (code : UInt8) (segment : List UInt8) :
    Except MeasureError (Part × List UInt8) := do
  if isAlone code then return (.other, segment)
  let length ← told (bigEndian? 2 segment)
  return (← part code length segment, segment.drop length)

/-- What follows a part is no longer than the segment and all behind it. -/
theorem partWithRest_length {code : UInt8} {segment rest : List UInt8} {p : Part}
    (h : partWithRest code segment = .ok (p, rest)) : rest.length ≤ segment.length := by
  unfold partWithRest at h
  split at h
  · cases h
    exact Nat.le_refl _
  · cases hlength : told (bigEndian? 2 segment) with
    | error cause => simp [hlength, bind, Except.bind] at h
    | ok length =>
      cases hpart : part code length segment with
      | error cause => simp [hlength, hpart, bind, Except.bind] at h
      | ok found =>
        simp only [hlength, hpart, bind, Except.bind, pure, Except.pure, Except.ok.injEq,
          Prod.mk.injEq] at h
        simp [← h.2]

/-- The parts up to the first scan, or to the end where there is none. -/
def parts (bytes : List UInt8) : Except MeasureError (List Part) :=
  match _hm : marker? false bytes with
  | none => .error .noMarker
  | some (code, segment) =>
    match _hp : partWithRest code segment with
    | .error cause => .error cause
    | .ok (part, rest) =>
      if code = pictureEnd ∨ code = scanStart then .ok [part]
      else
        match parts rest with
        | .ok more => .ok (part :: more)
        | .error cause => .error cause
termination_by bytes.length
decreasing_by exact Nat.lt_of_le_of_lt (partWithRest_length _hp) (marker?_length _hm)

/-- The convention by which a picture tells its resolution. -/
inductive Convention
  | jfif
  | exif
  deriving DecidableEq, Repr

/-- The convention that a picture names in its first segment. -/
def convention? (bytes : List UInt8) : Option Convention :=
  let name := (bytes.drop 6).take 4
  if name = ascii "JFIF" then some .jfif
  else if name = ascii "Exif" then some .exif
  else none

/-- The resolution that a part tells by a convention. -/
def Convention.resolution? : Convention → Part → Option (Nat × Nat)
  | jfif, .density across down => some (across, down)
  | exif, .exif across down => some (across, down)
  | _, _ => none

/-- The size that a part tells. -/
def Part.size? : Part → Option (Nat × Nat)
  | frame width height => some (width, height)
  | _ => none

/-- The measures of a picture: of several sizes or resolutions the first. -/
def measures (convention : Convention) (bytes : List UInt8) : Except MeasureError Measures := do
  let parts ← parts bytes
  match parts.findSome? Part.size?, parts.findSome? convention.resolution? with
  | none, _ => throw .noFrame
  | _, none => throw .noDensity
  | some (width, height), some (across, down) => return ⟨width, height, across, down⟩

/-! ### Reading with care -/

/-- What pictures that are shown begin with. -/
def signature : List UInt8 := [0xFF, 0xD8, 0xFF]

/-- The size in the content of a frame: eight bits for each of one, three or four layers
that are described in three bytes each. -/
def frameSize? (content : List UInt8) : Option (Nat × Nat) := do
  let height ← bigEndian? 2 (content.drop 1)
  let width ← bigEndian? 2 (content.drop 3)
  let layers ← content[5]?
  if content[0]? = some 8 ∧ [1, 3, 4].contains layers ∧ (content.length - 6) % 3 = 0 then
    some (width, height)
  else none

/-- Whether a row of tables is complete, each being a byte and then 64 numbers of one byte
or of two. -/
def areTables : List UInt8 → Bool
  | [] => true
  | kind :: rest =>
    let size := if kind < 16 then 64 else 128
    size ≤ rest.length && areTables (rest.drop size)
termination_by bytes => bytes.length
decreasing_by rw [List.length_drop, List.length_cons]; omega

/-- Whether the content of a segment has what a segment with its code must have. -/
def isSound (code : UInt8) (content : List UInt8) : Bool :=
  if code = 0xDB then areTables content
  else if code = 0xE0 then !(ascii "JFIF").isPrefixOf content || 7 ≤ content.length
  else if code = 0xEE then !(ascii "Adobe").isPrefixOf content || 7 ≤ content.length
  else true

/-- Whether nothing is looked for behind a marker. -/
def isPassed (code : UInt8) : Bool :=
  code == 0xC8 || (0xD0 ≤ code && code ≤ 0xD9) || (0xF0 ≤ code && code ≤ 0xFD)

/-- The size of a picture by the last frame before its first scan. -/
def lastFrame? (found : Option (Nat × Nat)) (bytes : List UInt8) : Option (Nat × Nat) :=
  match _h : marker? false bytes with
  | none => none
  | some (code, segment) =>
    if code < 0xC0 then none
    else if isPassed code then lastFrame? found segment
    else
      match bigEndian? 2 segment with
      | none => none
      | some length =>
        match take? (length - 2) (segment.drop 2) with
        | none => none
        | some content =>
          if code = scanStart then found
          else if isFrame code ∨ code = 0xDE then
            match frameSize? content with
            | none => none
            | some size => lastFrame? (some size) (segment.drop (max 2 length))
          else if isSound code content then lastFrame? found (segment.drop (max 2 length))
          else none
termination_by bytes.length
decreasing_by
  · exact marker?_length _h
  all_goals
    have := marker?_length _h
    simp only [List.length_drop]
    omega

/-- The size of a picture that can be shown. -/
def declaredSize? (bytes : List UInt8) : Option (Nat × Nat) := do
  let (width, height) ← lastFrame? none (bytes.drop 2)
  if 0 < width ∧ 0 < height then some (width, height) else none

end Paperwork.Picture.Jpeg
