/-
The first directory of a TIFF picture, where its size and resolution stand.

A directory is a row of entries of twelve bytes: a tag, the kind of the value, how many
values there are, and the value itself or the place where it stands.
-/
import Paperwork.Picture.Bytes
import Paperwork.Picture.Measures

namespace Paperwork.Picture.Tiff

/-- What pictures begin with, by the order of their bytes. -/
def signatures : List (List UInt8) := [[0x4D, 0x4D, 0, 0x2A], [0x49, 0x49, 0x2A, 0]]

/-- Whether bytes begin as a picture does. -/
def isSigned (bytes : List UInt8) : Bool := signatures.contains (bytes.take 4)

/-- The order of the bytes of a picture. -/
def order (bytes : List UInt8) : ByteOrder :=
  if bytes.take 2 = ascii "MM" then .mostFirst else .leastFirst

/-- The number of so many bytes at a place. -/
def number (bytes : List UInt8) (count place : Nat) : Except MeasureError Nat :=
  told ((order bytes).number? count (bytes.drop place))

/-! ### Entries -/

/-- The value of an entry. -/
inductive Field
  | number (x : Binary64)
  | other
  deriving DecidableEq, Repr

/-- Checks a text of `length` bytes, of which the last one closes it. -/
def checkText (bytes : List UInt8) (length place : Nat) : Except MeasureError Unit :=
  if length = 0 then .error .emptyText
  else
    match take? (length - 1) (bytes.drop place) with
    | none => .error .truncated
    | some text =>
      if ByteArray.validateUTF8 ⟨text.toArray⟩ then .ok () else .error .unreadableText

/-- A fraction, the numerator before the denominator. -/
def fraction (bytes : List UInt8) (place : Nat) : Except MeasureError Binary64 := do
  let numerator ← number bytes 4 place
  let denominator ← number bytes 4 (place + 4)
  if denominator = 0 then throw .noDenominator
  return Binary64.ofRatio false numerator denominator

/-- The entry at a place: its tag and its value.  Several numbers in one entry are not
understood. -/
def entry (bytes : List UInt8) (place : Nat) : Except MeasureError (Nat × Field) := do
  let kind ← number bytes 2 (place + 2)
  let tag ← number bytes 2 place
  let count ← number bytes 4 (place + 4)
  let word ← number bytes 4 (place + 8)
  match kind, count with
  | 2, length =>
    checkText bytes length word
    return (tag, .other)
  | 3, 1 => return (tag, .number (Binary64.ofInt (← number bytes 2 (place + 8))))
  | 4, 1 => return (tag, .number (Binary64.ofInt word))
  | 5, 1 => return (tag, .number (← fraction bytes word))
  | _, _ => return (tag, .other)

/-- The entries of the first directory. -/
def entries (bytes : List UInt8) : Except MeasureError (List (Nat × Field)) := do
  let start ← number bytes 4 4
  let count ← number bytes 2 start
  (List.range count).mapM fun index => entry bytes (start + 2 + index * 12)

/-- The value of a tag: the last one given. -/
def field? (entries : List (Nat × Field)) (tag : Nat) : Option Field := entries.reverse.lookup tag

/-! ### Size and resolution -/

/-- A number of pixels. -/
def pixels (entries : List (Nat × Field)) (tag : Nat) : Except MeasureError Nat :=
  match field? entries tag with
  | some (.number x) => if x.isWhole then .ok (nearest x) else .error .notANumber
  | _ => .error .notANumber

/-- How many units of resolution make an inch: they are inches unless another unit is
given, and nothing if only the shape of pixels is. -/
def unitsPerInch? (entries : List (Nat × Field)) : Option Binary64 :=
  match field? entries 0x128 with
  | none => some Binary64.one
  | some field =>
    if field = .number Binary64.one then none
    else if field = .number (Binary64.ofInt 2) then some Binary64.one
    else some centimetersPerInch

/-- The resolution under a tag. -/
def resolution (entries : List (Nat × Field)) (tag : Nat) : Except MeasureError Nat :=
  match field? entries tag, unitsPerInch? entries with
  | none, _ => .ok usualResolution
  | _, none => .ok usualResolution
  | some (.number x), some units => .ok (nearest (x.mul units))
  | some .other, some _ => .error .notANumber

/-- The resolution across and down. -/
def resolutions (bytes : List UInt8) : Except MeasureError (Nat × Nat) := do
  let entries ← entries bytes
  return (← resolution entries 0x11A, ← resolution entries 0x11B)

/-- The measures of a picture. -/
def measures (bytes : List UInt8) : Except MeasureError Measures := do
  let entries ← entries bytes
  let across ← resolution entries 0x11A
  let down ← resolution entries 0x11B
  return ⟨← pixels entries 0x100, ← pixels entries 0x101, across, down⟩

end Paperwork.Picture.Tiff
