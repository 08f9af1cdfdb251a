/-
The chunks of a PNG picture.

Behind its signature a picture is a row of chunks: four bytes for the length, four for
the name, the content, and four for a checksum of name and content.  There are two
readings of the row.  `chunks?` only walks it to the closing chunk and trusts what it
finds; `declaredSize?` reads up to the picture itself and checks all it passes.
-/
import Paperwork.Picture.Bytes
import Paperwork.Picture.Checksum

namespace Paperwork.Picture.Png

/-- What every picture begins with. -/
def signature : List UInt8 := [0x89, 0x50, 0x4E, 0x47, 0x0D, 0x0A, 0x1A, 0x0A]

/-- A chunk.  The content is followed by all that comes after it, so that a content
that claims to be longer than the picture is can be recognised. -/
structure Chunk where
  length : Nat
  name : List UInt8
  rest : List UInt8

/-- The chunk that bytes begin with. -/
def chunk? (bytes : List UInt8) : Option Chunk := do
  let length ← bigEndian? 4 bytes
  let name ← take? 4 (bytes.drop 4)
  return { length, name, rest := bytes.drop 8 }

/-- The bytes behind a chunk and its checksum. -/
def Chunk.after (chunk : Chunk) : List UInt8 := chunk.rest.drop (chunk.length + 4)

/-- Behind a chunk there are fewer bytes than at its beginning. -/
theorem Chunk.after_length {bytes : List UInt8} {chunk : Chunk} (h : chunk? bytes = some chunk) :
    chunk.after.length < bytes.length := by
  simp only [chunk?, bigEndian?, take?, Option.bind_eq_bind, Option.bind_eq_some_iff,
    Option.map_eq_some_iff, Option.pure_def, Option.some.injEq] at h
  obtain ⟨_, ⟨_, hlength, _⟩, _, _, rfl⟩ := h
  split at hlength
  · simp at hlength
  · simp only [Chunk.after, List.length_drop]
    omega

/-! ### Walking to the end -/

/-- Why the chunks of a picture cannot be walked. -/
inductive WalkError
  | truncated
  | unreadableName
  deriving DecidableEq, Repr

/-- The chunks of a picture up to the closing one. -/
def chunks? (bytes : List UInt8) : Except WalkError (List Chunk) :=
  match _h : chunk? bytes with
  | none => .error .truncated
  | some chunk =>
    if !ByteArray.validateUTF8 ⟨chunk.name.toArray⟩ then .error .unreadableName
    else if chunk.name = ascii "IEND" then .ok [chunk]
    else
      match chunks? chunk.after with
      | .ok more => .ok (chunk :: more)
      | .error cause => .error cause
termination_by bytes.length
decreasing_by exact Chunk.after_length ‹_›

/-! ### Reading with care -/

/-- Whether a byte is one of those that names of chunks are made of. -/
def isNameByte (byte : UInt8) : Bool :=
  let c := Char.ofNat byte.toNat
  byte < 128 && (c.isAlphanum || c == '_')

/-- Whether a depth in bits and a kind of colour go together. -/
def isColouring (depth colour : UInt8) : Bool :=
  match colour.toNat with
  | 0 => [1, 2, 4, 8, 16].contains depth
  | 2 => [8, 16].contains depth
  | 3 => [1, 2, 4, 8].contains depth
  | 4 => [8, 16].contains depth
  | 6 => [8, 16].contains depth
  | _ => false

/-- What the header of a picture declares: its width and height, its kind of colour, and
whether its colouring is known. -/
structure Header where
  width : Nat
  height : Nat
  colour : UInt8
  known : Bool

/-- The header in the content of a header chunk. -/
def header? (content : List UInt8) : Option Header := do
  let width ← bigEndian? 4 content
  let height ← bigEndian? 4 (content.drop 4)
  let depth ← content[8]?
  let colour ← content[9]?
  let filtering ← content[11]?
  let _ ← content[12]?
  if filtering = 0 then some { width, height, colour, known := isColouring depth colour } else none

/-- The least length of the transparency behind a header: two bytes for every channel of
a colour without a palette. -/
def transparencyLength : Option Header → Nat
  | some header =>
    if !header.known then 0
    else if header.colour = 0 then 2
    else if header.colour = 2 then 6
    else 0
  | none => 0

/-- What stands behind the name that a content begins with and that a zero closes. -/
def behindName (content : List UInt8) : List UInt8 := (content.dropWhile (· != 0)).drop 1

/-- Whether the content of a chunk has what a chunk of its name must have.  Profiles and
texts that are compressed tell by a zero how they are. -/
def isSound (header : Option Header) (name content : List UInt8) : Bool :=
  if name = ascii "pHYs" then 9 ≤ content.length
  else if name = ascii "sRGB" then 1 ≤ content.length
  else if name = ascii "gAMA" then 4 ≤ content.length
  else if name = ascii "cHRM" then content.length % 4 = 0
  else if name = ascii "acTL" then 8 ≤ content.length
  else if name = ascii "fcTL" then 26 ≤ content.length
  else if name = ascii "tRNS" then transparencyLength header ≤ content.length
  else if name = ascii "iCCP" then (behindName content).head? = some 0
  else if name = ascii "zTXt" then (behindName content).headD 0 = 0
  else true

/-- The content of a chunk, if it is complete and its checksum is right. -/
def Chunk.content? (chunk : Chunk) : Option (List UInt8) := do
  let content ← take? chunk.length chunk.rest
  let sum ← bigEndian? 4 (chunk.rest.drop chunk.length)
  if (checksum (chunk.name ++ content)).toNat = sum then some content else none

/-- The header of a picture: the last one before the picture itself or the end. -/
def lastHeader? (found : Option Header) (bytes : List UInt8) : Option Header :=
  match _h : chunk? bytes with
  | none => none
  | some chunk =>
    if !chunk.name.all isNameByte then none
    else if chunk.name = ascii "IDAT" ∨ chunk.name = ascii "IEND" then found
    else
      match chunk.content? with
      | none => none
      | some content =>
        if chunk.name = ascii "IHDR" then
          match header? content with
          | some header => lastHeader? (some header) chunk.after
          | none => none
        else if isSound found chunk.name content then lastHeader? found chunk.after
        else none
termination_by bytes.length
decreasing_by all_goals exact Chunk.after_length ‹_›

/-- The width and height that a picture declares, if it is sound up to there. -/
def declaredSize? (bytes : List UInt8) : Option (Nat × Nat) :=
  match lastHeader? none (bytes.drop signature.length) with
  | some header =>
    if header.known && 0 < header.width && 0 < header.height then
      some (header.width, header.height)
    else none
  | none => none

end Paperwork.Picture.Png
