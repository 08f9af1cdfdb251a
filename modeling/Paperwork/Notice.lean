/-
What is worth telling about the making of a document.

Much that is wrong with a template or a page does not stop the work; it is passed over
and noted.  A computation that may note something answers its result together with its
notices, in order.
-/
import Paperwork.Checking.Fault
import Paperwork.Data.Shown

namespace Paperwork

/-- How grave a notice is. -/
inductive Severity
  | debug | warning
  deriving DecidableEq, Repr

/-- The part of the work that a notice is about. -/
inductive Area
  | reading | conversion | output
  deriving DecidableEq, Repr

/-- Something worth telling. -/
inductive Notice
  | blockSkipped (position : Nat) (kind : Value)
  | schemaSkipped (place : String) (found : Value.Kind)
  | propertiesIgnored (place : String) (found : Value.Kind)
  | schemaFaulty (place : String) (faults : List Fault)
  | capReached (cap : Int)
  | noProgress
  | imageUndecodable
  | conversionFailed
  | printingFailed
  | imageUnsupported (mimeType : String)
  | imageUnreadable (mimeType : String)

namespace Notice

/-- How grave a notice is. -/
def severity : Notice → Severity
  | capReached _ => .debug
  | noProgress => .debug
  | imageUndecodable => .debug
  | _ => .warning

/-- The part of the work that a notice is about. -/
def area : Notice → Area
  | blockSkipped _ _ => .reading
  | schemaSkipped _ _ => .reading
  | propertiesIgnored _ _ => .reading
  | schemaFaulty _ _ => .reading
  | capReached _ => .conversion
  | noProgress => .conversion
  | imageUndecodable => .conversion
  | conversionFailed => .conversion
  | printingFailed => .output
  | imageUnsupported _ => .output
  | imageUnreadable _ => .output

/-- A notice in words; `explained` puts faults into words. -/
def message (explained : List Fault → String) : Notice → String
  | blockSkipped position kind =>
    "Skipping block " ++ toString position ++ " with unknown type " ++ kind.shown
  | schemaSkipped place found =>
    "Skipping " ++ place ++ ": expected an object, got " ++ found.name
  | propertiesIgnored place found =>
    "Ignoring " ++ place ++ ".properties: expected an object, got " ++ found.name
  | schemaFaulty place faults => "Skipping " ++ place ++ ": " ++ explained faults
  | capReached cap => "Converter iteration cap (" ++ toString cap ++ ") hit; rest kept as text"
  | noProgress => "Converter made no progress; dropping one character"
  | imageUndecodable => "Undecodable image data URI; using placeholder"
  | conversionFailed => "HTML conversion failed; falling back to plain text"
  | printingFailed => "PDF print failed, using plain-text fallback"
  | imageUnsupported mimeType => "Unsupported " ++ mimeType ++ " image replaced by placeholder"
  | imageUnreadable mimeType => "Unreadable " ++ mimeType ++ " image replaced by placeholder"

end Notice

/-- A result with the notices given on the way to it. -/
structure Noted (α : Type) where
  value : α
  notices : List Notice

namespace Noted

variable {α β : Type}

/-- A result without notices. -/
def silent (a : α) : Noted α := ⟨a, []⟩

/-- A computation that goes on with a result; the notices add up. -/
def andThen (x : Noted α) (f : α → Noted β) : Noted β :=
  let y := f x.value
  ⟨y.value, x.notices ++ y.notices⟩

instance : Monad Noted where
  pure := silent
  bind := andThen

/-- A result with only those notices that satisfy `p`. -/
def noticing (p : Notice → Bool) (x : Noted α) : Noted α := ⟨x.value, x.notices.filter p⟩

/-- Gives a notice. -/
def note (notice : Notice) : Noted Unit := ⟨(), [notice]⟩

end Noted
end Paperwork
