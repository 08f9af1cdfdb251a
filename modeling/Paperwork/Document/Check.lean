/-
Reading documents from data.
-/
import Paperwork.Checking.Accept
import Paperwork.Document.Node

namespace Paperwork

open Checked (valid fault)

/-- A cell of a table. -/
def Cell.check : Value → Checked Cell :=
  Accept.record fun fields =>
    Cell.mk <$> Accept.field fields ["text"] Accept.text ""
      <*> Accept.field fields ["header"] Accept.boolean false

namespace Node

/-- The bytes of an image, written in letters. -/
def checkBytes : Value → Checked (List UInt8)
  | .text s =>
    match Base64.decode s.toList with
    | .ok bytes => valid bytes
    | .error _ => fault .refused
  | _ => fault .notText

/-- How the fields of a node of a kind are read. -/
def reader? (kind : String) : Option (Fields → Checked Node) :=
  match kind with
  | "paragraph" => some fun fields =>
      Node.paragraph <$> Accept.field fields ["text"] Accept.text ""
        <*> Accept.field fields ["bold"] Accept.boolean false
  | "heading" => some fun fields =>
      Node.heading <$> Accept.field fields ["text"] Accept.text ""
        <*> Accept.field fields ["level"] Accept.integer 1
  | "listItem" => some fun fields =>
      Node.listItem <$> Accept.field fields ["text"] Accept.text ""
        <*> Accept.field fields ["ordered"] Accept.boolean false
        <*> Accept.field fields ["index"] Accept.integer 1
  | "table" => some fun fields =>
      Node.table <$> Accept.field fields ["rows"] (Accept.list (Accept.list Cell.check)) []
  | "image" => some fun fields =>
      Node.image <$> Accept.field fields ["data"] checkBytes []
        <*> Accept.field fields ["mime_type"] Accept.text "image/png"
  | _ => none

/-- A node. -/
def check : Value → Checked Node
  | .object fields =>
    match fields.lookup "kind" with
    | none => fault .missingKind
    | some (.text kind) =>
      match reader? kind with
      | some read => (read fields).under (.field kind)
      | none => fault .unknownKind
    | some _ => fault .unknownKind
  | _ => fault .noFields

/-- The nodes of a document. -/
def checkAll : Value → Checked (List Node) := Accept.list check

end Node
end Paperwork
