/-
Paragraphs, divisions and line breaks at the front of a text.

A line break is an empty paragraph.  A paragraph or division becomes one paragraph if
it is closed before the next region and holds no other of its kind; otherwise only its
opening tag is dropped, and what it holds is read on its own.
-/
import Paperwork.Document.Build

namespace Paperwork

open Paperwork.Text
open Paperwork.Html

/-- The names of the tags that wrap text. -/
def wrapperNames : List (List Char) := [['p'], ['d', 'i', 'v']]

/-- The names of the tags that text stops at. -/
def stopNames : List (List Char) := wrapperNames ++ [breakName]

/-! ### Bold text -/

/-- Whether a text begins with a heavy weight. -/
def isHeavy (cs : List Char) : Bool :=
  (behindName? caseFree ['b', 'o', 'l', 'd'] cs).isSome
    || match cs with
      | c :: '0' :: '0' :: _ => '6' ≤ c && c ≤ '9'
      | _ => false

/-- Whether a text begins with a property that makes text bold. -/
def boldProperty? (cs : List Char) : Option Unit := do
  let rest ← behindName? caseFree "font-weight".toList cs
  match rest.dropWhile isBlank with
  | ':' :: rest => if isHeavy (rest.dropWhile isBlank) then some () else none
  | _ => none

/-- Whether attributes make text bold. -/
def hasBoldStyle (attributes : List Char) : Bool := (search boldProperty? attributes).isSome

/-- Whether a text ends with the closing tag of a name, blanks aside. -/
def endsWithClosing (name : List Char) (cs : List Char) : Bool :=
  match cs.reverse.dropWhile isBlank with
  | '>' :: rest =>
    match behindName? fold name.reverse (rest.dropWhile isBlank) with
    | some ('/' :: '<' :: _) => true
    | _ => false
  | _ => false

/-- The names of the tags that make text bold. -/
def boldNames : List (List Char) := [['b'], ['s', 't', 'r', 'o', 'n', 'g']]

/-- Whether a text begins with a tag that makes it bold and ends with its closing tag,
blanks aside. -/
def isWrappedBold (cs : List Char) : Bool :=
  match opening? boldNames (cs.dropWhile isBlank) with
  | some tag => endsWithClosing tag.name tag.rest
  | none => false

/-! ### Unwrapping -/

/-- Whether a wrapper opens somewhere in a text. -/
def hasWrapper (cs : List Char) : Bool := (search (tagName? wrapperNames) cs).isSome

/-- The content of a wrapper that is closed within `limit` characters behind its tag and
holds no wrapper, with the length of its closing tag. -/
def wrapped? (tag : Opening) (limit : Nat) : Option (List Char × Nat) := do
  let (inner, length) ← upToOwnClosing? tag (tag.rest.take limit)
  if hasWrapper inner then none else some (inner, length)

/-- The paragraph that a wrapper becomes. -/
def wrapperNode (tag : Opening) (inner : List Char) : Except ReferenceTooLong Node := do
  let bold := hasBoldStyle tag.attributes || isWrappedBold inner
  let text := joined ['\n'] (← contentParagraphs inner)
  return .paragraph (String.ofList text) bold

/-- The nodes of the wrapper or line break that a text begins with, and the number of
characters read; the next region is `limit` characters away. -/
def unwrap? (limit : Nat) (cs : List Char) :
    Except ReferenceTooLong (Option (List Node × Nat)) :=
  match opening? [breakName] cs with
  | some tag => .ok (some ([.paragraph "" false], tag.length))
  | none =>
    match opening? wrapperNames cs with
    | none => .ok none
    | some tag =>
      match wrapped? tag (limit - tag.length) with
      | none => .ok (some ([], tag.length))
      | some (inner, length) => do
        return some ([← wrapperNode tag inner], tag.length + inner.length + length)

end Paperwork
