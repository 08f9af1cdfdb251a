/-
Recognising the tags of HTML in a text.

A tag is recognised by its name alone, letters of either case, and ends at the first
`>` behind it, whatever stands in between.  Names are compared in two ways.  A name
that is known in advance is compared freely: besides the case, the two letters that
differ from `i` and `s` in form only are taken for these.  A name that was met before
in the text is met again if it is the same up to case.
-/
import Paperwork.Text.Blank
import Paperwork.Text.LetterCase
import Paperwork.Text.Pattern
import Paperwork.Text.WordChar

namespace Paperwork.Html

open Paperwork.Text

/-- A letter without its case; the dotless `i` and the long `s` count as `i` and `s`. -/
def caseFree (c : Char) : Char :=
  let small := fold c
  if small = 'ı' then 'i'
  else if small = 'ſ' then 's'
  else small

/-- The text behind a name, letters compared by `key`. -/
def behindName? (key : Char → Char) : List Char → List Char → Option (List Char)
  | [], cs => some cs
  | _ :: _, [] => none
  | n :: name, c :: cs => if key n = key c then behindName? key name cs else none

/-- An opening tag: its name as it is written, what follows the name, and the text
behind the tag. -/
structure Opening where
  name : List Char
  attributes : List Char
  rest : List Char

/-- The number of characters of an opening tag. -/
def Opening.length (tag : Opening) : Nat := 2 + tag.name.length + tag.attributes.length

/-- An opening tag as it is written. -/
def Opening.text (tag : Opening) : List Char := '<' :: tag.name ++ tag.attributes ++ ['>']

/-- The name of a tag that a text begins with, and the text behind the name; the name
must not go on. -/
def tagName? (names : List (List Char)) : List Char → Option (List Char × List Char)
  | '<' :: cs =>
    names.findSome? fun name =>
      match behindName? caseFree name cs with
      | some rest => if startsInWord rest then none else some (cs.take name.length, rest)
      | none => none
  | _ => none

/-- Whether a text begins with the name of a tag. -/
def startsTag (names : List (List Char)) (cs : List Char) : Bool := (tagName? names cs).isSome

/-- The opening tag that a text begins with. -/
def opening? (names : List (List Char)) (cs : List Char) : Option Opening := do
  let (name, rest) ← tagName? names cs
  let (attributes, rest) ← upTo? '>' rest
  return ⟨name, attributes, rest⟩

/-- The length of the closing tag that a text begins with. -/
def closingLength? (key : Char → Char) (name : List Char) : List Char → Option Nat
  | '<' :: '/' :: cs =>
    match behindName? key name cs with
    | some rest =>
      let blanks := rest.takeWhile isBlank
      match rest.drop blanks.length with
      | '>' :: _ => some (3 + name.length + blanks.length)
      | _ => none
    | none => none
  | _ => none

/-- The text up to the first closing tag, with the length of that tag. -/
def upToClosing? (key : Char → Char) (name : List Char) (cs : List Char) :
    Option (List Char × Nat) :=
  search (closingLength? key name) cs

/-- An element: its opening tag, its content, and the number of its characters. -/
structure Element where
  opening : Opening
  content : List Char
  length : Nat

/-- The element that a text begins with, ended by the first closing tag whose name
`closed` tells from the opening tag. -/
def element? (key : Char → Char) (names : List (List Char)) (closed : Opening → List Char)
    (cs : List Char) : Option Element := do
  let opening ← opening? names cs
  let (content, length) ← upToClosing? key (closed opening) opening.rest
  return ⟨opening, content, opening.length + content.length + length⟩

/-- Elements of one name. -/
def elementNamed (name : List Char) : Pattern Element := fun cs =>
  (element? caseFree [name] (fun _ => name) cs).map fun e => (e, e.length)

/-- Elements of several names, each ended by a closing tag of the name as it is
written in the opening tag. -/
def elementAmong (names : List (List Char)) : Pattern Element := fun cs =>
  (element? fold names Opening.name cs).map fun e => (e, e.length)

end Paperwork.Html
