/-
Files of definitions.

A definition is a name, an equals sign and a value on a line of its own; `export` may
stand before the name, and a comment behind the value.  A value in quotes may go on
over several lines.  What cannot be read is passed over up to the end of its line.  In
values `${NAME}` stands for the value of another name, and `${NAME:-text}` for a text
where that name is not defined.
-/
import Paperwork.Text.Pattern
import Paperwork.Text.Words

namespace Paperwork

open Paperwork.Text

/-- A name with its value; a name alone on its line has none. -/
structure Definition where
  name : String
  value : Option String
  deriving DecidableEq, Repr

namespace Definition

/-! ### Reading one definition -/

/-- Reading a text from its front.  A failure leaves the text where it happened. -/
abbrev Reading (α : Type) := StateT (List Char) (Except (List Char)) α

/-- Whether a character ends a line. -/
def isLineEnd (c : Char) : Bool := c == '\n' || c == '\r'

/-- Whether a character is blank and does not end a line. -/
def isInner (c : Char) : Bool := isBlank c && !isLineEnd c

/-- Reads as long as characters satisfy `p`. -/
def span (p : Char → Bool) : Reading (List Char) := fun cs => .ok (cs.takeWhile p, cs.dropWhile p)

/-- The word that may stand before a name. -/
def exportWord : List Char := "export".toList

/-- Passes the word before a name, if it stands there with a blank behind it. -/
def skipExport : Reading Unit := fun cs =>
  match behind? exportWord cs with
  | some (c :: rest) => if isInner c then .ok ((), rest.dropWhile isInner) else .ok ((), cs)
  | _ => .ok ((), cs)

/-- Whether a character can belong to a name that is not in quotes. -/
def isNameChar (c : Char) : Bool := c != '=' && c != '#' && !isBlank c

/-- A name; a comment has none. -/
def readName : Reading (Option (List Char)) := fun cs =>
  match cs with
  | '#' :: _ => .ok (none, cs)
  | '\'' :: rest =>
    match upTo? '\'' rest with
    | some (c :: name, rest) => .ok (some (c :: name), rest)
    | _ => .error cs
  | _ =>
    match cs.takeWhile isNameChar with
    | [] => .error cs
    | name => .ok (some name, cs.dropWhile isNameChar)

/-- The text up to a closing quote and the text behind it.  The character behind a
backslash never closes it. -/
def quoted? (quote : Char) : List Char → Option (List Char × List Char)
  | [] => none
  | '\\' :: c :: rest =>
    (quoted? quote rest).map fun (text, after) => ('\\' :: c :: text, after)
  | c :: rest =>
    if c = quote then some ([], rest)
    else (quoted? quote rest).map fun (text, after) => (c :: text, after)

/-- A text with pairs of a backslash and a character replaced, as far as they have a
meaning. -/
def unescaped (meaning : Char → Option Char) : List Char → List Char
  | [] => []
  | '\\' :: c :: rest =>
    match meaning c with
    | some d => d :: unescaped meaning rest
    | none => '\\' :: unescaped meaning (c :: rest)
  | c :: rest => c :: unescaped meaning rest

/-- What a character behind a backslash means between single quotes. -/
def singleMeaning (c : Char) : Option Char :=
  if c = '\\' ∨ c = '\'' then some c else none

/-- What a character behind a backslash means between double quotes. -/
def doubleMeaning (c : Char) : Option Char :=
  match c with
  | '\\' => some '\\'
  | '\'' => some '\''
  | '"' => some '"'
  | 'a' => some '\x07'
  | 'b' => some '\x08'
  | 'f' => some '\x0C'
  | 'n' => some '\n'
  | 'r' => some '\r'
  | 't' => some '\t'
  | 'v' => some '\x0B'
  | _ => none

/-- A line up to a comment, which is set apart by blanks. -/
def withoutComment : List Char → List Char
  | [] => []
  | c :: rest =>
    if isBlank c && (rest.dropWhile isBlank).head? == some '#' then []
    else c :: withoutComment rest

/-- A value. -/
def readValue : Reading (List Char) := fun cs =>
  match cs with
  | '\'' :: rest =>
    match quoted? '\'' rest with
    | some (text, after) => .ok (unescaped singleMeaning text, after)
    | none => .error cs
  | '"' :: rest =>
    match quoted? '"' rest with
    | some (text, after) => .ok (unescaped doubleMeaning text, after)
    | none => .error cs
  | _ =>
    let line := withoutComment (cs.takeWhile fun c => !isLineEnd c)
    .ok ((line.reverse.dropWhile isBlank).reverse, cs.dropWhile fun c => !isLineEnd c)

/-- The value behind an equals sign, if there is one. -/
def readDefined : Reading (Option (List Char)) := fun cs =>
  match cs with
  | '=' :: rest => (readValue (rest.dropWhile isInner)).map fun (text, after) => (some text, after)
  | _ => .ok (none, cs)

/-- Passes a comment and the end of the line. -/
def skipLineEnd : Reading Unit := fun cs =>
  let rest := cs.dropWhile isInner
  let rest :=
    match rest with
    | '#' :: _ => rest.dropWhile fun c => !isLineEnd c
    | _ => rest
  match rest with
  | [] => .ok ((), [])
  | '\r' :: '\n' :: rest => .ok ((), rest)
  | c :: rest => if isLineEnd c then .ok ((), rest) else .error (c :: rest)

/-- A definition, unless the line is empty but for a comment. -/
def readLine : Reading (Option Definition) := do
  let _ ← span isBlank
  if (← get).isEmpty then return none
  skipExport
  let name ← readName
  let _ ← span isInner
  let value ← readDefined
  skipLineEnd
  return name.map fun name => ⟨String.ofList name, value.map String.ofList⟩

/-! ### Reading all definitions -/

/-- What follows the line that a text begins in. -/
def afterLine (cs : List Char) : List Char :=
  match cs.dropWhile fun c => !isLineEnd c with
  | '\r' :: '\n' :: rest => rest
  | _ :: rest => rest
  | [] => []

/-- The definition that a text begins with, if it can be read, and what follows. -/
def first (cs : List Char) : Option Definition × List Char :=
  match readLine.run cs with
  | .ok found => found
  | .error rest => (none, afterLine rest)

/-- The definitions in a text, beginning behind `skip` characters. -/
def readFrom : Nat → List Char → List Definition
  | _, [] => []
  | skip + 1, _ :: rest => readFrom skip rest
  | 0, c :: rest =>
    let (found, after) := first (c :: rest)
    found.toList ++ readFrom (rest.length - after.length) rest

/-- What may stand in front of a text to mark the order of its bytes. -/
def byteOrderMark : Char := '\uFEFF'

/-- The definitions in a text. -/
def readAll (text : String) : List Definition :=
  match text.toList with
  | [] => []
  | c :: rest => readFrom 0 (if c = byteOrderMark then rest else c :: rest)

/-! ### Values that mention others -/

/-- A mention of a name in a value, with the text that stands in for it. -/
structure Mention where
  name : List Char
  instead : List Char

/-- The text up to the first character among `stops`, and the text from there on. -/
def upToAny (stops : List Char) (cs : List Char) : List Char × List Char :=
  (cs.takeWhile fun c => !stops.contains c, cs.dropWhile fun c => !stops.contains c)

/-- A mention at the front of a text. -/
def mention : Pattern Mention := fun cs =>
  match cs with
  | '$' :: '{' :: rest =>
    let (name, rest) := upToAny ['}', ':'] rest
    match rest with
    | '}' :: _ => some (⟨name, []⟩, name.length + 3)
    | ':' :: '-' :: rest =>
      let (instead, rest) := upToAny ['}'] rest
      match rest with
      | '}' :: _ => some (⟨name, instead⟩, name.length + instead.length + 5)
      | _ => none
    | _ => none
  | _ => none

/-- The names that the values in a text mention. -/
def mentionedNames (text : String) : List String :=
  (readAll text).flatMap fun d =>
    (matchesIn mention (d.value.getD "").toList).map fun m => String.ofList m.name

/-- The names defined so far, each with the last value it was given. -/
abbrev Known := List (String × Option String)

/-- A value with its mentions replaced. -/
def expanded (environment : List (String × String)) (known : Known) (value : String) : String :=
  String.ofList (replaced mention (fun m =>
    match environment.lookup (String.ofList m.name) with
    | some text => text.toList
    | none =>
      match known.lookup (String.ofList m.name) with
      | some text => (text.getD "").toList
      | none => m.instead) value.toList)

/-- Definitions made one after another.  The environment goes before them. -/
def resolveAll (environment : List (String × String)) (definitions : List Definition) : Known :=
  definitions.foldl (fun known d =>
    (d.name, d.value.map (expanded environment known))
      :: known.filter fun (name, _) => name != d.name) []

end Definition
end Paperwork
