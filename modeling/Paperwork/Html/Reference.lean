/-
Reading the character references of an HTML text.

A reference begins at an ampersand and never reaches past the next one, so a text is
cut at its ampersands and each piece is read on its own.  A number names a code point;
a name is looked up whole if a semicolon ends it, and otherwise by its longest
beginning that needs none.  What cannot be read stays as it is, with one exception:
a decimal number of too many digits is refused.
-/
import Paperwork.Html.Entity.Name
import Paperwork.Text.Words

namespace Paperwork.Html

open Paperwork.Text

/-- A decimal character reference has more digits than are ever converted. -/
structure ReferenceTooLong where
  digits : Nat
  deriving DecidableEq, Repr

/-- The most decimal digits that are converted to a number. -/
def digitLimit : Nat := 4300

/-- The value of a digit of a number with up to sixteen digits. -/
def hexDigit? (c : Char) : Option Nat :=
  if '0' ≤ c ∧ c ≤ '9' then some (c.toNat - '0'.toNat)
  else if 'a' ≤ c ∧ c ≤ 'f' then some (c.toNat - 'a'.toNat + 10)
  else if 'A' ≤ c ∧ c ≤ 'F' then some (c.toNat - 'A'.toNat + 10)
  else none

/-- Whether a character is a digit from zero to nine. -/
def isDecimal (c : Char) : Bool := '0' ≤ c && c ≤ '9'

/-- The number written by digits of a base. -/
def numeralValue (base : Nat) (digits : List Char) : Nat :=
  digits.foldl (fun value c => value * base + (hexDigit? c).getD 0) 0

/-- The code points from `0x80` to `0x9F` as Windows used them. -/
def windowsChars : List Nat :=
  [0x20AC, 0x81, 0x201A, 0x0192, 0x201E, 0x2026, 0x2020, 0x2021,
   0x02C6, 0x2030, 0x0160, 0x2039, 0x0152, 0x8D, 0x017D, 0x8F,
   0x90, 0x2018, 0x2019, 0x201C, 0x201D, 0x2022, 0x2013, 0x2014,
   0x02DC, 0x2122, 0x0161, 0x203A, 0x0153, 0x9D, 0x017E, 0x0178]

/-- Whether a code point is a control or not a character at all, and so is dropped. -/
def isDropped (code : Nat) : Bool :=
  (0x1 ≤ code && code ≤ 0x8) || code == 0xB || (0xE ≤ code && code ≤ 0x1F)
    || (0x7F ≤ code && code ≤ 0x9F) || (0xFDD0 ≤ code && code ≤ 0xFDEF)
    || code % 0x10000 == 0xFFFE || code % 0x10000 == 0xFFFF

/-- The text a numeric reference stands for. -/
def numericText (code : Nat) : List Char :=
  if code = 0 then ['\uFFFD']
  else if code = 0x0D then ['\r']
  else if 0x80 ≤ code ∧ code ≤ 0x9F then [Char.ofNat (windowsChars.getD (code - 0x80) 0)]
  else if (0xD800 ≤ code ∧ code ≤ 0xDFFF) ∨ 0x10FFFF < code then ['\uFFFD']
  else if isDropped code then []
  else [Char.ofNat code]

/-- A text without a semicolon at its head. -/
def withoutSemicolon : List Char → List Char
  | ';' :: rest => rest
  | rest => rest

/-- Whether a character may occur in the name of a reference. -/
def isNameChar (c : Char) : Bool :=
  !(c == '\t' || c == '\n' || c == '\x0c' || c == ' ' || c == '<' || c == '&' || c == '#'
    || c == ';')

/-- The longest name that is looked at. -/
def nameLimit : Nat := 32

/-- The longest beginning of a name that needs no semicolon: its characters, and what
is left of the name.  The beginnings of `length` characters and fewer are tried. -/
def bareBeginning? (name : List Char) : Nat → Option (List Char × List Char)
  | 0 => none
  | length + 1 =>
    match bareNamed? (name.take (length + 1)) with
    | some text => some (text, name.drop (length + 1))
    | none => bareBeginning? name length

/-- The text behind an ampersand, read as a named reference where it is one. -/
def namedText (cs : List Char) : List Char :=
  let name := (cs.take nameLimit).takeWhile isNameChar
  let after := cs.drop name.length
  let whole :=
    match after with
    | ';' :: rest => (named? name).map fun text => text ++ rest
    | _ => none
  match whole with
  | some text => text
  | none =>
    match bareBeginning? name name.length with
    | some (text, left) => text ++ left ++ after
    | none => '&' :: cs

/-- The text behind an ampersand, up to the next one, with its reference read. -/
def referenceText (cs : List Char) : Except ReferenceTooLong (List Char) :=
  match cs with
  | '#' :: rest =>
    let digits := rest.takeWhile isDecimal
    if !digits.isEmpty then
      if digitLimit < digits.length then .error ⟨digits.length⟩
      else .ok (numericText (numeralValue 10 digits)
        ++ withoutSemicolon (rest.drop digits.length))
    else
      match rest with
      | x :: rest =>
        let digits := rest.takeWhile fun c => (hexDigit? c).isSome
        if (x == 'x' || x == 'X') && !digits.isEmpty then
          .ok (numericText (numeralValue 16 digits)
            ++ withoutSemicolon (rest.drop digits.length))
        else .ok ('&' :: cs)
      | [] => .ok ('&' :: cs)
  | cs => .ok (namedText cs)

/-- A text with its character references read. -/
def unescape (cs : List Char) : Except ReferenceTooLong (List Char) :=
  match splitWhere (· == '&') cs with
  | [] => .ok []
  | first :: rest => return first ++ (← rest.mapM referenceText).flatten

end Paperwork.Html
