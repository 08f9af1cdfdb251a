/-
Cutting a text into lines and into paragraphs.

A line ends at any line break, a carriage return and the line feed after it counting
as one, and the last line needs no end.  Paragraphs are separated by gaps: a line
feed, blanks only, and another line feed.
-/
import Paperwork.Text.Words

namespace Paperwork.Text

/-- A text in which a line feed ends each line that a carriage return ended, alone or
with a line feed behind it. -/
def withLineFeeds : List Char → List Char
  | [] => []
  | '\r' :: '\n' :: rest => '\n' :: withLineFeeds rest
  | c :: rest => (if c = '\r' then '\n' else c) :: withLineFeeds rest

/-- The lines of a text. -/
def lines : List Char → List (List Char)
  | [] => []
  | '\r' :: '\n' :: rest => [] :: lines rest
  | c :: rest =>
    if isLineBreak c then [] :: lines rest
    else
      match lines rest with
      | [] => [[c]]
      | line :: more => (c :: line) :: more

/-- What follows the last line feed of a text, if it has one. -/
def afterLastFeed? : List Char → Option (List Char)
  | [] => none
  | c :: rest =>
    match afterLastFeed? rest with
    | some tail => some tail
    | none => if c = '\n' then some rest else none

/-- The length of the gap a text begins with: it reaches to the last line feed of the
blanks after its first one. -/
def gapLength? : List Char → Option Nat
  | '\n' :: rest =>
    let blanks := rest.takeWhile isBlank
    (afterLastFeed? blanks).map fun tail => 1 + (blanks.length - tail.length)
  | _ => none

/-- The pieces of a text between its gaps, reading on after `skip` characters. -/
def chunksFrom : Nat → List Char → List (List Char)
  | _, [] => [[]]
  | skip + 1, _ :: rest => chunksFrom skip rest
  | 0, c :: rest =>
    match gapLength? (c :: rest) with
    | some length => [] :: chunksFrom (length - 1) rest
    | none =>
      match chunksFrom 0 rest with
      | [] => [[c]]
      | chunk :: chunks => (c :: chunk) :: chunks

/-- The pieces of a text between its gaps. -/
def chunks (cs : List Char) : List (List Char) := chunksFrom 0 cs

/-- The paragraphs of a text: of each chunk the lines that are not blank, every one
with its words set apart by single spaces; chunks without such a line are left out. -/
def paragraphs (cs : List Char) : List (List Char) :=
  ((chunks cs).map fun chunk =>
    joined ['\n'] (((lines chunk).map collapsed).filter fun line => !line.isEmpty)).filter
      fun paragraph => !paragraph.isEmpty

end Paperwork.Text
