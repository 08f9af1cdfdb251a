/-
Finding a pattern in a text.

A pattern is asked at one place of a text, with everything from there on, and answers
what it recognises and how many characters that takes.  A text is read by a pattern
from the left: where it matches, the match is taken and reading goes on behind it,
elsewhere one character is passed over.  Everything that searches, replaces or splits
is a list function on the resulting pieces.
-/
namespace Paperwork.Text

/-- What is recognised at the head of a text, with its length in characters. -/
abbrev Pattern (α : Type) := List Char → Option (α × Nat)

/-- A part of a text read by a pattern. -/
inductive Piece (α : Type)
  | plain (c : Char)
  | hit (a : α)

/-- The parts of a text read by a pattern, beginning behind `skip` characters. -/
def piecesFrom {α : Type} (p : Pattern α) : Nat → List Char → List (Piece α)
  | _, [] => []
  | skip + 1, _ :: rest => piecesFrom p skip rest
  | 0, c :: rest =>
    match p (c :: rest) with
    | some (a, length) => .hit a :: piecesFrom p (length - 1) rest
    | none => .plain c :: piecesFrom p 0 rest

/-- The parts of a text read by a pattern. -/
def pieces {α : Type} (p : Pattern α) (cs : List Char) : List (Piece α) := piecesFrom p 0 cs

/-- A text with every match replaced. -/
def replaced {α : Type} (p : Pattern α) (filling : α → List Char) (cs : List Char) : List Char :=
  (pieces p cs).flatMap fun
    | .plain c => [c]
    | .hit a => filling a

/-- The matches in a text, from left to right. -/
def matchesIn {α : Type} (p : Pattern α) (cs : List Char) : List α :=
  (pieces p cs).filterMap fun
    | .plain _ => none
    | .hit a => some a

/-- The pieces of text between the matches. -/
def between {α : Type} (p : Pattern α) (cs : List Char) : List (List Char) :=
  ((pieces p cs).foldr
    (fun piece (chunk, chunks) =>
      match piece with
      | .plain c => (c :: chunk, chunks)
      | .hit _ => ([], chunk :: chunks))
    (([] : List Char), ([] : List (List Char)))) |> fun (chunk, chunks) => chunk :: chunks

/-- The first place of a text at which `p` answers: the text before it and the answer. -/
def search {α : Type} (p : List Char → Option α) : List Char → Option (List Char × α)
  | [] => (p []).map fun a => ([], a)
  | c :: rest =>
    match p (c :: rest) with
    | some a => some ([], a)
    | none => (search p rest).map fun (before, a) => (c :: before, a)

/-! ### Parts of patterns -/

/-- The text up to the first occurrence of a character and the text behind it. -/
def upTo? (stop : Char) : List Char → Option (List Char × List Char)
  | [] => none
  | c :: rest =>
    if c = stop then some ([], rest)
    else (upTo? stop rest).map fun (before, after) => (c :: before, after)

/-- The text behind a given beginning. -/
def behind? : List Char → List Char → Option (List Char)
  | [], cs => some cs
  | _ :: _, [] => none
  | p :: ps, c :: cs => if p = c then behind? ps cs else none

end Paperwork.Text
