/-
Cutting a text into words, and trimming it.
-/
import Paperwork.Text.Blank

namespace Paperwork.Text

/-- The pieces of a list between the elements that satisfy `p`: one more piece than
there are such elements. -/
def splitWhere {α : Type} (p : α → Bool) : List α → List (List α)
  | [] => [[]]
  | a :: rest =>
    if p a then [] :: splitWhere p rest
    else
      match splitWhere p rest with
      | [] => [[a]]
      | piece :: pieces => (a :: piece) :: pieces

/-- The words of a text: its longest runs without a blank. -/
def words (cs : List Char) : List (List Char) :=
  (splitWhere isBlank cs).filter fun word => !word.isEmpty

/-- Texts written one after another with a separator between them. -/
def joined (separator : List Char) : List (List Char) → List Char
  | [] => []
  | [text] => text
  | text :: rest => text ++ separator ++ joined separator rest

/-- The words of a text with one space between them. -/
def collapsed (cs : List Char) : List Char := joined [' '] (words cs)

/-- A text without the characters at its ends that satisfy `p`. -/
def trimmed (p : Char → Bool) (cs : List Char) : List Char :=
  ((cs.dropWhile p).reverse.dropWhile p).reverse

/-- Whether a text has no character that is not blank. -/
def isAllBlank (cs : List Char) : Bool := cs.all isBlank

end Paperwork.Text
