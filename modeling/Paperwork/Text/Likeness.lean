/-
How alike two texts are.

The longest piece that two texts share is found, then the longest one in front of it and
the longest one behind it, and so on.  Texts are alike if what they share in this way
makes up enough of both.
-/
namespace Paperwork.Text

/-- The number of characters that two texts begin with alike. -/
def commonStart : List Char → List Char → Nat
  | a :: as, b :: bs => if a = b then commonStart as bs + 1 else 0
  | _, _ => 0

/-- A piece that two texts share: where it stands in each of them, and its length. -/
structure SharedPiece where
  inFirst : Nat
  inSecond : Nat
  length : Nat

/-- The longer of two pieces, and the first of them where they are equally long. -/
def SharedPiece.longer (piece other : SharedPiece) : SharedPiece :=
  if piece.length < other.length then other else piece

/-- The longest piece that two texts share; of several the one that stands first. -/
def longestShared (as bs : List Char) : SharedPiece :=
  let pieces := (List.range as.length).flatMap fun i =>
    (List.range bs.length).map fun j => ⟨i, j, commonStart (as.drop i) (bs.drop j)⟩
  pieces.foldl SharedPiece.longer ⟨0, 0, 0⟩

/-- The number of characters that two texts share. -/
def sharedLength (as bs : List Char) : Nat :=
  match longestShared as bs with
  | ⟨i, j, length⟩ =>
    if _h : 0 < length ∧ i < as.length then
      sharedLength (as.take i) (bs.take j) + length
        + sharedLength (as.drop (i + length)) (bs.drop (j + length))
    else 0
termination_by as.length
decreasing_by all_goals simp only [List.length_take, List.length_drop]; omega

/-! ### Close words -/

/-- How alike two words are: what they share, of all the characters that they have. -/
structure Likeness where
  shared : Nat
  total : Nat

namespace Likeness

/-- The likeness of two words. -/
def ofWords (a b : String) : Likeness :=
  ⟨sharedLength a.toList b.toList, a.length + b.length⟩

/-- Whether words are alike: three fifths of all their characters are shared. -/
def isClose (l : Likeness) : Bool := 3 * l.total ≤ 10 * l.shared

/-- Whether a likeness is at least as great as another. -/
def atLeast (l m : Likeness) : Bool := m.shared * l.total ≤ l.shared * m.total

end Likeness

/-- The greatest number of words that are taken for close to another. -/
def mostClose : Nat := 3

/-- The known words that are closest to a word, in order. -/
def closeWords (known : List String) (word : String) : List String :=
  let close := (known.map fun k => (Likeness.ofWords k word, k)).filter fun (l, _) => l.isClose
  let ranked := close.mergeSort fun (l, a) (m, b) =>
    l.atLeast m && (!m.atLeast l || b ≤ a)
  ((ranked.take mostClose).map Prod.snd).mergeSort (· ≤ ·)

end Paperwork.Text
