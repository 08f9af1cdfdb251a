/-
Reading a page from front to end.

Every step reads what stands at the front of the text that is left: a wrapper, a
region, or plain text up to the next of these.  The number of steps is limited; what is
left at the limit becomes plain paragraphs.
-/
import Paperwork.Document.Wrapper

namespace Paperwork

open Paperwork.Text
open Paperwork.Html

/-- How many steps may be taken. -/
inductive Cap
  | atMost (steps : Int)
  | unlimited
  | unusable
  deriving DecidableEq, Repr

namespace Cap

/-- The cap that a value stands for. -/
def ofValue : Value → Cap
  | .bool b => atMost (if b then 1 else 0)
  | .int n => atMost n
  | .float x =>
    match x.truncate? with
    | some n => atMost n
    | none => if x.isNegative then atMost 0 else unlimited
  | _ => unusable

/-- The cap that is used where none is given. -/
def standard : Cap := atMost 10000

end Cap

/-- The number of characters of plain text that a text begins with: up to the next
wrapper or line break, at most `limit`. -/
def plainLength (limit : Nat) (cs : List Char) : Nat :=
  match search (tagName? stopNames) ((cs.take limit).drop 1) with
  | some (before, _) => 1 + before.length
  | none => limit

/-- The nodes for what stands at the front of a text, and the number of characters read.
The text stands at `position`, and `region` is the next region. -/
def readFront (position : Nat) (cs : List Char) (region : Option Region) :
    Reading (List Node × Nat) := do
  let limit :=
    match region with
    | some region => region.start - position
    | none => cs.length
  match ← Reading.ofText (unwrap? limit cs) with
  | some front => return front
  | none =>
    match region with
    | some region =>
      if region.start = position then return (← region.nodes, region.stop - position)
      else
        let length := plainLength limit cs
        return (← Reading.ofText (paragraphNodes (cs.take length)), length)
    | none =>
      let length := plainLength limit cs
      return (← Reading.ofText (paragraphNodes (cs.take length)), length)

/-- The number of characters passed by a step that has read `length` characters: the
blanks behind them are passed too, and at least one character is. -/
def passed (length : Nat) (cs : List Char) : Reading Nat :=
  let blanks := (cs.drop length).takeWhile isBlank
  if length + blanks.length = 0 then do
    Reading.note .noProgress
    return 1
  else return length + blanks.length

/-- The nodes of a text that stands at `position`, read in at most `steps` steps. -/
def scan (cap : Int) : Nat → Nat → List Char → Candidates → Reading (List Node)
  | _, _, [], _ => return []
  | 0, _, cs, _ => do
    Reading.note (.capReached cap)
    Reading.ofText (paragraphNodes cs)
  | steps + 1, position, cs, candidates => do
    let (region, candidates) := candidates.first position cs
    let (nodes, length) ← readFront position cs region
    let length ← passed length cs
    let more ← scan cap steps (position + length) (cs.drop length) candidates
    return nodes ++ more

/-- The nodes of a page.  Every step passes a character, so that without a cap as many
steps as there are characters are enough. -/
def scanPage (cap : Cap) (page : List Char) : Reading (List Node) :=
  let text := trimmed isBlank (visible page)
  match cap with
  | .atMost steps => scan steps steps.toNat 0 text Candidates.none
  | .unlimited => scan text.length text.length 0 text Candidates.none
  | .unusable => if text.isEmpty then return [] else throw .unusableCap

end Paperwork
