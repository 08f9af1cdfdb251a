/-
Looking up the named characters of HTML.

The names that escaping produces are answered on their own, before the whole table is
asked, so that reading back an escaped text rests on these few lines only.
-/
import Std.Data.HashMap
import Paperwork.Html.Entity.Bare
import Paperwork.Html.Entity.Upper
import Paperwork.Html.Entity.FirstLower
import Paperwork.Html.Entity.LastLower

namespace Paperwork.Html

/-- All names, indexed. -/
def nameIndex : Std.HashMap String (List Nat) :=
  Std.HashMap.ofList (upperNames ++ firstLowerNames ++ lastLowerNames)

/-- The characters a name stands for. -/
def named? (name : List Char) : Option (List Char) :=
  match name with
  | ['a', 'm', 'p'] => some ['&']
  | ['l', 't'] => some ['<']
  | ['g', 't'] => some ['>']
  | ['q', 'u', 'o', 't'] => some ['"']
  | name => nameIndex[String.ofList name]?.map fun codes => codes.map Char.ofNat

/-- The names understood without a semicolon, indexed. -/
def bareIndex : Std.HashMap String Unit :=
  Std.HashMap.ofList (bareNames.map fun name => (name, ()))

/-- The characters a name stands for where no semicolon follows it. -/
def bareNamed? (name : List Char) : Option (List Char) :=
  if bareIndex.contains (String.ofList name) then named? name else none

end Paperwork.Html
