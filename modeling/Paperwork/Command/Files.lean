/-
The files that a command sees.

A file has a path, which is the names of the directories down to it and its own name.
There is a directory wherever a file lies below.
-/
import Paperwork.Output.Produce
import Paperwork.Text.Lines

namespace Paperwork

open Paperwork.Text

/-- The names that lead to a file or directory; an empty name in front stands for the
root. -/
abbrev FileName := List String

namespace FileName

/-- A path, written backwards, with a name more: a dot stays where it is, and two dots go
back as far as there are names. -/
def step (path : FileName) (name : String) : FileName :=
  if name = "" ∨ name = "." then path
  else if name = ".." then
    match path with
    | [] => [name]
    | last :: rest => if last = ".." then name :: path else if last = "" then path else rest
  else name :: path

/-- A path as it is written. -/
def ofText (text : String) : FileName :=
  let names := (splitWhere (· == '/') text.toList).map String.ofList
  let start := if text.toList.head? = some '/' then [""] else []
  (names.foldl step start).reverse

end FileName

/-- What a file holds. -/
inductive FileContent
  | text (text : String)
  | document (content : Content)
  | bytes (bytes : List UInt8)
  deriving DecidableEq, Repr

/-- Files by their paths. -/
abbrev Files := List (FileName × FileContent)

/-- Why a file is not read or written. -/
inductive FileError
  | notFound
  | isDirectory
  | notDirectory
  | alreadyExists
  | notText
  deriving DecidableEq, Repr

namespace Files

/-- Whether there is a file at a path. -/
def isFile (files : Files) (path : FileName) : Bool := (files.lookup path).isSome

/-- Whether a path leads on from a file. -/
def isBlocked (files : Files) (path : FileName) : Bool :=
  (List.range path.length).any fun n => files.isFile (path.take n)

/-- Whether there is a directory at a path. -/
def isDirectory (files : Files) (path : FileName) : Bool :=
  path.isEmpty || files.any fun (p, _) => path.isPrefixOf p && p != path

/-- Whether a name can only be that of a directory. -/
def namesDirectory (name : String) : Bool := name.toList.getLast? == some '/'

/-- What the file of a name holds. -/
def get (files : Files) (name : String) : Except FileError FileContent :=
  let path := FileName.ofText name
  if name.isEmpty then .error .notFound
  else
    match files.lookup path with
    | some content => if namesDirectory name then .error .notDirectory else .ok content
    | none =>
      if files.isBlocked path then .error .notDirectory
      else if files.isDirectory path then .error .isDirectory
      else .error .notFound

/-- The text of a file, with a line feed at every end of a line. -/
def readText (files : Files) (name : String) : Except FileError String := do
  match ← files.get name with
  | .text text => return String.ofList (withLineFeeds text.toList)
  | _ => throw .notText

/-- Files in which the one at a path holds `content`. -/
def set (files : Files) (path : FileName) (content : FileContent) : Files :=
  if files.isFile path then
    files.map fun (p, old) => if p = path then (p, content) else (p, old)
  else files ++ [(path, content)]

/-- Files after `content` is written under a name.  The directories on the way are made
where they are missing. -/
def write (files : Files) (name : String) (content : FileContent) : Except FileError Files :=
  let path := FileName.ofText name
  let directory := if namesDirectory name then path else path.dropLast
  if name.isEmpty then .error .notFound
  else if files.isFile directory then .error .alreadyExists
  else if files.isBlocked directory then .error .notDirectory
  else if namesDirectory name || files.isDirectory path then .error .isDirectory
  else .ok (files.set path content)

end Files
end Paperwork
