/-
The options of a command line.

An option is followed by its value, or has it behind an equals sign.  Where options and
other words may be mixed, the words are collected; elsewhere the first other word ends
the options.  Two dashes alone end them everywhere.
-/
import Paperwork.Text.Quoted
import Paperwork.Text.LetterCase
import Paperwork.Text.Likeness
import Paperwork.Text.Pattern

namespace Paperwork

open Paperwork.Text

/-- An option that takes a value: its name, the values it can have if they are limited,
whether it has to be given, and the lines that describe it. -/
structure OptionSpec where
  name : String
  choices : List String
  required : Bool
  description : List String

namespace OptionSpec

/-- An option that has to be given. -/
def demanded (name : String) (description : List String) : OptionSpec :=
  ⟨name, [], true, description⟩

end OptionSpec

/-- The option that asks for help. -/
def helpName : String := "--help"

/-- What is wrong with a command line.  With a name that is not known come the names that
may have been meant. -/
inductive UsageError
  | noSuchOption (name : String) (close : List String)
  | valueMissing (name : String)
  | valueUnwanted (name : String)
  | optionMissing (name : String)
  | notAChoice (name value : String) (choices : List String)
  | noSuchCommand (name : String) (close : List String)
  | commandMissing
  | extraWords (words : List String)
  deriving DecidableEq, Repr

/-- The question whether one of some names is meant. -/
def suggestion : List String → String
  | [] => ""
  | [name] => " Did you mean " ++ quoted name ++ "?"
  | names => " (Did you mean one of: " ++ String.intercalate ", " (names.map quoted) ++ "?)"

/-- What is wrong, in words. -/
def UsageError.message : UsageError → String
  | noSuchOption name close => "No such option " ++ quoted name ++ "." ++ suggestion close
  | valueMissing name => "Option " ++ quoted name ++ " requires an argument."
  | valueUnwanted name => "Option " ++ quoted name ++ " does not take a value."
  | optionMissing name => "Missing option " ++ quoted name ++ "."
  | notAChoice name value choices =>
    "Invalid value for " ++ quoted name ++ ": " ++ quoted value ++ " is not one of "
      ++ String.intercalate ", " (choices.map quoted) ++ "."
  | noSuchCommand name close => "No such command " ++ quoted name ++ "." ++ suggestion close
  | commandMissing => "Missing command."
  | extraWords words =>
    (if words.length = 1 then "Got unexpected extra argument ("
      else "Got unexpected extra arguments (") ++ String.intercalate " " words ++ ")"

/-- What is read of a command line: options with their values in the order in which they
are given, whether help is asked for, and the other words. -/
structure Given where
  values : List (String × String)
  help : Bool
  words : List String

namespace Given

/-- Nothing at all. -/
def nothing : Given := ⟨[], false, []⟩

/-- An option with its value in front of what is given. -/
def withValue (name value : String) (given : Given) : Given :=
  { given with values := (name, value) :: given.values }

/-- A demand for help in front of what is given. -/
def withHelp (given : Given) : Given := { given with help := true }

/-- Words in front of what is given. -/
def withWords (words : List String) (given : Given) : Given :=
  { given with words := words ++ given.words }

/-- The value of an option that was given last. -/
def value? (given : Given) (name : String) : Option String := given.values.reverse.lookup name

end Given

/-- The name and the value of an option that are written as one word. -/
def splitWord (word : String) : String × Option String :=
  match upTo? '=' word.toList with
  | some (name, value) => (String.ofList name, some (String.ofList value))
  | none => (word, none)

/-- The error where a word names no option: of a word with one dash the first letter is
missed. -/
def missed (specs : List OptionSpec) (word : String) : UsageError :=
  match word.toList with
  | '-' :: '-' :: _ =>
    let name := (splitWord word).1
    .noSuchOption name (closeWords (helpName :: specs.map OptionSpec.name) name)
  | '-' :: c :: _ => .noSuchOption (String.ofList ['-', c]) []
  | _ => .noSuchOption word []

/-- Reads a command line. -/
def readWords (specs : List OptionSpec) (mixed : Bool) : List String → Except UsageError Given
  | [] => .ok .nothing
  | word :: rest =>
    match word.toList with
    | ['-', '-'] => .ok (Given.nothing.withWords rest)
    | '-' :: _ :: _ =>
      let (name, value) := splitWord word
      if name = helpName then
        match value with
        | some _ => .error (.valueUnwanted name)
        | none => (readWords specs mixed rest).map Given.withHelp
      else if specs.any fun spec => spec.name = name then
        match value, rest with
        | some value, rest => (readWords specs mixed rest).map (Given.withValue name value)
        | none, value :: rest => (readWords specs mixed rest).map (Given.withValue name value)
        | none, [] => .error (.valueMissing name)
      else .error (missed specs word)
    | _ =>
      if mixed then (readWords specs mixed rest).map (Given.withWords [word])
      else .ok (Given.nothing.withWords (word :: rest))

/-- The first option whose value is not one of its choices.  Upper and lower case are the
same. -/
def wrongChoice? (specs : List OptionSpec) (given : Given) : Option UsageError :=
  specs.findSome? fun spec =>
    match given.value? spec.name with
    | some value =>
      if spec.choices.isEmpty
          || spec.choices.any fun choice => choice.toList = lowerText value.toList then none
      else some (.notAChoice spec.name value spec.choices)
    | none => none

/-- Whether a command line gives what is demanded and nothing else. -/
def checkGiven (specs : List OptionSpec) (given : Given) : Except UsageError Unit :=
  match wrongChoice? specs given with
  | some error => .error error
  | none =>
    match specs.find? fun spec => spec.required && (given.value? spec.name).isNone with
    | some spec => .error (.optionMissing spec.name)
    | none => if given.words.isEmpty then .ok () else .error (.extraWords given.words)

/-! ### Help -/

/-- An option with what stands for its value. -/
def OptionSpec.heading (spec : OptionSpec) : String :=
  if spec.choices.isEmpty then spec.name ++ " TEXT"
  else spec.name ++ " [" ++ String.intercalate "|" spec.choices ++ "]"

/-- Blanks. -/
def blanks (count : Nat) : String := String.ofList (List.replicate count ' ')

/-- A heading with its lines in a column of their own. -/
def helpEntry (width : Nat) (heading : String) (lines : List String) : String :=
  match lines with
  | [] => "  " ++ heading ++ "\n"
  | line :: lines =>
    "  " ++ heading ++ blanks (width + 2 - heading.length) ++ line ++ "\n"
      ++ String.join (lines.map fun line => blanks (width + 4) ++ line ++ "\n")

/-- The list of options. -/
def helpOptions (specs : List OptionSpec) : String :=
  let entries := (specs.map fun spec => (spec.heading, spec.description))
    ++ [(helpName, ["Show this message and exit."])]
  let width := entries.foldl (fun n (heading, _) => max n heading.length) 0
  "\nOptions:\n" ++ String.join (entries.map fun (heading, lines) => helpEntry width heading lines)

end Paperwork
