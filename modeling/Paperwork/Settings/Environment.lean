/-
Settings taken from the environment.

Each setting has a variable.  A file of definitions defines variables that the
environment does not; what stays undefined or empty is set as usual.
-/
import Paperwork.Settings.Check
import Paperwork.Settings.Definitions
import Paperwork.Text.Lines

namespace Paperwork

open Paperwork.Text

/-- The names of variables with their values. -/
abbrev Environment := List (String × String)

/-- The variables for settings, each with the field that it sets. -/
def Settings.variables : List (String × String) :=
  [("FORMDOC_LOG_LEVEL", "log_level"), ("FORMDOC_FONT_NAME", "font_name"),
    ("FORMDOC_FONT_SIZE", "font_size"), ("FORMDOC_MAX_CONVERT_ITERATIONS", "max_convert_iterations"),
    ("FORMDOC_DEFAULT_TITLE", "default_title")]

namespace Environment

/-- Whether an environment can hold a variable. -/
def canHold (name value : String) : Bool :=
  !name.toList.contains '=' && !name.toList.contains '\x00' && !value.toList.contains '\x00'

/-- The value of a variable: that of the environment if it has one, else the last one
in a file. -/
def value? (environment : Environment) (known : Definition.Known) (name : String) : Option String :=
  match environment.lookup name with
  | some text => some text
  | none => (known.lookup name).join

/-- A file defines a variable that no environment can hold. -/
structure UnusableVariable where
  name : String
  deriving DecidableEq, Repr

/-- What is set by an environment and the definitions of a file. -/
def given (environment : Environment) (known : Definition.Known) : Fields :=
  Settings.variables.filterMap fun (name, field) =>
    match environment.value? known name with
    | some text => if text.isEmpty then none else some (field, .text text)
    | none => none

/-- The settings of an environment and the text of a file of definitions. -/
def settings (environment : Environment) (file : String) :
    Except UnusableVariable (Checked Settings) :=
  let text := String.ofList (withLineFeeds file.toList)
  let known := Definition.resolveAll environment (Definition.readAll text)
  match known.find? fun (name, value) =>
      (environment.lookup name).isNone && !(value.all (canHold name)) with
  | some (name, _) => .error ⟨name⟩
  | none => .ok (Settings.checkFields (environment.given known))

end Environment
end Paperwork
