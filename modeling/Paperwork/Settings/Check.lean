/-
Reading settings from data.
-/
import Paperwork.Checking.Accept
import Paperwork.Settings.Basic
import Paperwork.Text.LetterCase

namespace Paperwork

open Paperwork.Text
open Checked (valid fault)

/-- A level by its name, in upper or lower case. -/
def LogLevel.check (value : Value) : Checked LogLevel :=
  match Accept.text value with
  | .valid name =>
    match LogLevel.all.find? fun level => level.name.toList = upperText name.toList with
    | some level => valid level
    | none => fault .refused
  | .faulty faults => .faulty faults
  | .abandoned cause => .abandoned cause

namespace Settings

/-- A font size: a number that is not zero or below. -/
def checkSize (value : Value) : Checked Number :=
  match Accept.double value with
  | .valid size => if size.isAtMostZero then fault .refused else valid (.float size)
  | .faulty faults => .faulty faults
  | .abandoned cause => .abandoned cause

/-- A number of steps. -/
def checkCap (value : Value) : Checked Int :=
  match Accept.integer value with
  | .valid cap => if cap ≤ 0 then fault .refused else valid cap
  | .faulty faults => .faulty faults
  | .abandoned cause => .abandoned cause

/-- The settings in the fields of an object; what is missing is as usual. -/
def checkFields (fields : Fields) : Checked Settings :=
  Settings.mk <$> Accept.field fields ["log_level"] LogLevel.check standard.logLevel
    <*> Accept.field fields ["font_name"] Accept.text standard.fontName
    <*> Accept.field fields ["font_size"] checkSize standard.fontSize
    <*> Accept.field fields ["max_convert_iterations"] checkCap standard.cap
    <*> Accept.field fields ["default_title"] Accept.text standard.defaultTitle

/-- Settings as a value. -/
def toValue (settings : Settings) : Value :=
  .object [("log_level", .text settings.logLevel.name), ("font_name", .text settings.fontName),
    ("font_size", .ofNumber settings.fontSize), ("max_convert_iterations", .int settings.cap),
    ("default_title", .text settings.defaultTitle)]

end Settings
end Paperwork
