/-
What can be set once for all documents.
-/
import Paperwork.Notice
import Paperwork.Number.Text

namespace Paperwork

/-- How much is told about the work. -/
inductive LogLevel
  | critical | error | warning | info | debug
  deriving DecidableEq, Repr

namespace LogLevel

/-- All levels. -/
def all : List LogLevel := [critical, error, warning, info, debug]

/-- The name of a level. -/
def name : LogLevel → String
  | critical => "CRITICAL"
  | error => "ERROR"
  | warning => "WARNING"
  | info => "INFO"
  | debug => "DEBUG"

/-- Whether notices are given at a level. -/
def admits (level : LogLevel) (notice : Notice) : Bool :=
  match notice.severity with
  | .debug => level = debug
  | .warning => level = debug || level = info || level = warning

end LogLevel

/-- The settings of the program.  The font size is in points, and `cap` is the number
of steps in which a page may be read. -/
structure Settings where
  logLevel : LogLevel
  fontName : String
  fontSize : Number
  cap : Int
  defaultTitle : String
  deriving DecidableEq, Repr

namespace Settings

/-- The settings that hold where nothing else is said. -/
def standard : Settings := ⟨.info, "Calibri", .int 11, 10000, "Document"⟩

end Settings
end Paperwork
