/-
The commands of the program.

A command reads files, makes something of them, and writes it to one file.  Nothing is
written before all of it is made.  The words of the command line are looked at in two
steps: first what stands before the name of the command, then, when the settings are
known, what stands behind it.
-/
import Paperwork.Command.Files
import Paperwork.Command.Options
import Paperwork.Data.Json.Reader
import Paperwork.Data.Json.Writer
import Paperwork.Settings.Environment
import Paperwork.Template.Write

namespace Paperwork

open Paperwork.Html

/-- A command. -/
inductive Command
  | compile | convert | generate | render
  deriving DecidableEq, Repr

namespace Command

/-- All commands. -/
def all : List Command := [compile, convert, generate, render]

/-- The name of a command. -/
def name : Command → String
  | compile => "compile"
  | convert => "convert"
  | generate => "generate"
  | render => "render"

/-- The options of a command. -/
def options : Command → List OptionSpec
  | compile => [.demanded "--schema" ["[required]"], .demanded "--out" ["[required]"]]
  | convert => [.demanded "--html" ["[required]"], .demanded "--out" ["[required]"]]
  | generate =>
    [.demanded "--template"
        ["Template record JSON (name, json_schema, metadata)", "[required]"],
      .demanded "--data" ["[required]"],
      ⟨"--format", Format.all.map Format.name, false, []⟩,
      .demanded "--out" ["[required]"]]
  | render =>
    [.demanded "--template" ["TemplateConfig JSON  [required]"],
      .demanded "--data" ["Form data JSON  [required]"], .demanded "--out" ["[required]"]]

/-- The option for the file that defines variables. -/
def definitionsOption : String := "--env-file"

/-- The options before the name of a command. -/
def commonOptions : List OptionSpec :=
  [⟨definitionsOption, [], false, ["Path to a .env file with FORMDOC_* settings"]⟩]

/-! ### Endings -/

/-- What makes a command break off. -/
inductive Crash
  | file (cause : FileError)
  | json (cause : Json.ReadError)
  | unusableVariable (cause : Environment.UnusableVariable)
  | settings (faults : List Fault)
  | template (faults : List Fault)
  | abandoned (cause : Interruption)
  | inputs (cause : PairsError)
  | fill (cause : FillError)
  | reference (cause : ReferenceTooLong)
  | produce (cause : ProduceError)

/-- Why a file is not used, in words. -/
def fileMessage : FileError → String
  | .notFound => "no such file"
  | .isDirectory => "is a directory"
  | .notDirectory => "is not a directory"
  | .alreadyExists => "already exists and is not a directory"
  | .notText => "is not a text"

/-- What makes a command break off, in words. -/
def Crash.message : Crash → String
  | file cause => "A file cannot be used: " ++ fileMessage cause
  | json _ => "A file is not JSON"
  | unusableVariable cause => "The variable " ++ cause.name ++ " cannot be defined"
  | settings faults =>
    "Invalid formdoc settings: " ++ String.intercalate "; " (faults.map Fault.text)
  | template faults => "Invalid template: " ++ String.intercalate "; " (faults.map Fault.text)
  | abandoned _ => "A value cannot be examined"
  | inputs _ => "The form data is not an object"
  | fill _ => "The template cannot be filled"
  | reference _ => "A character reference is too long"
  | produce _ => "No document can be made"

/-- How a command ends.  One that is refused or misused says why; one that breaks off
prints nothing. -/
inductive Ending
  | done (output : String)
  | misused (output : String)
  | refused (reason : String)
  | broken (cause : Crash)

namespace Ending

/-- The exit code of the program. -/
def exitCode : Ending → Nat
  | done _ => 0
  | misused _ => 2
  | refused _ => 1
  | broken _ => 1

/-- What the program prints. -/
def output : Ending → String
  | done output => output
  | misused output => output
  | refused reason => "Error: " ++ reason ++ "\n"
  | broken _ => ""

end Ending

/-- The way to call the program, or one of its commands. -/
def usage : Option Command → String
  | none => "Usage: formdoc [OPTIONS] COMMAND [ARGS]...\n"
  | some command => "Usage: formdoc " ++ command.name ++ " [OPTIONS]\n"

/-- The end of a run with a wrong command line. -/
def misuse (command : Option Command) (error : UsageError) : Ending :=
  let called := "formdoc" ++ ((command.map fun c => " " ++ c.name).getD "")
  .misused (usage command ++ "Try '" ++ called ++ " --help' for help.\n\nError: "
    ++ error.message ++ "\n")

/-- The end of a run that asks for help. -/
def help : Option Command → Ending
  | some command => .done (usage (some command) ++ helpOptions command.options)
  | none =>
    .done (usage none ++ helpOptions commonOptions ++ "\nCommands:\n"
      ++ String.join (all.map fun command => helpEntry 0 command.name []))

/-! ### What commands make -/

/-- A step of a command: it ends the run, or goes on with a result. -/
abbrev Running (α : Type) := ExceptT Ending Noted α

/-- A result, or an error that makes the command break off. -/
def step {ε α : Type} (wrap : ε → Crash) (result : Except ε α) : Running α :=
  ExceptT.mk (pure (result.mapError fun cause => .broken (wrap cause)))

/-- The value in a JSON file. -/
def readJson (files : Files) (name : String) : Running Value := do
  step .json (Json.ofText (← step .file (files.readText name)))

/-- The text of a value in a JSON file. -/
def jsonText (value : Value) : FileContent := .text (String.ofList (Json.indented 0 value))

/-- A template read from a value. -/
def readTemplate (value : Value) : Running Template := do
  match ← ExceptT.lift (Template.check value) with
  | .valid template => return template
  | .faulty faults => throw (.broken (.template faults))
  | .abandoned cause => throw (.broken (.abandoned cause))

/-- The page that a template and form data make. -/
def renderedPage (settings : Settings) (template data : Value) : Running FileContent := do
  let template ← readTemplate template
  let data ← step .inputs (Fields.ofData data)
  let page ← step .fill (template.page data none settings.defaultTitle)
  return .text (String.ofList page)

/-- The document that a stored template and form data make. -/
def generatedDocument (settings : Settings) (time : Moment) (template inputs : Value)
    (format : String) : Running FileContent := do
  let request : Request :=
    { template, inputs, format := .text format, settings, printer := none, time }
  match ← ExceptT.lift request.produce.run with
  | .ok made => return .document made.content
  | .error cause =>
    match cause.message? with
    | some message => throw (.refused message)
    | none => throw (.broken (.produce cause))

/-- What a command makes of the files. -/
def made (command : Command) (settings : Settings) (time : Moment) (given : Given)
    (files : Files) : Running FileContent := do
  let value (name : String) : String := (given.value? name).getD ""
  match command with
  | compile =>
    let schema ← readJson files (value "--schema")
    return jsonText (← ExceptT.lift (Record.compiled schema)).toValue
  | convert =>
    let page ← step .file (files.readText (value "--html"))
    let converted ← ExceptT.lift (Paperwork.convert (.atMost settings.cap) page.toList).run
    return jsonText (← step .reference converted).toValue
  | render =>
    let template ← readJson files (value "--template")
    renderedPage settings template (← readJson files (value "--data"))
  | generate =>
    let template ← readJson files (value "--template")
    let data ← readJson files (value "--data")
    generatedDocument settings time template data ((given.value? "--format").getD "pdf")

/-! ### Running -/

/-- Runs a command with the words behind its name. -/
def runWith (command : Command) (settings : Settings) (time : Moment) (words : List String)
    (files : Files) : Running (Ending × Files) := do
  match readWords command.options true words with
  | .error error => return (misuse (some command) error, files)
  | .ok given =>
    if given.help then return (help (some command), files)
    else
      match checkGiven command.options given with
      | .error error => return (misuse (some command) error, files)
      | .ok _ =>
        let out := (given.value? "--out").getD ""
        let content ← command.made settings time given files
        let files ← step .file (files.write out content)
        return (.done ("Wrote " ++ out ++ "\n"), files)

/-- The settings of a run: a file of definitions that is missing defines nothing. -/
def settingsOf (environment : Environment) (file : Option String) (files : Files) :
    Running Settings := do
  let text :=
    match file with
    | some name => (files.readText name).toOption.getD ""
    | none => ""
  match ← step .unusableVariable (environment.settings text) with
  | .valid settings => return settings
  | .faulty faults => throw (.broken (.settings faults))
  | .abandoned cause => throw (.broken (.abandoned cause))

/-- The end of a run whose command is not known.  Where it looks like an option, which can
only stand behind two dashes, it is read as one. -/
def unknown (word : String) (words : List String) : Ending :=
  match readWords commonOptions false (word :: words) with
  | .error error => misuse none error
  | .ok given =>
    if given.help then help none
    else misuse none (.noSuchCommand word (Text.closeWords (all.map name) word))

/-- Runs the command that a word names. -/
def runNamed (environment : Environment) (time : Moment) (file : Option String) (word : String)
    (words : List String) (files : Files) : Running (Ending × Files) := do
  match all.find? fun command => command.name = word with
  | none => return (unknown word words, files)
  | some command =>
    let settings ← settingsOf environment file files
    ExceptT.mk ((command.runWith settings time words files).run.noticing settings.logLevel.admits)

/-- Runs a command line: how it ends, and the files afterwards. -/
def run (environment : Environment) (time : Moment) (words : List String) (files : Files) :
    Noted (Ending × Files) := do
  match readWords commonOptions false words with
  | .error error => return (misuse none error, files)
  | .ok given =>
    if given.help then return (help none, files)
    else
      match given.words with
      | [] => return (misuse none .commandMissing, files)
      | word :: words =>
        let file := given.value? definitionsOption
        match ← (runNamed environment time file word words files).run with
        | .ok finished => return finished
        | .error ending => return (ending, files)

end Command
end Paperwork
