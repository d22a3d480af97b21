import Lexicon.Diagnostic
import Lexicon.Exit
import Lexicon.Kind.Raw
import Lexicon.Report
import Lexicon.Script

/-!
# Commands

The three commands, each as a script that ends with an exit code.

* `Report.writing` — writes the report on the registry;
* `Command.printTokens` — the same as a command;
* `Command.renderNames` — writes the diagnostic name of every raw value;
* `Command.lookupNames` — writes the ordinal of every canonical name, and fails afterwards if there
  was any other name;
* `Command.script` — the script of a command under a value of the environment variable.
-/

namespace Lexicon

/-- Why there is no report. -/
inductive ReportError where
  /-- The rows could not be written as JSON. No report ends so: the keys of its rows are texts, and
  `Json.pretty` writes every value. -/
  | json (reason : String)
  /-- The report could not be written. -/
  | output (fault : Fault)
deriving DecidableEq, Repr

def ReportError.message : ReportError → String
  | .json reason => "failed to serialize registry: " ++ reason
  | .output fault => "failed to write report: " ++ fault.message

/-- Why a command failed. -/
inductive CommandError where
  /-- There is no report. -/
  | report (error : ReportError)
  /-- A line of output could not be written. -/
  | output (fault : Fault)
  /-- Some names are not canonical. -/
  | unknownNames (names : List UnknownName)
deriving DecidableEq, Repr

namespace CommandError

/-- The wording of a command error. Diagnostics are joined by a line feed. -/
def message : CommandError → String
  | .report error => "Error: " ++ error.message
  | .output fault => "Error writing output: " ++ fault.message
  | .unknownNames names => "\n".intercalate (names.map UnknownName.rendered)

def failure (error : CommandError) : Failure :=
  { message := error.message }

end CommandError

def Report.writing (config : Config) : Script ReportError Unit where
  steps := [.log (Report.record config), .write (Report.render config)]
  verdict := .ok ()
  refused := .output

/-- The choices that the command `tokens` offers. -/
structure TokensOptions where
  format : Option Format := none
  noLexemes : Bool := false
  noHeader : Bool := false
deriving DecidableEq, Repr

/-- What the program can be asked to do. -/
inductive Command where
  /-- Print the registry. -/
  | tokens (options : TokensOptions)
  /-- Render raw values. -/
  | name (values : List Int32)
  /-- Look canonical names up. -/
  | lookup (names : List String)
deriving DecidableEq, Repr

namespace Command

def printTokens (config : Config) : Script CommandError ExitCode :=
  ((Report.writing config).within (.printTokens config.format)).mapError .report
    |>.map fun () => .success

/-- The steps for one raw value: its name on a line, after a warning if it stands for no kind. -/
def nameSteps (raw : Int32) : List Step :=
  match Kind.ofOrdinal? raw with
  | some kind => [.write (kind.name ++ "\n")]
  | none => [.log { event := .unnamedValue raw }, .write (Kind.nameOf raw ++ "\n")]

def renderNames (values : List Int32) : Script CommandError ExitCode :=
  Script.within (.renderNames values.length)
    { steps := values.flatMap nameSteps
      verdict := .ok .success
      refused := .output }

def resolvedLine (kind : Kind) : String :=
  kind.name ++ " " ++ toString kind.ordinal.toInt ++ "\n"

/-- The steps for one name: its line if it is canonical, and nothing otherwise. The log shows the
name as it was given. -/
def lookupSteps (name : String) : List Step :=
  match Kind.ofName? name with
  | some kind => [.log { event := .resolved name kind.ordinal }, .write (resolvedLine kind)]
  | none => []

/-- The names of a list that are not canonical. -/
def unknownNames (names : List String) : List UnknownName :=
  (names.filter fun name => (Kind.ofName? name).isNone).map UnknownName.mk

/-- Looks names up, one line to each canonical name. -/
def lookupNames (names : List String) : Script CommandError ExitCode :=
  Script.within (.lookupNames names.length)
    { steps := names.flatMap lookupSteps
      verdict :=
        match unknownNames names with
        | [] => .ok .success
        | unknown => .error (.unknownNames unknown)
      refused := .output }

/-- The settings that the command `tokens` works with, and what is logged about them. Only where
no format is given does the environment count. -/
def settings (options : TokensOptions) (environment : Option Bytes) : Config × List Event :=
  let chosen : Config × List Event := match options.format with
    | some format => ({ format }, [])
    | none => Config.ofVariable environment
  ({ chosen.1 with lexemes := !options.noLexemes, header := !options.noHeader }, chosen.2)

/-- The script of a command under a value of the environment variable for the format. -/
def script (environment : Option Bytes) : Command → Script CommandError ExitCode
  | .tokens options =>
    (printTokens (settings options environment).1).afterLogging
      ((settings options environment).2.map fun event => { event })
  | .name values => renderNames values
  | .lookup names => lookupNames names

end Command

end Lexicon
