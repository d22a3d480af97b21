import Lexicon.CommandLine
import Lexicon.Log.Filter

/-!
# Runs of the program

What a run of the program leaves behind, given its arguments and its environment: an exit code and
the contents of its two output streams. Output goes to the first stream; log lines and errors go to
the second.

* `Program.run` — the outcome of a run whose output is taken in full.
-/

namespace Lexicon.Program

/-- The environment variables that the program reads, as far as they are set. -/
structure Environment where
  format : Option Bytes := none
  logFilter : Option Bytes := none
deriving DecidableEq, Repr

/-- What a run leaves behind. -/
structure Outcome where
  exitCode : ExitCode
  output : Bytes := []
  errors : String := ""
deriving DecidableEq, Repr

/-- The outcome of a command line that leads to no command: its text goes to the stream that it
belongs to. -/
def refused (refusal : Refusal) : Outcome :=
  if refusal.isError then { exitCode := refusal.exitCode, errors := refusal.streamedText }
  else { exitCode := refusal.exitCode, output := Utf8.encode refusal.streamedText }

/-- The log lines that a filter lets through, each with its line feed. -/
def logText (filter : Filter) (log : List Record) : String :=
  String.join ((log.filterMap filter.line?).map (· ++ "\n"))

/-- The outcome of a run that has ended: the log lines, then the message of a failure. A command
without a failure has an exit code too; if it is not zero, the program ends with it. -/
def finished (filter : Filter) (run : Run CommandError ExitCode) : Outcome :=
  let log := logText filter run.log
  match run.result with
  | .ok exitCode =>
    { exitCode := if exitCode.value ≠ 0 then exitCode else .success
      output := run.out
      errors := log }
  | .error error =>
    { exitCode := error.failure.exitCode
      output := run.out
      errors := log ++ error.failure.shown }

def run (environment : Environment) (arguments : List Bytes) : Outcome :=
  match CommandLine.read arguments with
  | .error refusal => refused refusal
  | .ok command =>
    finished (Filter.ofVariable environment.logFilter)
      ((command.script environment.format).run {})

end Lexicon.Program
