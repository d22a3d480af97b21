/-!
# How a program ends

* `ExitCode` — the number handed to the caller;
* `Failure` — a message for the user together with an exit code.
-/

namespace Lexicon

/-- The number that a finished program hands to its caller. -/
structure ExitCode where
  value : Int32
deriving DecidableEq, Repr

namespace ExitCode

def success : ExitCode := ⟨0⟩

def failure : ExitCode := ⟨1⟩

/-- The command line could not be read. -/
def usage : ExitCode := ⟨2⟩

end ExitCode

/-- A message for the user and the exit code that goes with it. -/
structure Failure where
  message : String
  exitCode : ExitCode := .failure
deriving DecidableEq, Repr

namespace Failure

/-- Whether the exit code is the ordinary one of a failed command. -/
def isOrdinary (failure : Failure) : Bool :=
  failure.exitCode == .failure

/-- What is shown of a failure: its message on a line, or nothing if there is no message. -/
def shown (failure : Failure) : String :=
  if failure.message.isEmpty then "" else failure.message ++ "\n"

end Failure

end Lexicon
