import Lexicon.Program

/-!
The command line of the program: hands arguments and environment to `Program.run` and writes what
it returns.
-/

open Lexicon

/-- Runs the program and ends with its exit code. -/
def main (arguments : List String) : IO UInt32 := do
  let format ← IO.getEnv formatVariable
  let logFilter ← IO.getEnv "RUST_LOG"
  let environment : Program.Environment :=
    { format := format.map Utf8.encode, logFilter := logFilter.map Utf8.encode }
  let outcome := Program.run environment (arguments.map Utf8.encode)
  let stdout ← IO.getStdout
  stdout.write ⟨outcome.output.toArray⟩
  stdout.flush
  IO.eprint outcome.errors
  return outcome.exitCode.value.toUInt32
