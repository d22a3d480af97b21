import Lexicon.Log
import Lexicon.Sink

/-!
# Scripts

A command is a script: the records it logs and the texts it writes, in order, with the verdict it
reaches if every write goes through and the error it turns a refused write into. The verdict is an
error or the value that the command ends with. Running a script into a sink carries the steps out up
to the first refused write.

* `Script.run` — the result, the bytes written and the records logged;
* `Script.within` — a script with a span around all it logs;
* `Script.map`, `Script.mapError` — a script that tells its value or its errors in other terms.
-/

namespace Lexicon

/-- One thing that a command does. -/
inductive Step where
  | log (record : Record)
  | write (text : String)
deriving DecidableEq, Repr

/-- What a command does, and how it ends. -/
structure Script (ε α : Type) where
  steps : List Step
  verdict : Except ε α
  refused : Fault → ε

/-- What the steps of a script led to, and the sink that is left. -/
structure Trace where
  out : Bytes := []
  log : List Record := []
  fault : Option Fault := none
  sink : Sink
deriving DecidableEq, Repr

/-- What a script led to. -/
structure Run (ε α : Type) where
  result : Except ε α
  out : Bytes
  log : List Record
  sink : Sink

namespace Step

def within (span : Span) : Step → Step
  | .log record => .log (record.within span)
  | .write text => .write text

/-- Carries steps out, up to the first refused write. -/
def runAll (sink : Sink) : List Step → Trace
  | [] => { sink }
  | .log record :: rest =>
    let trace := runAll sink rest
    { trace with log := record :: trace.log }
  | .write text :: rest =>
    let bytes := Utf8.encode text
    if sink.holds bytes then
      let trace := runAll (sink.after bytes) rest
      { trace with out := bytes ++ trace.out }
    else { out := sink.take bytes, fault := some sink.fault, sink := sink.after bytes }

end Step

namespace Script

variable {ε ε' α β : Type}

def within (span : Span) (script : Script ε α) : Script ε α :=
  { script with steps := script.steps.map (Step.within span) }

/-- A script that first logs some records. -/
def afterLogging (records : List Record) (script : Script ε α) : Script ε α :=
  { script with steps := records.map Step.log ++ script.steps }

/-- A script that ends with another value. -/
def map (f : α → β) (script : Script ε α) : Script ε β :=
  { steps := script.steps
    verdict := script.verdict.map f
    refused := script.refused }

/-- A script whose errors are told in other terms. -/
def mapError (f : ε → ε') (script : Script ε α) : Script ε' α :=
  { steps := script.steps
    verdict := script.verdict.mapError f
    refused := fun fault => f (script.refused fault) }

def run (script : Script ε α) (sink : Sink) : Run ε α :=
  let trace := Step.runAll sink script.steps
  { result := match trace.fault with
      | none => script.verdict
      | some fault => .error (script.refused fault)
    out := trace.out
    log := trace.log
    sink := trace.sink }

end Script

end Lexicon
