import Lexicon.Text.Utf8

/-!
# Sinks

Where output goes. A sink has room for a number of bytes, or for any number; it takes as much of
what is written to it as it has room for, and a write that does not fit fails.

* `Sink.holds`, `Sink.take`, `Sink.after` — whether a write fits, what of it is taken, and the sink
  that is left.
-/

namespace Lexicon

/-- How a sink refuses bytes. -/
inductive Fault where
  /-- The sink reports that it is full. -/
  | full
  /-- The sink takes no byte and reports nothing. -/
  | stalled
deriving DecidableEq, Repr

def Fault.message : Fault → String
  | .full => "sink full"
  | .stalled => "failed to write whole buffer"

/-- A place for output: the bytes that it still has room for, and how it refuses more. -/
structure Sink where
  room : Option Nat := none
  fault : Fault := .full
deriving DecidableEq, Repr

namespace Sink

/-- Whether a write fits. Writing nothing always fits. -/
def holds (sink : Sink) (bytes : Bytes) : Bool :=
  match sink.room with
  | none => true
  | some room => bytes.length ≤ room

def take (sink : Sink) (bytes : Bytes) : Bytes :=
  match sink.room with
  | none => bytes
  | some room => bytes.take room

def after (sink : Sink) (bytes : Bytes) : Sink :=
  { sink with room := sink.room.map (· - bytes.length) }

end Sink

end Lexicon
