import Lexicon.CommandLine.Argument
import Lexicon.CommandLine.Refusal
import Lexicon.Text.Similarity

/-!
# Command lines with a list of values

The subcommands `name` and `lookup` take values and know one flag, `--help`. Values are collected
first and checked when the list ends or when help is asked for, so an argument that is not
understood is reported before a bad value that stands to its left.

* `Values.collect` — the values of a command line;
* `Values.numbers`, `Values.texts` — the check of each subcommand.
-/

namespace Lexicon

/-- The flag of a topic that is most similar to a name that it does not know. -/
def Topic.similarFlag? (topic : Topic) (name : String) : Option Flag :=
  (Similarity.closest? name (topic.flags.map Flag.word)).bind fun word =>
    topic.flags.find? fun flag => flag.word == word

namespace Values

/-- A long flag that `name` and `lookup` do not know. -/
def unknownLong (topic : Topic) (name : Bytes) : Refusal :=
  let shown := Argument.shownLong name
  match topic.similarFlag? (Utf8.lossy name) with
  | some flag => .unknownArgument shown (some (.flag flag)) { topic, flags := [flag] }
  | none => .unknownArgument shown (some (.asValue shown)) { topic }

/-- A short flag that `name` and `lookup` do not know. -/
def unknownShort (topic : Topic) (body : Bytes) : Refusal :=
  let shown := Argument.shownShort body
  .unknownArgument shown (some (.asValue shown)) { topic }

/-- Answers a request for help, after the values so far have passed their check. -/
def help {α : Type} (topic : Topic) (check : List Bytes → Except Refusal α)
    (values : List Bytes) : Refusal :=
  match check values with
  | .ok _ => .help topic
  | .error refusal => refusal

/-- Answers a long flag, which always ends the reading. -/
def long {α : Type} (topic : Topic) (check : List Bytes → Except Refusal α) (values : List Bytes)
    (name : Bytes) (value : Option Bytes) : Refusal :=
  match Argument.flag? topic name, value with
  | none, _ => unknownLong topic name
  | some flag, some value => .unwantedValue flag (Utf8.lossy value) { topic, flags := [flag] }
  | some _, none => help topic check values

/-- Answers a cluster of short flags, which always ends the reading. -/
def short {α : Type} (topic : Topic) (check : List Bytes → Except Refusal α)
    (values : List Bytes) (body : Bytes) : Refusal :=
  if Argument.firstShort? body = some 'h' then help topic check values
  else unknownShort topic body

/-- Collects the values of a command line behind those already seen. `negative` says whether a
dash and a number is a value. -/
def collect {α : Type} (topic : Topic) (negative : Bool)
    (check : List Bytes → Except Refusal α) (seen : List Bytes) :
    List Bytes → Except Refusal (List Bytes)
  | [] => .ok seen
  | argument :: rest =>
    match Argument.shape argument with
    | .separator => .ok (seen ++ rest)
    | .word => collect topic negative check (seen ++ [argument]) rest
    | .long name value => .error (long topic check seen name value)
    | .short body =>
      if negative && Argument.isNumeral body then
        collect topic negative check (seen ++ [argument]) rest
      else .error (short topic check seen body)

/-- Reads a command line: collects the values, of which there has to be one, and checks them. -/
def read {α : Type} (topic : Topic) (negative : Bool) (check : List Bytes → Except Refusal α)
    (arguments : List Bytes) : Except Refusal α := do
  let values ← collect topic negative check [] arguments
  if values = [] then .error (.missingValues topic) else check values

def text (topic : Topic) (value : Bytes) : Except Refusal String :=
  match Utf8.decode? value with
  | some text => .ok text
  | none => .error (.illFormed topic)

def number (topic : Topic) (value : Bytes) : Except Refusal Int32 := do
  let text ← text topic value
  match Decimal.readInt32 text with
  | .ok number => .ok number
  | .error fault => .error (.badNumber text fault)

def numbers (values : List Bytes) : Except Refusal (List Int32) :=
  values.mapM (number .name)

def texts (values : List Bytes) : Except Refusal (List String) :=
  values.mapM (text .lookup)

end Values

end Lexicon
