import Lexicon.Report.Format
import Lexicon.Text.Quoted

/-!
# Log records

What the program tells about its work while it runs. An `Event` is something that happened, a
`Span` is a piece of work that was going on, and a `Record` is an event with the spans around it,
outermost first.

* `Record.line` — the one line that a record is written as.
-/

namespace Lexicon

/-- How much an event matters, from most to least. -/
inductive Level where
  | error
  | warn
  | info
  | debug
  | trace
deriving DecidableEq, Repr

namespace Level

def label : Level → String
  | .error => "ERROR"
  | .warn => "WARN"
  | .info => "INFO"
  | .debug => "DEBUG"
  | .trace => "TRACE"

/-- Levels counted from the most important, which is 1. -/
def rank : Level → Nat
  | .error => 1
  | .warn => 2
  | .info => 3
  | .debug => 4
  | .trace => 5

end Level

/-- The parts of the program that write to the log. -/
inductive Area where
  | settings
  | report
  | commands
deriving DecidableEq, Repr

/-- The path by which log lines and log filters call an area. -/
def Area.path : Area → String
  | .settings => "neon::report::config"
  | .report => "neon::report"
  | .commands => "neon::cli::commands"

/-- The environment variable that chooses the report format. -/
def formatVariable : String := "NEON_REPORT_FORMAT"

/-- What can happen while the program runs. -/
inductive Event where
  /-- The environment asks for a format that does not exist. -/
  | unknownFormat (value : String)
  | rendered (bytes rows : Nat)
  | unnamedValue (raw : Int32)
  /-- A name was looked up; the name is the one that was given. -/
  | resolved (name : String) (ordinal : Int32)
deriving DecidableEq, Repr

namespace Event

def level : Event → Level
  | .unknownFormat _ => .warn
  | .rendered _ _ => .debug
  | .unnamedValue _ => .warn
  | .resolved _ _ => .debug

def area : Event → Area
  | .unknownFormat _ => .settings
  | .rendered _ _ => .report
  | .unnamedValue _ => .commands
  | .resolved _ _ => .commands

/-- The names of the fields of an event, of which its message is the first. -/
def fields : Event → List String
  | .unknownFormat _ => ["message"]
  | .rendered _ _ => ["message", "bytes", "rows"]
  | .unnamedValue _ => ["message", "value"]
  | .resolved _ _ => ["message", "name", "ordinal"]

def message : Event → String
  | .unknownFormat value => "Ignoring unknown " ++ formatVariable ++ "=" ++ Quoted.encode value
  | .rendered bytes rows =>
    "rendered token registry bytes=" ++ toString bytes ++ " rows=" ++ toString rows
  | .unnamedValue raw => "value does not name a token kind value=" ++ toString raw.toInt
  | .resolved name ordinal =>
    "resolved token name name=" ++ name ++ " ordinal=" ++ toString ordinal.toInt

end Event

/-- The value of a field of a span. -/
inductive FieldValue where
  | word (text : String)
  | number (value : Nat)
deriving DecidableEq, Repr

def FieldValue.text : FieldValue → String
  | .word text => text
  | .number value => toString value

/-- Work that events may happen in. -/
inductive Span where
  | renderRegistry (format : Format)
  | printTokens (format : Format)
  | renderNames (count : Nat)
  | lookupNames (count : Nat)
deriving DecidableEq, Repr

namespace Span

def area : Span → Area
  | .renderRegistry _ => .report
  | .printTokens _ => .commands
  | .renderNames _ => .commands
  | .lookupNames _ => .commands

def level : Span → Level
  | _ => .info

def name : Span → String
  | .renderRegistry _ => "render_registry"
  | .printTokens _ => "print_tokens"
  | .renderNames _ => "render_names"
  | .lookupNames _ => "lookup_names"

def fieldName : Span → String
  | .renderRegistry _ => "format"
  | .printTokens _ => "format"
  | .renderNames _ => "count"
  | .lookupNames _ => "count"

def fieldValue : Span → FieldValue
  | .renderRegistry format => .word format.title
  | .printTokens format => .word format.title
  | .renderNames count => .number count
  | .lookupNames count => .number count

def label (span : Span) : String :=
  span.name ++ "\x7b" ++ span.fieldName ++ "=" ++ span.fieldValue.text ++ "\x7d"

end Span

/-- An event with the spans it happened in, outermost first. -/
structure Record where
  event : Event
  spans : List Span := []
deriving DecidableEq, Repr

namespace Record

/-- A record as one more span goes around it. -/
def within (span : Span) (record : Record) : Record :=
  { record with spans := span :: record.spans }

/-- The line of a record: level, spans, area and words. -/
def line (record : Record) : String :=
  let spans :=
    if record.spans.isEmpty then ""
    else ":".intercalate (record.spans.map Span.label) ++ ": "
  record.event.level.label ++ " " ++ spans ++ record.event.area.path ++ ": " ++ record.event.message

end Record

end Lexicon
