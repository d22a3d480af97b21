import Lexicon.Kind.Registry
import Lexicon.Report.Config
import Lexicon.Text.Json

/-!
# The JSON report

An array with one object per kind, whose members stand in alphabetical order. There is no header.

* `JsonReport.entry` — the object of an entry;
* `JsonReport.report` — the report on any table.
-/

namespace Lexicon.JsonReport

/-- The fixed spelling of an entry as a value: `null` if there is none. -/
def lexeme (info : Info) : Json :=
  match info.lexeme with
  | none => .null
  | some lexeme => .string lexeme

def entry (config : Config) (info : Info) : Json :=
  .object <|
    [("description", .string info.description), ("group", .string info.group.label)]
      ++ (if config.lexemes then [("lexeme", lexeme info)] else [])
      ++ [("name", .string info.name), ("ordinal", .number info.kind.ordinal.toInt),
        ("stability", .string info.stability.label)]

/-- The report on a table, ended by a line feed. -/
def report (config : Config) (table : List Info) : String :=
  (Json.array (table.map (entry config))).pretty ++ "\n"

end Lexicon.JsonReport
