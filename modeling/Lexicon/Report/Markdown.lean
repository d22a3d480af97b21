import Lexicon.Kind.Registry
import Lexicon.Report.Config

/-!
# The Markdown report

A table with one row per kind. The header setting governs the title and the note above the table;
the row with the names of the columns always stands.

* `Markdown.row` — a row from its cells;
* `Markdown.lexeme` — the cell for a fixed spelling;
* `Markdown.report` — the report on any table.
-/

namespace Lexicon.Markdown

/-- A row of cells, ended by a line feed. -/
def row (cells : List String) : String :=
  "| " ++ " | ".intercalate cells ++ " |\n"

/-- A character of a spelling; tab and line feed are shown as escapes. -/
def escape (c : Char) : List Char :=
  if c = '\t' then ['\\', 't']
  else if c = '\n' then ['\\', 'n']
  else [c]

/-- The cell for a fixed spelling, set as code; empty if there is none. -/
def lexeme : Option String → String
  | none => ""
  | some lexeme => "`" ++ String.ofList (lexeme.toList.flatMap escape) ++ "`"

/-- The title and the note above the table. -/
def heading : String :=
  "## Token kinds\n\nGenerated from `neon_core::lang::tokens`. Do not edit by hand.\n\n"

/-- A row whose last cell is kept only if the report shows spellings. -/
def rowWith (config : Config) (cells : List String) (last : String) : String :=
  row (if config.lexemes then cells ++ [last] else cells)

def entry (config : Config) (info : Info) : String :=
  rowWith config [toString info.kind.ordinal.toInt, info.name, info.group.label]
    (lexeme info.lexeme)

def report (config : Config) (table : List Info) : String :=
  (if config.header then heading else "")
    ++ rowWith config ["Ordinal", "Name", "Group"] "Lexeme"
    ++ rowWith config ["---:", "---", "---"] "---"
    ++ String.join (table.map (entry config))

end Lexicon.Markdown
