import Lexicon.Kind.Registry
import Lexicon.Report.Config
import Lexicon.Text.Blank
import Lexicon.Text.Quoted

/-!
# The plain report

One line per kind with columns of fixed width: ordinal, name, group and, quoted so that blanks can
be seen, the fixed spelling. No line ends in a blank.

* `Plain.row` — a line from its fields;
* `Plain.report` — the report on any table.
-/

namespace Lexicon.Plain

/-- Fills a field up with spaces to a number of columns. A longer field is kept whole. -/
def pad (width : Nat) (field : String) : List Char :=
  field.toList.rightpad width ' '

/-- A line of the report, ended by a line feed. -/
def row (ordinal name group : String) (lexeme : Option String) : String :=
  let columns := pad 7 ordinal ++ [' ', ' '] ++ pad 10 name ++ [' ', ' '] ++ pad 9 group
  let last := match lexeme with
    | none => []
    | some lexeme => [' ', ' '] ++ lexeme.toList
  String.ofList (Blank.trimEnd (columns ++ last) ++ ['\n'])

/-- The fixed spelling of an entry, quoted; empty if there is none. -/
def lexeme (info : Info) : String :=
  match info.lexeme with
  | none => ""
  | some lexeme => Quoted.encode lexeme

def entry (config : Config) (info : Info) : String :=
  row (toString info.kind.ordinal.toInt) info.name info.group.label
    (if config.lexemes then some (lexeme info) else none)

/-- The line with the names of the columns. -/
def header (config : Config) : String :=
  row "ORDINAL" "NAME" "GROUP" (if config.lexemes then some "LEXEME" else none)

/-- The report on a table: the header, if wanted, and a line per entry. -/
def report (config : Config) (table : List Info) : String :=
  (if config.header then header config else "") ++ String.join (table.map (entry config))

end Lexicon.Plain
