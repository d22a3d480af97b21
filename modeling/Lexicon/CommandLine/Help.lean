import Lexicon.CommandLine.Flag

/-!
# Help pages

The page of every topic, as it is printed on request.
-/

namespace Lexicon

def version : String := "0.1.0"

def versionLine : String := Topic.program.word ++ " " ++ version ++ "\n"

namespace Topic

/-- What a topic is for, in one line. -/
def about : Topic → String
  | .program => "Inspect the Neon token-kind registry"
  | .tokens => "Print every token kind in ordinal order"
  | .name => "Render raw token-kind values to their diagnostic names"
  | .lookup => "Resolve canonical token names (case-sensitive) to ordinals"
  | .help => "Print this message or the help of the given subcommand(s)"

/-- The sections of a help page after the usage line, each with its heading and its lines. -/
def sections : Topic → List (String × List String)
  | .program =>
    [ ("Commands:",
        [ "  tokens  " ++ about .tokens,
          "  name    " ++ about .name,
          "  lookup  " ++ about .lookup,
          "  help    " ++ about .help ]),
      ("Options:", [ "  -h, --help     Print help", "  -V, --version  Print version" ]) ]
  | .tokens =>
    [ ("Options:",
        [ "      --format <FORMAT>  Output format (default: $NEON_REPORT_FORMAT, then plain) "
            ++ "[possible values: plain, markdown, json]",
          "      --no-lexemes       Omit the lexeme column",
          "      --no-header        Omit the header: the column row in plain output, the title "
            ++ "and note in Markdown (the table's column row stays); JSON output has no header",
          "  -h, --help             Print help" ]) ]
  | .name =>
    [ ("Arguments:", [ "  <VALUE>...  Raw values (any 32-bit signed integer)" ]),
      ("Options:", [ "  -h, --help  Print help" ]) ]
  | .lookup =>
    [ ("Arguments:", [ "  <NAME>...  Canonical names, e.g. LPAREN" ]),
      ("Options:", [ "  -h, --help  Print help" ]) ]
  | .help =>
    [ ("Arguments:", [ "  [COMMAND]...  Print help for the subcommand(s)" ]) ]

/-- The help page of a topic: paragraphs with an empty line between them. -/
def page (topic : Topic) : String :=
  let paragraphs :=
    [topic.about, "Usage: " ++ Usage.text { topic }]
      ++ topic.sections.map fun part => "\n".intercalate (part.1 :: part.2)
  "\n\n".intercalate paragraphs ++ "\n"

end Topic

end Lexicon
