/-!
# Flags and topics

The program and its subcommands are the topics that a command line can be about. Each topic has
its flags, and a usage line that names them.

* `Topic.flags` — the flags that a topic knows, in the order they are suggested in;
* `Usage.text` — a usage line, in general terms or with the flags that were used.
-/

namespace Lexicon

inductive Flag where
  | help
  | version
  | format
  | noLexemes
  | noHeader
deriving DecidableEq, Repr

namespace Flag

/-- The word of a flag, which follows two dashes. -/
def word : Flag → String
  | .help => "help"
  | .version => "version"
  | .format => "format"
  | .noLexemes => "no-lexemes"
  | .noHeader => "no-header"

def typed (flag : Flag) : String :=
  "--" ++ flag.word

/-- A flag as it is shown in messages, with the name of its value if it takes one. -/
def shown : Flag → String
  | .format => "--format <FORMAT>"
  | flag => flag.typed

end Flag

/-- What a command line can be about: the program as a whole or one of its subcommands. -/
inductive Topic where
  | program
  | tokens
  | name
  | lookup
  | help
deriving DecidableEq, Repr

namespace Topic

/-- The subcommands, in the order they are listed to users. -/
def subcommands : List Topic :=
  [.tokens, .name, .lookup, .help]

/-- The word that calls a topic. -/
def word : Topic → String
  | .program => "neon"
  | .tokens => "tokens"
  | .name => "name"
  | .lookup => "lookup"
  | .help => "help"

/-- The words that lead to a topic. -/
def path : Topic → String
  | .program => "neon"
  | topic => "neon " ++ topic.word

def flags : Topic → List Flag
  | .program => [.help, .version]
  | .tokens => [.format, .noLexemes, .noHeader, .help]
  | .name => [.help]
  | .lookup => [.help]
  | .help => []

/-- What a topic takes beside its flags. -/
def operands? : Topic → Option String
  | .program => some "<COMMAND>"
  | .tokens => none
  | .name => some "<VALUE>..."
  | .lookup => some "<NAME>..."
  | .help => some "[COMMAND]..."

end Topic

/-- The flags that set how a topic does its work, of which a usage line may offer the choice. -/
def Topic.options : Topic → List Flag
  | .tokens => [.format, .noLexemes, .noHeader]
  | _ => []

/-- A usage line: its topic, the flags to be named in it, and flags to choose from. -/
structure Usage where
  topic : Topic
  flags : List Flag := []
  choice : List Flag := []
deriving DecidableEq, Repr

namespace Usage

/-- A usage line with one more flag, unless it names that flag already. -/
def adding (usage : Usage) (flag : Flag) : Usage :=
  if flag ∈ usage.flags then usage else { usage with flags := usage.flags ++ [flag] }

/-- The flags of a usage line as words. -/
def flagWords (usage : Usage) : List String :=
  usage.flags.map Flag.shown
    ++ if usage.choice = [] then []
      else ["<" ++ "|".intercalate (usage.choice.map Flag.shown) ++ ">"]

/-- The words of a usage line. Without flags of its own, the line for `tokens` says that there
are some. -/
def text (usage : Usage) : String :=
  let flags :=
    if usage.flagWords = [] ∧ usage.topic = .tokens then ["[OPTIONS]"] else usage.flagWords
  " ".intercalate ([usage.topic.path] ++ flags ++ usage.topic.operands?.toList)

end Usage

end Lexicon
