import Lexicon.Command
import Lexicon.CommandLine.Tokens
import Lexicon.CommandLine.Values

/-!
# Command lines

A command line is the list of arguments after the program's name. Its first argument decides: a
subcommand reads the rest, and anything else ends the reading.

* `CommandLine.read` — the command that a command line asks for, or why there is none.
-/

namespace Lexicon.CommandLine

def subcommand? (argument : Bytes) : Option Topic :=
  Topic.subcommands.find? fun topic => Utf8.encode topic.word == argument

/-- The tip on a flag that the program does not know itself: the first later argument that calls a
subcommand with a similar flag. -/
def laterFlag? (name : String) : List Bytes → Option Tip
  | [] => none
  | argument :: rest =>
    match (subcommand? argument).bind fun topic =>
        (topic.similarFlag? name).map (Tip.flagOf topic) with
    | some tip => some tip
    | none => laterFlag? name rest

/-- Answers a long flag of the program. -/
def long (name : Bytes) (value : Option Bytes) (rest : List Bytes) : Refusal :=
  match Argument.flag? .program name, value with
  | some flag, some value =>
    .unwantedValue flag (Utf8.lossy value) { topic := .program, flags := [flag] }
  | some .version, none => .version
  | some _, none => .help .program
  | none, _ =>
    let shown := Argument.shownLong name
    match Topic.program.similarFlag? (Utf8.lossy name) with
    | some flag =>
      .unknownArgument shown (some (.flag flag)) { topic := .program, flags := [flag] }
    | none =>
      .unknownArgument shown (laterFlag? (Utf8.lossy name) rest) { topic := .program }

/-- Answers a cluster of short flags of the program. -/
def short (body : Bytes) : Refusal :=
  match Argument.firstShort? body with
  | some 'h' => .help .program
  | some 'V' => .version
  | _ => .unknownArgument (Argument.shownShort body) none { topic := .program }

/-- Answers a word that calls no subcommand. -/
def unknownWord (word : Bytes) : Refusal :=
  let shown := Utf8.lossy word
  .unknownSubcommand .program shown
    (Similarity.similar shown (Topic.subcommands.map Topic.word))

/-- Answers what follows a separator in front of everything, where not even a subcommand has a
place. -/
def separated : List Bytes → Refusal
  | [] => .nothing
  | argument :: _ =>
    match subcommand? argument with
    | some topic =>
      .unknownArgument (Utf8.lossy argument) (some (.subcommand topic)) { topic := .program }
    | none => unknownWord argument

/-- Answers the subcommand `help`: the page of the topic that its words lead to. -/
def helpOn : Topic → List Bytes → Refusal
  | topic, [] => .help topic
  | .program, word :: rest =>
    match subcommand? word with
    | some topic => helpOn topic rest
    | none => .unknownSubcommand .program (Utf8.lossy word) []
  | topic, word :: _ => .unknownSubcommand topic (Utf8.lossy word) []

def readSubcommand (topic : Topic) (arguments : List Bytes) : Except Refusal Command :=
  match topic with
  | .tokens => (Tokens.read arguments).map Command.tokens
  | .name => (Values.read .name true Values.numbers arguments).map Command.name
  | .lookup => (Values.read .lookup false Values.texts arguments).map Command.lookup
  | .program | .help => .error (helpOn .program arguments)

def read : List Bytes → Except Refusal Command
  | [] => .error .nothing
  | argument :: rest =>
    match subcommand? argument with
    | some topic => readSubcommand topic rest
    | none =>
      match Argument.shape argument with
      | .separator => .error (separated rest)
      | .long name value => .error (long name value rest)
      | .short body => .error (short body)
      | .word => .error (unknownWord argument)

end Lexicon.CommandLine
