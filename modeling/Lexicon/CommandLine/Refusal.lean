import Lexicon.CommandLine.Help
import Lexicon.Exit
import Lexicon.Report.Format
import Lexicon.Text.Decimal
import Lexicon.Text.Terminal

/-!
# Refusals

Why a command line leads to no command: it asks for help or for the version, or something in it is
wrong. Each refusal has its text, its exit code and the stream that it goes to.

* `Refusal.text` — the whole text: paragraphs with an empty line between them;
* `Refusal.streamedText` — the same as it reaches an output stream;
* `Refusal.exitCode`, `Refusal.isError` — requests end well, everything else does not.

Text from the command line is shown without control characters. What is left of an unfinished
control sequence differs between a text and a stream, so the wording takes the way of showing such
text as a parameter.
-/

namespace Lexicon

/-- Advice on an argument that is not understood. -/
inductive Tip where
  /-- A flag of the topic is similar. -/
  | flag (flag : Flag)
  /-- A subcommand that comes later on the line has such a flag. -/
  | flagOf (topic : Topic) (flag : Flag)
  /-- The argument can be passed as a value. -/
  | asValue (argument : String)
  /-- The argument is a subcommand that stands behind `--`. -/
  | subcommand (topic : Topic)
deriving DecidableEq, Repr

/-- The words of a tip, with a way of showing text from the command line. -/
def Tip.wording (shown : String → String) : Tip → String
  | .flag similar => "a similar argument exists: '" ++ similar.typed ++ "'"
  | .flagOf topic similar => "'" ++ topic.word ++ " " ++ similar.typed ++ "' exists"
  | .asValue argument =>
    let argument := shown argument
    "to pass '" ++ argument ++ "' as a value, use '-- " ++ argument ++ "'"
  | .subcommand topic =>
    "subcommand '" ++ topic.word ++ "' exists; to use it, remove the '--' before it"

/-- Why a command line leads to no command. -/
inductive Refusal where
  | help (topic : Topic)
  | version
  /-- Nothing was asked for. -/
  | nothing
  /-- A word stands where a subcommand should; the topic is the one that it stands under. -/
  | unknownSubcommand (topic : Topic) (word : String) (similar : List String)
  | unknownArgument (argument : String) (tip : Option Tip) (usage : Usage)
  /-- The value of `--format` is no format. -/
  | unknownFormat (value : String) (similar : Option String)
  /-- The value of `--format` is missing or empty. -/
  | missingFormat
  /-- A value is no number of the 32-bit range. -/
  | badNumber (value : String) (fault : Decimal.Fault)
  /-- A topic that takes values got none. -/
  | missingValues (topic : Topic)
  /-- A flag was given twice. -/
  | repeated (flag : Flag)
  /-- A flag that takes no value got one. -/
  | unwantedValue (flag : Flag) (value : String) (usage : Usage)
  /-- A value is not well-formed text. -/
  | illFormed (topic : Topic)
deriving DecidableEq, Repr

namespace Refusal

def tipParagraph (tip : Option String) : List String :=
  tip.toList.map ("  tip: " ++ ·)

def usageParagraph (usage : Usage) : List String :=
  ["Usage: " ++ usage.text]

/-- The line that points to the help page; the topic `help` has no page flag to point to. -/
def moreParagraph (topic : Topic) : List String :=
  if Flag.help ∈ topic.flags then ["For more information, try '--help'."] else []

def subcommandTip : List String → Option String
  | [] => none
  | [word] => some ("a similar subcommand exists: '" ++ word ++ "'")
  | words => some ("some similar subcommands exist: '" ++ "', '".intercalate words ++ "'")

def possibleFormats : String :=
  "\n  [possible values: " ++ ", ".intercalate (Format.all.map Format.name) ++ "]"

/-- An error message: what is wrong, then the other paragraphs. -/
def errorText (what : String) (paragraphs : List String) : String :=
  "\n\n".intercalate (("error: " ++ what) :: paragraphs) ++ "\n"

/-- The wording of a refusal, with a way of showing text from the command line. -/
def wording (shown : String → String) : Refusal → String
  | .help topic => topic.page
  | .version => versionLine
  | .nothing => Topic.program.page
  | .unknownSubcommand topic word similar =>
    errorText ("unrecognized subcommand '" ++ shown word ++ "'")
      (tipParagraph (subcommandTip similar) ++ usageParagraph { topic } ++ moreParagraph topic)
  | .unknownArgument argument tip usage =>
    errorText ("unexpected argument '" ++ shown argument ++ "' found")
      (tipParagraph (tip.map (Tip.wording shown)) ++ usageParagraph usage
        ++ moreParagraph usage.topic)
  | .unknownFormat value similar =>
    errorText ("invalid value '" ++ shown value ++ "' for '" ++ Flag.format.shown ++ "'"
        ++ possibleFormats)
      (tipParagraph (similar.map fun name => "a similar value exists: '" ++ name ++ "'")
        ++ moreParagraph .tokens)
  | .missingFormat =>
    errorText ("a value is required for '" ++ Flag.format.shown ++ "' but none was supplied"
        ++ possibleFormats)
      (moreParagraph .tokens)
  | .badNumber value fault =>
    errorText ("invalid value '" ++ shown value ++ "' for '<VALUE>...': "
        ++ fault.message)
      (moreParagraph .name)
  | .missingValues topic =>
    errorText ("the following required arguments were not provided:\n  "
        ++ topic.operands?.getD "")
      (usageParagraph { topic } ++ moreParagraph topic)
  | .repeated flag =>
    errorText ("the argument '" ++ flag.shown ++ "' cannot be used multiple times")
      (usageParagraph { topic := .tokens } ++ moreParagraph .tokens)
  | .unwantedValue flag value usage =>
    errorText ("unexpected value '" ++ shown value ++ "' for '" ++ flag.shown
        ++ "' found; no more were expected")
      (usageParagraph usage ++ moreParagraph usage.topic)
  | .illFormed topic =>
    errorText "invalid UTF-8 was detected in one or more arguments"
      (usageParagraph { topic } ++ moreParagraph topic)

def text (refusal : Refusal) : String :=
  refusal.wording Terminal.visible

/-- The whole text of a refusal as it reaches an output stream. -/
def streamedText (refusal : Refusal) : String :=
  refusal.wording Terminal.streamed

/-- Whether a refusal is an error rather than the answer to a request. -/
def isError : Refusal → Bool
  | .help _ => false
  | .version => false
  | _ => true

def exitCode (refusal : Refusal) : ExitCode :=
  if refusal.isError then .usage else .success

end Refusal

end Lexicon
