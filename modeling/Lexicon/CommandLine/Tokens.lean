import Lexicon.Command
import Lexicon.CommandLine.Argument
import Lexicon.CommandLine.Refusal
import Lexicon.CommandLine.Values

/-!
# Command lines of `tokens`

The subcommand `tokens` knows flags only. `--format` takes a value, attached by `=` or as the next
argument. An attached value is checked at once; a separate one is held until the next flag that is
known or until the end, so an argument that is not understood is reported before it.

* `Tokens.Progress` — what has been read so far;
* `Tokens.settle` — the check of a held value;
* `Tokens.read` — the options of a command line.
-/

namespace Lexicon.Tokens

/-- What became of the last `--format` without an attached value. -/
inductive Pending where
  /-- There is none, or it has been dealt with. -/
  | nothing
  /-- Its value has yet to come. -/
  | awaiting
  /-- Its value has come and has yet to be checked. -/
  | holding (value : Bytes)
deriving DecidableEq, Repr

/-- What has been read so far: the flags in order of use, the format, and what is pending. -/
structure Progress where
  used : List Flag := []
  format : Option Format := none
  pending : Pending := .nothing
deriving DecidableEq, Repr

/-- The usage line of the topic in general terms. -/
def plainUsage : Usage := { topic := .tokens }

/-- A value that names no format; an empty one counts as missing. -/
def unknownFormat (value : Bytes) : Refusal :=
  let shown := Utf8.lossy value
  if value = [] then .missingFormat
  else .unknownFormat shown (Similarity.closest? shown (Format.all.map Format.name))

def takeFormat (progress : Progress) (value : Bytes) : Except Refusal Progress :=
  if Flag.format ∈ progress.used then .error (.repeated .format)
  else match (Utf8.decode? value).bind Format.ofName? with
    | some format =>
      .ok { progress with used := progress.used ++ [.format], format := some format }
    | none => .error (unknownFormat value)

def settle (progress : Progress) : Except Refusal Progress :=
  match progress.pending with
  | .nothing => .ok progress
  | .awaiting => .error .missingFormat
  | .holding value => takeFormat { progress with pending := .nothing } value

/-- The flags that count as used when something is not understood: a held value counts, whatever
it is, but takes an earlier one with it. -/
def usedFlags (progress : Progress) : List Flag :=
  match progress.pending with
  | .holding _ =>
    if Flag.format ∈ progress.used then progress.used.erase .format
    else progress.used ++ [.format]
  | _ => progress.used

/-- A long flag that `tokens` does not know. -/
def unknownLong (progress : Progress) (name : Bytes) : Refusal :=
  let shown := Argument.shownLong name
  let usage : Usage := { topic := .tokens, flags := usedFlags progress }
  match Topic.tokens.similarFlag? (Utf8.lossy name) with
  | some flag => .unknownArgument shown (some (.flag flag)) (usage.adding flag)
  | none => .unknownArgument shown none usage

/-- The usage line on a flag that got a value without taking one. Once an option has been used, the
line offers the choice of all of them in place of those. -/
def unwantedUsage (progress : Progress) (flag : Flag) : Usage :=
  let options := Topic.tokens.options
  if progress.used = [] then { topic := .tokens, flags := [flag] }
  else { topic := .tokens, flags := [flag].filter (· ∉ options), choice := options }

/-- An argument that `tokens` has no place for. -/
def unknownPlain (shown : String) : Refusal :=
  .unknownArgument shown none plainUsage

/-- Takes a flag without an attached value. -/
def takeFlag (progress : Progress) (flag : Flag) : Except Refusal Progress := do
  let progress ← settle progress
  match flag with
  | .format => .ok { progress with pending := .awaiting }
  | .noLexemes | .noHeader =>
    if flag ∈ progress.used then .error (.repeated flag)
    else .ok { progress with used := progress.used ++ [flag] }
  | _ => .error (.help .tokens)

def takeLong (progress : Progress) (name : Bytes) (value : Option Bytes) :
    Except Refusal Progress :=
  match Argument.flag? .tokens name, value with
  | none, _ => .error (unknownLong progress name)
  | some .format, some value => do takeFormat (← settle progress) value
  | some flag, some value =>
    .error (.unwantedValue flag (Utf8.lossy value) (unwantedUsage progress flag))
  | some flag, none => takeFlag progress flag

/-- Takes a cluster of short flags, of which only `-h` is known. -/
def takeShort (progress : Progress) (body : Bytes) : Except Refusal Progress :=
  if Argument.firstShort? body = some 'h' then takeFlag progress .help
  else .error (unknownPlain (Argument.shownShort body))

/-- Takes a word, which has a place only where a value is awaited. -/
def takeWord (progress : Progress) (word : Bytes) : Except Refusal Progress :=
  if progress.pending = .awaiting then .ok { progress with pending := .holding word }
  else .error (unknownPlain (Utf8.lossy word))

/-- Takes arguments to the end of the line. Nothing has a place behind the separator. -/
def takeAll (progress : Progress) : List Bytes → Except Refusal Progress
  | [] => settle progress
  | argument :: rest =>
    match Argument.shape argument with
    | .separator =>
      match rest with
      | [] => settle progress
      | extra :: _ => .error (unknownPlain (Utf8.lossy extra))
    | .word => do takeAll (← takeWord progress argument) rest
    | .short body => do takeAll (← takeShort progress body) rest
    | .long name value => do takeAll (← takeLong progress name value) rest

def read (arguments : List Bytes) : Except Refusal TokensOptions := do
  let progress ← takeAll {} arguments
  .ok { format := progress.format
        noLexemes := progress.used.contains .noLexemes
        noHeader := progress.used.contains .noHeader }

end Lexicon.Tokens
