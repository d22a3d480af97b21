import Lexicon.Proofs.Runs

/-!
# Formats from the environment

The format of a report is given with the command or taken from the environment. Where it came from
cannot be told from the run, apart from the warning about a value that names no format; and a
command that gives its format, or has none to give, runs alike in every environment.

* `Script.run_afterLogging` — what a script logs beforehand leads its log and changes nothing else;
* `Command.run_of_variable` — a report in the format of the environment is a report in that format,
  given with the command, behind what is logged about the variable;
* `Command.script_of_isExplicit` — the script of an explicit command, in any two environments;
* `Command.run_environment` — what the environment changes about a run.
-/

namespace Lexicon

/-- Records that are logged beforehand lead the log. They change nothing else about a run, whatever
the sink makes of it. -/
theorem Script.run_afterLogging {ε α : Type} (records : List Record) (script : Script ε α)
    (sink : Sink) :
    (script.afterLogging records).run sink =
      { script.run sink with log := records ++ (script.run sink).log } := by
  simp only [run, afterLogging, Entry.runAll_log]

namespace Config

/-- The variable decides about the format and about nothing else. -/
theorem fst_ofVariable (value : Option Bytes) :
    (ofVariable value).1 = { format := (ofVariable value).1.format } := by
  unfold ofVariable ofValue
  split
  · rfl
  · split <;> rfl

theorem ofVariable_of_parse {value : Bytes} {format : Format}
    (known : Format.parse (Utf8.lossy value) = some format) :
    ofVariable (some value) = ({ format }, []) := by
  simp only [ofVariable, Option.map_some, ofValue, known]

theorem ofVariable_of_parse_eq_none {value : Bytes}
    (unknown : Format.parse (Utf8.lossy value) = none) :
    ofVariable (some value) = ({}, [.unknownFormat (Utf8.lossy value)]) := by
  simp only [ofVariable, Option.map_some, ofValue, unknown]

end Config

namespace Command

/-! ### A format from the environment -/

/-- A report in the format of the environment is a report in that format, given with the command,
behind what is logged about the variable. -/
theorem run_of_variable (sink : Sink) (noLexemes noHeader : Bool) (environment : Option Bytes) :
    let given := ((Command.tokens
      { format := some (Config.ofVariable environment).1.format, noLexemes, noHeader }).script
        environment).run sink
    ((Command.tokens { noLexemes, noHeader }).script environment).run sink =
      { given with
        log := ((Config.ofVariable environment).2.map fun event => { event }) ++ given.log } := by
  simp only [script, settings, Script.run_afterLogging]
  rw [Config.fst_ofVariable]
  rfl

/-- The log of a report ends with the record about rendering it, even if the sink takes nothing. -/
theorem log_tokens (sink : Sink) (environment : Option Bytes) (options : TokensOptions) :
    (((Command.tokens options).script environment).run sink).log =
      ((settings options environment).2.map fun event => ({ event } : Record)) ++
        [(Report.record (settings options environment).1).within
          (.printTokens (settings options environment).1.format)] := by
  rw [script, Script.run_afterLogging]
  simp only [printTokens, Report.writing, Script.within, Script.map, Script.mapError, Script.run,
    List.map_cons, List.map_nil, Step.within, Step.runAll]
  split <;> rfl

/-! ### Explicit commands -/

/-- Whether a command says all that it depends on. Every command does, except for a report without
a format. -/
def IsExplicit : Command → Prop
  | .tokens options => options.format ≠ none
  | .name _ => True
  | .lookup _ => True

/-- An explicit command has one script. -/
theorem script_of_isExplicit {command : Command} (explicit : command.IsExplicit)
    (environment other : Option Bytes) : command.script other = command.script environment := by
  cases command with
  | tokens options =>
    obtain ⟨format, given⟩ := Option.ne_none_iff_exists'.mp explicit
    simp only [script, settings, given]
  | name values => rfl
  | lookup names => rfl

/-- A command that runs alike in every environment is explicit: a report without a format logs the
format that the environment names, even if the sink takes nothing. -/
theorem isExplicit_of_run {sink : Sink} {environment : Option Bytes} {command : Command}
    (same : ∀ other, (command.script other).run sink = (command.script environment).run sink) :
    command.IsExplicit := by
  cases command with
  | name values => trivial
  | lookup names => trivial
  | tokens options =>
    intro absent
    -- Two values that name different formats cannot both lead to the one run.
    have json : Config.ofVariable (some (Utf8.encode "json")) = ({ format := .json }, []) :=
      Config.ofVariable_of_parse (by decide)
    have markdown :
        Config.ofVariable (some (Utf8.encode "markdown")) = ({ format := .markdown }, []) :=
      Config.ofVariable_of_parse (by decide)
    have logs := congrArg Run.log
      ((same (some (Utf8.encode "json"))).trans (same (some (Utf8.encode "markdown"))).symm)
    simp [log_tokens, settings, absent, json, markdown, Record.within] at logs

/-- **Which way a format comes cannot be told, and nothing else comes from the environment.** Where
no format is given, the run is that of a report in plain format, or in the format that the variable
names; a value that names none adds one warning, and it leads the log. The explicit commands are
those for which the environment makes no difference. -/
theorem run_environment (sink : Sink) (noLexemes noHeader : Bool) (environment : Option Bytes) :
    let report (format : Option Format) :=
      ((Command.tokens { format, noLexemes, noHeader }).script environment).run sink
    (environment = none → report none = report (some .plain)) ∧
    (∀ value, environment = some value →
      (∀ format, Format.parse (Utf8.lossy value) = some format →
        report none = report (some format)) ∧
      (Format.parse (Utf8.lossy value) = none →
        ∃ warning : Record,
          report none =
            { report (some .plain) with log := warning :: (report (some .plain)).log } ∧
          warning.event.level = .warn ∧ warning.spans = [] ∧
          warning.event.message =
            "Ignoring unknown NEON_REPORT_FORMAT=" ++ Quoted.encode (Utf8.lossy value))) ∧
    ∀ command : Command, command.IsExplicit ↔
      ∀ other, (command.script other).run sink = (command.script environment).run sink := by
  intro report
  have taken : report none = _ := run_of_variable sink noLexemes noHeader environment
  refine ⟨?_, ?_, ?_⟩
  · rintro rfl
    exact taken
  · rintro value rfl
    constructor
    · intro format known
      rw [Config.ofVariable_of_parse known] at taken
      exact taken
    · intro unknown
      rw [Config.ofVariable_of_parse_eq_none unknown] at taken
      exact ⟨{ event := .unknownFormat (Utf8.lossy value) }, taken, rfl, rfl, rfl⟩
  · intro command
    constructor
    · intro explicit other
      rw [script_of_isExplicit explicit environment other]
    · exact isExplicit_of_run

end Command

end Lexicon
