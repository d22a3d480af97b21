import Lexicon.Program
import Lexicon.Proofs.Streams

/-!
# Outcomes of the program

How a run of the program ends, for every command line. A command whose output is taken in full fails
in one case only, a look-up with a name that is not canonical, and it then has something to say; in
every other case it ends with the exit code for success. So the exit code of the program tells which
of three things happened: all went well, some name is unknown, or the command line could not be
read.

* `Command.result_run` — how a command ends, told by the names it cannot look up;
* `Command.exitCode_of_ok` — a command that does not fail ends with the exit code for success;
* `Command.message_ne_empty` — a failure is never silent;
* `Program.run_outcome` — exit code and streams of every run.
-/

namespace Lexicon

namespace Command

/-- The names that a command is to look up and that are not canonical. -/
def unresolved : Command → List String
  | .tokens _ => []
  | .name _ => []
  | .lookup names => names.filter fun name => ¬ Kind.IsCanonical name

/-- A command on an output that takes everything fails over unknown names and over nothing else. If
it does not fail, its exit code is the one for success. -/
theorem result_run (environment : Option Bytes) (command : Command) :
    ((command.script environment).run {}).result =
      if command.unresolved = [] then .ok .success
      else .error (.unknownNames (command.unresolved.map UnknownName.mk)) := by
  cases command with
  | tokens options => rw [run_free]; rfl
  | name values => rw [run_free]; rfl
  | lookup names => exact congrArg Run.result (run_lookupNames (map_name_filterMap names) rfl)

theorem exitCode_of_ok {environment : Option Bytes} {command : Command} {exitCode : ExitCode}
    (passed : ((command.script environment).run {}).result = .ok exitCode) :
    exitCode = .success := by
  rw [result_run] at passed
  split at passed
  · exact (Except.ok.inj passed).symm
  · cases passed

theorem unresolved_ne_nil_iff {command : Command} :
    command.unresolved ≠ [] ↔
      ∃ names, command = .lookup names ∧ ∃ name ∈ names, ¬ Kind.IsCanonical name := by
  cases command with
  | tokens options => simp [unresolved]
  | name values => simp [unresolved]
  | lookup names => simp [unresolved, List.filter_eq_nil_iff]

end Command

/-- Joined texts begin with the first of them. -/
theorem exists_intercalate_cons (separator first : String) (others : List String) :
    ∃ rest, separator.intercalate (first :: others) = first ++ rest := by
  cases others with
  | nil => exact ⟨"", by rw [String.intercalate_singleton, String.append_empty]⟩
  | cons next others => exact ⟨_, by rw [String.intercalate_cons_cons, String.append_assoc]⟩

/-- The message on unknown names begins with a diagnostic, and so with its path. -/
theorem CommandError.path_isInfix_message {unknown : List UnknownName} (nonempty : unknown ≠ []) :
    ['n', ':'] <:+: (unknownNames unknown).message.toList := by
  cases unknown with
  | nil => exact absurd rfl nonempty
  | cons first others =>
    obtain ⟨rest, split⟩ : ∃ rest,
        (unknownNames (first :: others)).message = first.rendered ++ rest :=
      exists_intercalate_cons _ _ _
    have lead := List.prefix_append first.rendered.toList rest.toList
    rw [split, String.toList_append]
    exact first.path_isInfix_rendered.trans lead.isInfix

/-- Whatever a command fails over on an output that takes everything, its message names a path. -/
theorem Command.path_isInfix_failure {environment : Option Bytes} {command : Command}
    {error : CommandError} (failed : ((command.script environment).run {}).result = .error error) :
    ['n', ':'] <:+: error.failure.message.toList := by
  rw [result_run] at failed
  split at failed
  case isTrue => cases failed
  case isFalse unknown =>
    obtain rfl := Except.error.inj failed
    exact CommandError.path_isInfix_message (by simpa using unknown)

/-- **A failure is never silent.** -/
theorem Command.message_ne_empty {environment : Option Bytes} {command : Command}
    {error : CommandError} (failed : ((command.script environment).run {}).result = .error error) :
    error.failure.message ≠ "" := by
  intro silent
  have path := path_isInfix_failure failed
  rw [silent] at path
  simp at path

/-- A message that is not empty is shown on lines of its own. -/
theorem Failure.shown_of_ne_empty {failure : Failure} (nonempty : failure.message ≠ "") :
    failure.shown = failure.message ++ "\n" := by
  rw [shown, if_neg (by rwa [String.isEmpty_iff])]

/-- Requests for help or for the version are the refusals that are no errors. -/
theorem Refusal.isError_iff (refusal : Refusal) :
    refusal.isError = true ↔ (∀ topic, refusal ≠ .help topic) ∧ refusal ≠ .version := by
  cases refusal <;> simp [isError]

namespace Program

variable {environment : Environment} {arguments : List Bytes} {command : Command}

/-! ### Exit codes and streams -/

/-- The first stream gets what a command writes, however the command ends. -/
theorem output_finished (filter : Filter) (run : Run CommandError ExitCode) :
    (finished filter run).output = run.out := by
  unfold finished
  split <;> rfl

/-- The program ends with the exit code of a command that does not fail, zero or not. -/
theorem finished_of_ok (filter : Filter) {run : Run CommandError ExitCode} {exitCode : ExitCode}
    (passed : run.result = .ok exitCode) :
    finished filter run =
      { exitCode, output := run.out, errors := logText filter run.log } := by
  have code : (if exitCode.value ≠ 0 then exitCode else .success) = exitCode := by
    split
    case isTrue => rfl
    case isFalse zero => exact congrArg ExitCode.mk (Decidable.not_not.mp zero).symm
  simp only [finished, passed, code]

theorem run_of_read (environment : Environment)
    (read : CommandLine.read arguments = .ok command) :
    run environment arguments =
      finished (Filter.ofVariable environment.logFilter)
        ((command.script environment.format).run {}) := by
  rw [run, read]

theorem run_of_ok (environment : Environment) (read : CommandLine.read arguments = .ok command)
    {exitCode : ExitCode}
    (passed : ((command.script environment.format).run {}).result = .ok exitCode) :
    let ended := (command.script environment.format).run {}
    run environment arguments =
      { exitCode
        output := ended.out
        errors := logText (Filter.ofVariable environment.logFilter) ended.log } := by
  rw [run_of_read environment read]
  exact finished_of_ok _ passed

/-- The message of a failed command follows the log. -/
theorem run_of_error (environment : Environment) (read : CommandLine.read arguments = .ok command)
    {error : CommandError}
    (failed : ((command.script environment.format).run {}).result = .error error) :
    let ended := (command.script environment.format).run {}
    run environment arguments =
      { exitCode := .failure
        output := ended.out
        errors := logText (Filter.ofVariable environment.logFilter) ended.log
          ++ error.failure.message ++ "\n" } := by
  rw [run_of_read environment read]
  simp only [finished, failed]
  rw [Failure.shown_of_ne_empty (Command.message_ne_empty failed), String.append_assoc]
  rfl

theorem exitCode_of_read (read : CommandLine.read arguments = .ok command) :
    (run environment arguments).exitCode =
      if command.unresolved = [] then .success else .failure := by
  have result := Command.result_run environment.format command
  split
  case isTrue resolved =>
    rw [if_pos resolved] at result
    rw [run_of_ok environment read result]
  case isFalse unknown =>
    rw [if_neg unknown] at result
    rw [run_of_error environment read result]

theorem exitCode_of_refusal {refusal : Refusal}
    (refused : CommandLine.read arguments = .error refusal) :
    (run environment arguments).exitCode = if refusal.isError then .usage else .success := by
  simp only [run, refused, Program.refused, Refusal.exitCode]
  split <;> rfl

theorem exitCode_eq_one_iff :
    (run environment arguments).exitCode.value = 1 ↔
      ∃ names, CommandLine.read arguments = .ok (.lookup names) ∧
        ∃ name ∈ names, ¬ Kind.IsCanonical name := by
  cases parsed : CommandLine.read arguments with
  | error refusal =>
    rw [exitCode_of_refusal parsed]
    refine iff_of_false ?_ (by simp)
    split <;> decide
  | ok command =>
    simp only [Except.ok.injEq, ← Command.unresolved_ne_nil_iff]
    rw [exitCode_of_read parsed]
    split
    case isTrue resolved => exact iff_of_false (by decide) (not_not_intro resolved)
    case isFalse unknown => exact iff_of_true rfl unknown

theorem exitCode_eq_two_iff :
    (run environment arguments).exitCode.value = 2 ↔
      ∃ refusal, CommandLine.read arguments = .error refusal ∧
        (∀ topic, refusal ≠ .help topic) ∧ refusal ≠ .version := by
  cases parsed : CommandLine.read arguments with
  | error refusal =>
    simp only [Except.error.injEq, exists_eq_left', ← Refusal.isError_iff]
    rw [exitCode_of_refusal parsed]
    split
    case isTrue error => exact iff_of_true rfl error
    case isFalse request => exact iff_of_false (by decide) request
  | ok command =>
    rw [exitCode_of_read parsed]
    refine iff_of_false ?_ (by simp)
    split <;> decide

theorem exitCode_cases (environment : Environment) (arguments : List Bytes) :
    let code := (run environment arguments).exitCode.value
    code = 0 ∨ code = 1 ∨ code = 2 := by
  cases parsed : CommandLine.read arguments with
  | error refusal =>
    rw [exitCode_of_refusal parsed]
    split <;> decide
  | ok command =>
    rw [exitCode_of_read parsed]
    split <;> decide

/-- **How a run ends.** The exit code is 1 for a look-up with a name that is not canonical, 2 for a
command line that cannot be read, and 0 otherwise. The output of a command is what the command
wrote, and holds neither a log line nor a diagnostic. The other stream gets the lines of the log
that the filter lets through, each with a line feed, and behind them the message of a failed
command, which is never empty. -/
theorem run_outcome (environment : Environment) (arguments : List Bytes) :
    let outcome := run environment arguments
    let code := outcome.exitCode.value
    (code = 1 ↔ ∃ names, CommandLine.read arguments = .ok (.lookup names) ∧
      ∃ name ∈ names, ¬ Kind.IsCanonical name) ∧
    (code = 2 ↔ ∃ refusal, CommandLine.read arguments = .error refusal ∧
      (∀ topic, refusal ≠ .help topic) ∧ refusal ≠ .version) ∧
    (code = 0 ∨ code = 1 ∨ code = 2) ∧
    ∀ command, CommandLine.read arguments = .ok command →
      let ended := (command.script environment.format).run {}
      let retained := ended.log.filterMap (Filter.ofVariable environment.logFilter).line?
      let log := String.join (retained.map (· ++ "\n"))
      (code = 0 ∧ ended.result = .ok .success ∧ outcome.errors = log ∨
        code = 1 ∧ ∃ error, ended.result = .error error ∧ error.failure.message ≠ "" ∧
          outcome.errors = log ++ error.failure.message ++ "\n") ∧
      outcome.output = ended.out ∧
      ∃ text, ended.out = Utf8.encode text ∧
        (∀ (filter : Filter) (record : Record) (line : String),
          filter.line? record = some line → ¬ line.toList <:+: text.toList) ∧
        (∀ name, ¬ (UnknownName.mk name).rendered.toList <:+: text.toList) ∧
        ∀ error, ended.result = .error error →
          ¬ error.failure.message.toList <:+: text.toList := by
  refine ⟨exitCode_eq_one_iff, exitCode_eq_two_iff, exitCode_cases environment arguments, ?_⟩
  intro command read ended retained log
  obtain ⟨text, written, pathless⟩ := Command.exists_pathless_out environment.format command
  refine ⟨?_, ?_, text, written, ?_, ?_, ?_⟩
  · cases result : ended.result with
    | ok exitCode =>
      obtain rfl := Command.exitCode_of_ok result
      rw [run_of_ok environment read result]
      exact .inl ⟨rfl, rfl, rfl⟩
    | error error =>
      rw [run_of_error environment read result]
      exact .inr ⟨rfl, error, rfl, Command.message_ne_empty result, rfl⟩
  · rw [run_of_read environment read]
    exact output_finished _ ended
  · intro filter record line shown
    exact pathless.not_path (filter.path_isInfix_line shown)
  · intro name
    exact pathless.not_path (UnknownName.path_isInfix_rendered _)
  · intro error failed
    exact pathless.not_path (Command.path_isInfix_failure failed)

end Program

end Lexicon
