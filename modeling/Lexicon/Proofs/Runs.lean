import Lexicon.Command

/-!
# Runs into sinks of any size

Every command works through a list of items: the values it renders, the names it looks up, or the
one report it prints. `Command.entries` lists what each item calls for, the records logged about it
and then the line written for it, and `Command.steps_script` says that the script of a command is
these entries in order. What a sink makes of a command is then said about entries alone.

* `Sink.holds_append`, `Sink.take_append`, `Sink.after_append` — a write in two parts, and
  `Step.runAll_write_append`, by which a line stands for the pieces it is written in;
* `Entry.runAll_of_holds` — a sink that holds all lines gets all lines, and all records are logged;
* `Entry.runAll_of_not_holds` — any other sink is filled up by the line of one entry, and the log
  ends with the records of that entry;
* `Command.run_limited` — what a limit on the output changes about a run.
-/

namespace Lexicon

/-! ### A write in two parts -/

namespace Sink

variable (sink : Sink) (a b : Bytes)

@[simp] theorem holds_nil : sink.holds [] = true := by
  cases hroom : sink.room <;> simp [holds, hroom]

@[simp] theorem after_nil : sink.after [] = sink := by
  cases sink with
  | mk room fault => cases room <;> simp [after]

@[simp] theorem after_fault : (sink.after a).fault = sink.fault := rfl

/-- Two parts fit if the first fits and the second fits into what is left. -/
theorem holds_append : sink.holds (a ++ b) = (sink.holds a && (sink.after a).holds b) := by
  cases hroom : sink.room with
  | none => simp [holds, after, hroom]
  | some room =>
    simp only [holds, after, hroom, Option.map_some, List.length_append, ← Bool.decide_and]
    apply decide_eq_decide.mpr
    omega

theorem after_append : sink.after (a ++ b) = (sink.after a).after b := by
  cases hroom : sink.room <;> simp [after, hroom, Nat.sub_add_eq]

variable {sink} {a}

/-- A second part is taken from as much room as the first leaves. -/
theorem take_append (fits : sink.holds a = true) :
    sink.take (a ++ b) = a ++ (sink.after a).take b := by
  cases hroom : sink.room with
  | none => simp [take, after, hroom]
  | some room =>
    have enough : a.length ≤ room := by simpa [holds, hroom] using fits
    simp [take, after, hroom, List.take_append, List.take_of_length_le enough]

/-- Behind a part that does not fit, nothing more is taken. -/
theorem take_append_of_not_holds (exceeds : sink.holds a = false) :
    sink.take (a ++ b) = sink.take a := by
  cases hroom : sink.room with
  | none => simp [holds, hroom] at exceeds
  | some room =>
    have short : room < a.length := by simpa [holds, hroom] using exceeds
    simp [take, hroom, List.take_append_of_le_length (Nat.le_of_lt short)]

/-- A part that does not fit leaves no room for another. -/
theorem after_append_of_not_holds (exceeds : sink.holds a = false) :
    sink.after (a ++ b) = sink.after a := by
  cases hroom : sink.room with
  | none => simp [holds, hroom] at exceeds
  | some room =>
    have short : room < a.length := by simpa [holds, hroom] using exceeds
    simp only [after, hroom, Option.map_some, List.length_append, Sink.mk.injEq, Option.some.injEq,
      and_true]
    omega

end Sink

/-- It makes no difference whether a text is written at once or piece by piece. -/
theorem Step.runAll_write_append (sink : Sink) (a b : String) (rest : List Step) :
    runAll sink (.write (a ++ b) :: rest) = runAll sink (.write a :: .write b :: rest) := by
  simp only [runAll, Utf8.encode_append, Sink.holds_append, Bool.and_eq_true]
  cases first : sink.holds (Utf8.encode a) with
  | false =>
    simp [Sink.take_append_of_not_holds _ first, Sink.after_append_of_not_holds _ first]
  | true =>
    cases second : (sink.after (Utf8.encode a)).holds (Utf8.encode b) with
    | false => simp [Sink.take_append _ first, Sink.after_append]
    | true => simp [Sink.after_append]

/-! ### Entries -/

/-- What one item of a command calls for: records to be logged, and then perhaps a line to be
written. -/
structure Entry where
  records : List Record := []
  line : Option String := none
deriving DecidableEq, Repr

namespace Entry

/-- The bytes of an entry's line. -/
def bytes (entry : Entry) : Bytes :=
  match entry.line with
  | none => []
  | some line => Utf8.encode line

/-- The steps that carry an entry out: its records come first. -/
def steps (entry : Entry) : List Step :=
  entry.records.map Step.log ++ entry.line.toList.map Step.write

theorem runAll_log (sink : Sink) (records : List Record) (rest : List Step) :
    Step.runAll sink (records.map Step.log ++ rest) =
      { Step.runAll sink rest with log := records ++ (Step.runAll sink rest).log } := by
  induction records with
  | nil => rfl
  | cons record records ih => simp [Step.runAll, ih]

/-- An entry whose line fits is carried out in full, and what follows it goes on with the sink
that is left. -/
theorem runAll_steps_of_holds {sink : Sink} {entry : Entry} (fits : sink.holds entry.bytes = true)
    (rest : List Step) :
    Step.runAll sink (entry.steps ++ rest) =
      { Step.runAll (sink.after entry.bytes) rest with
        out := entry.bytes ++ (Step.runAll (sink.after entry.bytes) rest).out
        log := entry.records ++ (Step.runAll (sink.after entry.bytes) rest).log } := by
  cases hline : entry.line with
  | none => simp [steps, bytes, hline, runAll_log]
  | some line =>
    simp only [bytes, hline] at fits
    simp [steps, bytes, hline, runAll_log, Step.runAll, fits]

/-- An entry whose line does not fit is the last thing that is carried out. Its records are logged
all the same. -/
theorem runAll_steps_of_not_holds {sink : Sink} {entry : Entry}
    (exceeds : sink.holds entry.bytes = false) (rest : List Step) :
    Step.runAll sink (entry.steps ++ rest) =
      { out := sink.take entry.bytes, log := entry.records, fault := some sink.fault,
        sink := sink.after entry.bytes } := by
  cases hline : entry.line with
  | none => simp [bytes, hline] at exceeds
  | some line =>
    simp only [bytes, hline] at exceeds
    simp [steps, bytes, hline, runAll_log, Step.runAll, exceeds]

/-- A sink that holds the lines of all entries gets them all. -/
theorem runAll_of_holds {sink : Sink} {entries : List Entry}
    (fits : sink.holds (entries.flatMap bytes) = true) :
    Step.runAll sink (entries.flatMap steps) =
      { out := entries.flatMap bytes, log := entries.flatMap records,
        sink := sink.after (entries.flatMap bytes) } := by
  induction entries generalizing sink with
  | nil => simp [Step.runAll]
  | cons entry entries ih =>
    rw [List.flatMap_cons, Sink.holds_append, Bool.and_eq_true] at fits
    simp only [List.flatMap_cons]
    rw [runAll_steps_of_holds fits.1, ih fits.2, Sink.after_append]

/-- A sink that does not hold the lines of all entries is filled up by the line of one of them.
Up to this line everything is written; up to this entry everything is logged, and nothing of what
comes after it. -/
theorem runAll_of_not_holds {sink : Sink} {entries : List Entry}
    (exceeds : sink.holds (entries.flatMap bytes) = false) :
    ∃ before entry after, entries = before ++ entry :: after ∧
      sink.holds (before.flatMap bytes) = true ∧
      sink.holds ((before ++ [entry]).flatMap bytes) = false ∧
      Step.runAll sink (entries.flatMap steps) =
        { out := sink.take (entries.flatMap bytes), log := (before ++ [entry]).flatMap records,
          fault := some sink.fault, sink := sink.after (entries.flatMap bytes) } := by
  induction entries generalizing sink with
  | nil => simp at exceeds
  | cons first entries ih =>
    simp only [List.flatMap_cons] at exceeds ⊢
    cases hfirst : sink.holds first.bytes with
    | false =>
      refine ⟨[], first, entries, rfl, by simp, by simpa using hfirst, ?_⟩
      rw [runAll_steps_of_not_holds hfirst, Sink.take_append_of_not_holds _ hfirst,
        Sink.after_append_of_not_holds _ hfirst]
      simp
    | true =>
      rw [Sink.holds_append, hfirst, Bool.true_and] at exceeds
      obtain ⟨before, entry, after, rfl, fits, crosses, run⟩ := ih exceeds
      refine ⟨first :: before, entry, after, rfl, ?_, ?_, ?_⟩
      · rw [List.flatMap_cons, Sink.holds_append, hfirst, fits, Bool.and_self]
      · rw [List.cons_append, List.flatMap_cons, Sink.holds_append, hfirst, crosses, Bool.and_false]
      · rw [runAll_steps_of_holds hfirst, run, Sink.take_append _ hfirst, Sink.after_append]
        simp

end Entry

/-! ### Commands as entries -/

namespace Command

/-- What a raw value among some number of values calls for: a warning if it stands for no kind, and
its name on a line. -/
def nameEntry (count : Nat) (raw : Int32) : Entry where
  records :=
    if Kind.ofOrdinal? raw = none then
      [{ event := .unnamedValue raw, spans := [.renderNames count] }]
    else []
  line := some (Kind.nameOf raw ++ "\n")

/-- What a name among some number of names calls for: a record and a line if it is canonical, and
nothing otherwise. -/
def lookupEntry (count : Nat) (name : String) : Entry :=
  match Kind.ofName? name with
  | some kind =>
    { records := [{ event := .resolved name kind.ordinal, spans := [.lookupNames count] }]
      line := some (resolvedLine kind) }
  | none => {}

/-- What the items of a command call for, in order. The report is one item, and all that is logged
about it and about the settings is logged before it is written. -/
def entries (environment : Option Bytes) : Command → List Entry
  | .tokens options =>
    let config := (settings options environment).1
    [{ records := ((settings options environment).2.map fun event => { event })
        ++ [(Report.record config).within (.printTokens config.format)]
       line := some (Report.render config) }]
  | .name values => values.map (nameEntry values.length)
  | .lookup names => names.map (lookupEntry names.length)

/-- The message of a command that could not write its output. -/
def writeFailure (fault : Fault) : Command → String
  | .tokens _ => "Error: failed to write report: " ++ fault.message
  | .name _ => "Error writing output: " ++ fault.message
  | .lookup _ => "Error writing output: " ++ fault.message

/-- The script of a command carries out its entries. -/
theorem steps_script (environment : Option Bytes) (command : Command) :
    (command.script environment).steps = (command.entries environment).flatMap Entry.steps := by
  cases command with
  | tokens options =>
    simp [script, Script.afterLogging, printTokens, Script.map, Script.mapError, Script.within,
      Report.writing, Step.within, entries, Entry.steps]
  | name values =>
    simp only [script, renderNames, Script.within, entries, List.map_flatMap, List.flatMap_map]
    congr 1
    funext raw
    cases hkind : Kind.ofOrdinal? raw <;>
      simp [nameSteps, nameEntry, Entry.steps, Kind.nameOf, hkind, Step.within, Record.within]
  | lookup names =>
    simp only [script, lookupNames, Script.within, entries, List.map_flatMap, List.flatMap_map]
    congr 1
    funext name
    cases hkind : Kind.ofName? name <;>
      simp [lookupSteps, lookupEntry, Entry.steps, hkind, Step.within, Record.within]

/-- A refused write ends every command with its own message and the ordinary exit code. -/
theorem failure_refused (environment : Option Bytes) (command : Command) (fault : Fault) :
    ((command.script environment).refused fault).failure =
      { message := command.writeFailure fault, exitCode := .failure } := by
  cases command <;> rfl

/-- The run of a command into a sink that holds its output. -/
theorem run_of_holds (environment : Option Bytes) (command : Command) {sink : Sink}
    (fits : sink.holds ((command.entries environment).flatMap Entry.bytes) = true) :
    (command.script environment).run sink =
      { result := (command.script environment).verdict
        out := (command.entries environment).flatMap Entry.bytes
        log := (command.entries environment).flatMap Entry.records
        sink := sink.after ((command.entries environment).flatMap Entry.bytes) } := by
  simp only [Script.run, steps_script, Entry.runAll_of_holds fits]

/-- The run of a command into a sink without limit. -/
theorem run_free (environment : Option Bytes) (command : Command) :
    (command.script environment).run {} =
      { result := (command.script environment).verdict
        out := (command.entries environment).flatMap Entry.bytes
        log := (command.entries environment).flatMap Entry.records
        sink := {} } := by
  rw [run_of_holds environment command rfl]
  rfl

/-- The run of a command into a sink that does not hold its output. -/
theorem run_of_not_holds (environment : Option Bytes) (command : Command) {sink : Sink}
    (exceeds : sink.holds ((command.entries environment).flatMap Entry.bytes) = false) :
    ∃ before item after, command.entries environment = before ++ item :: after ∧
      sink.holds (before.flatMap Entry.bytes) = true ∧
      sink.holds ((before ++ [item]).flatMap Entry.bytes) = false ∧
      (command.script environment).run sink =
        { result := .error ((command.script environment).refused sink.fault)
          out := sink.take ((command.entries environment).flatMap Entry.bytes)
          log := (before ++ [item]).flatMap Entry.records
          sink := sink.after ((command.entries environment).flatMap Entry.bytes) } := by
  obtain ⟨before, item, after, split, fits, crosses, run⟩ := Entry.runAll_of_not_holds exceeds
  refine ⟨before, item, after, split, fits, crosses, ?_⟩
  simp only [Script.run, steps_script, run]

/-- **A limit on the output changes nothing but what lies behind it.** A run whose output fits ends
as it does without a limit. Any other run fails with the message on the refused write, has written
the first bytes of its output, and has logged the records up to the item whose line crosses the
limit: this item's own included, no later one's. -/
theorem run_limited (environment : Option Bytes) (command : Command) (limit : Nat)
    (fault : Fault) :
    let free := (command.script environment).run {}
    let limited := (command.script environment).run { room := some limit, fault }
    (free.out.length ≤ limit →
      limited.result = free.result ∧ limited.out = free.out ∧ limited.log = free.log) ∧
    (limit < free.out.length →
      (∃ error, limited.result = .error error ∧
        error.failure = { message := command.writeFailure fault, exitCode := .failure }) ∧
      limited.out = free.out.take limit ∧
      (∃ before item after, command.entries environment = before ++ item :: after ∧
        free.out = before.flatMap Entry.bytes ++ item.bytes ++ after.flatMap Entry.bytes ∧
        (before.flatMap Entry.bytes).length ≤ limit ∧
        limit < (before.flatMap Entry.bytes ++ item.bytes).length ∧
        limited.log = before.flatMap Entry.records ++ item.records ∧
        free.log = limited.log ++ after.flatMap Entry.records) ∧
      ∀ options, command = .tokens options → limited.log = free.log) := by
  rw [run_free]
  intro free limited
  constructor
  · intro fits
    have held : Sink.holds { room := some limit, fault } free.out = true := by
      simpa [Sink.holds] using fits
    simp [limited, run_of_holds environment command held, free]
  · intro exceeds
    have refused : Sink.holds { room := some limit, fault } free.out = false := by
      simpa [Sink.holds] using exceeds
    obtain ⟨before, item, after, split, fits, crosses, run⟩ :=
      run_of_not_holds environment command refused
    simp only [limited, run]
    refine ⟨⟨_, rfl, failure_refused environment command fault⟩, rfl,
      ⟨before, item, after, split, ?_, ?_, ?_, ?_, ?_⟩, ?_⟩
    · simp [free, split]
    · simpa [Sink.holds] using fits
    · simpa [Sink.holds] using crosses
    · simp
    · simp [free, split]
    · rintro options rfl
      -- The report is the only item, so it is the one that crosses the limit.
      have count := congrArg List.length split
      simp only [entries, List.length_append, List.length_cons, List.length_nil] at count
      obtain rfl : after = [] := List.eq_nil_of_length_eq_zero (by omega)
      simp [free, split]

end Command

end Lexicon
