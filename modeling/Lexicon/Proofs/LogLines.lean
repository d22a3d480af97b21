import Lexicon.Proofs.Quoting
import Lexicon.Proofs.Transcripts

/-!
# Lines of the log

Text from outside reaches the log on three ways: a value of the environment is quoted, a number is
printed in decimal, and a name is shown as it was given. The last way is safe only because of what a
look-up logs: a record could show any name, but every name in the log of a run is canonical. So
every record of a run is one line without control characters, and nothing that a user supplies can
end a line and begin another.

* `PlainText` — a text without control characters;
* `Record.plainText_line` — the line of a record is such a text if the words of its event are;
* `Command.log_isPrefix` — whatever the sink makes of a command, its log is the beginning of the log
  that it would have in full;
* `Command.isCanonical_of_mem_log` — the names in the log of a run are canonical;
* `Command.plainText_of_mem_log` — every record of a run is one line;
* `Command.log_unforgeable` — lines of the log cannot be forged, and the warning on a value of the
  environment tells the value.
-/

namespace Lexicon

/-- What a separator and some texts have, and what is kept when texts are put together, the joined
texts have too. -/
theorem intercalate_of_closed {P : String → Prop} (empty : P "")
    (append : ∀ a b, P a → P b → P (a ++ b)) {separator : String} {texts : List String}
    (between : P separator) (all : ∀ text ∈ texts, P text) : P (separator.intercalate texts) := by
  induction texts with
  | nil =>
    rw [String.intercalate_nil]
    exact empty
  | cons text texts ih =>
    obtain ⟨first, others⟩ := List.forall_mem_cons.mp all
    cases texts with
    | nil =>
      rw [String.intercalate_singleton]
      exact first
    | cons next texts =>
      rw [String.intercalate_cons_cons]
      exact append _ _ (append _ _ first between) (ih others)

/-- A text without control characters, so that it stands on one line. -/
def PlainText (text : String) : Prop :=
  ∀ c ∈ text.toList, ¬ Printable.IsControl c

namespace PlainText

/-- A text that is written out is tested character by character. -/
theorem literal {chars : List Char} (all : chars.all fun c => ¬ Printable.IsControl c) :
    PlainText (String.ofList chars) := by
  unfold PlainText
  rw [String.toList_ofList]
  simpa using all

theorem append {a b : String} (left : PlainText a) (right : PlainText b) : PlainText (a ++ b) := by
  intro c member
  rw [String.toList_append, List.mem_append] at member
  rcases member with member | member
  · exact left c member
  · exact right c member

theorem intercalate {separator : String} {texts : List String} (between : PlainText separator)
    (all : ∀ text ∈ texts, PlainText text) : PlainText (separator.intercalate texts) :=
  intercalate_of_closed (P := PlainText) (.literal (by decide)) (fun _ _ => append) between all

/-- A number is written with digits and a sign. -/
theorem toString_int (value : Int) : PlainText (toString value) := by
  intro c member
  rcases (Decimal.denotes_toString value).of_mem member with digit | rfl | rfl
  · have bounds : 48 ≤ c.toNat ∧ c.toNat ≤ 57 := Char.isDigit_iff_toNat.mp digit
    unfold Printable.IsControl
    omega
  · decide
  · decide

theorem toString_nat (value : Nat) : PlainText (toString value) :=
  toString_int value

end PlainText

theorem Kind.plainText_name (kind : Kind) : PlainText kind.name := by
  cases kind <;> exact .literal (by decide)

/-- The words of an event are plain if the name in them is; whatever else was supplied from outside
is quoted or printed as a number. -/
theorem Event.plainText_message {event : Event}
    (plain : ∀ name ordinal, event = .resolved name ordinal → PlainText name) :
    PlainText event.message := by
  cases event with
  | unknownFormat value =>
    have lead : PlainText ("Ignoring unknown " ++ formatVariable ++ "=") :=
      .append (.append (.literal (by decide)) (.literal (by decide))) (.literal (by decide))
    exact lead.append fun c => Quoted.not_isControl_of_mem_encode
  | rendered bytes rows =>
    exact .append (.append (.append (.literal (by decide)) (.toString_nat bytes))
      (.literal (by decide))) (.toString_nat rows)
  | unnamedValue raw => exact .append (.literal (by decide)) (.toString_int raw.toInt)
  | resolved name ordinal =>
    exact .append (.append (.append (.literal (by decide)) (plain name ordinal rfl))
      (.literal (by decide))) (.toString_int ordinal.toInt)

theorem Format.plainText_title (format : Format) : PlainText format.title := by
  cases format <;> exact .literal (by decide)

theorem Span.plainText_fieldValue (span : Span) : PlainText span.fieldValue.text := by
  cases span with
  | renderRegistry format => exact format.plainText_title
  | printTokens format => exact format.plainText_title
  | renderNames count => exact .toString_nat count
  | lookupNames count => exact .toString_nat count

theorem Span.plainText_label (span : Span) : PlainText span.label := by
  have name : PlainText span.name := by cases span <;> exact .literal (by decide)
  have fieldName : PlainText span.fieldName := by cases span <;> exact .literal (by decide)
  unfold label
  exact .append (.append (.append (.append (name.append (.literal (by decide))) fieldName)
    (.literal (by decide))) span.plainText_fieldValue) (.literal (by decide))

/-- A record is as plain as the words of its event. -/
theorem Record.plainText_line {record : Record} (words : PlainText record.event.message) :
    PlainText record.line := by
  have level : PlainText record.event.level.label := by
    cases record.event <;> exact .literal (by decide)
  have path : PlainText record.event.area.path := by
    cases record.event <;> exact .literal (by decide)
  have spans : PlainText (if record.spans.isEmpty then ""
      else ":".intercalate (record.spans.map Span.label) ++ ": ") := by
    split
    · exact .literal (by decide)
    · refine .append (.intercalate (.literal (by decide)) ?_) (.literal (by decide))
      intro text member
      obtain ⟨span, -, rfl⟩ := List.mem_map.mp member
      exact span.plainText_label
  exact .append (.append (.append (.append (level.append (.literal (by decide))) spans) path)
    (.literal (by decide))) words

/-- By itself a record may be more than one line, since a name is shown as it is. -/
example : '\n' ∈ ({ event := .resolved "EOF\nINFO" 0 } : Record).line.toList := by decide

/-- The settings come with a warning or with nothing. -/
theorem Config.exists_of_mem_ofVariable {value : Option Bytes} {event : Event}
    (logged : event ∈ (ofVariable value).2) : ∃ text, event = .unknownFormat text := by
  unfold ofVariable ofValue at logged
  split at logged
  · cases logged
  · split at logged
    · cases logged
    · exact ⟨_, List.mem_singleton.mp logged⟩

namespace Command

theorem exists_of_mem_settings {options : TokensOptions} {environment : Option Bytes}
    {event : Event} (logged : event ∈ (settings options environment).2) :
    ∃ text, event = .unknownFormat text := by
  unfold settings at logged
  split at logged
  · cases logged
  · exact Config.exists_of_mem_ofVariable logged

/-- Whatever the sink makes of a command, its log is the beginning of the log that it would have in
full. -/
theorem log_isPrefix (environment : Option Bytes) (command : Command) (sink : Sink) :
    ((command.script environment).run sink).log <+:
      (command.entries environment).flatMap Entry.records := by
  cases fits : sink.holds ((command.entries environment).flatMap Entry.bytes) with
  | true =>
    simp only [run_of_holds environment command fits]
    exact List.prefix_rfl
  | false =>
    obtain ⟨before, item, after, split, -, -, run⟩ := run_of_not_holds environment command fits
    simp only [run]
    exact ⟨after.flatMap Entry.records, by simp [split]⟩

/-- A look-up shows names as they were given, and logs of no others than canonical ones. -/
theorem exists_name_of_mem_log {names : List String} {environment : Option Bytes} {sink : Sink}
    {record : Record}
    (member : record ∈ (((Command.lookup names).script environment).run sink).log) :
    ∃ name ∈ names, ∃ kind : Kind, kind.name = name ∧
      record.event = .resolved name kind.ordinal := by
  have logged := (log_isPrefix environment (.lookup names) sink).subset member
  rw [records_lookup] at logged
  obtain ⟨kind, found, rfl⟩ := List.mem_map.mp logged
  obtain ⟨name, given, canonical⟩ := List.mem_filterMap.mp found
  obtain rfl := Kind.ofName?_eq_some_iff.mp canonical
  exact ⟨kind.name, given, kind, rfl, rfl⟩

/-- No command but a look-up logs a name, and a look-up logs no name that is not canonical. -/
theorem isCanonical_of_mem_log {command : Command} {environment : Option Bytes} {sink : Sink}
    {record : Record} (member : record ∈ ((command.script environment).run sink).log)
    {name : String} {ordinal : Int32} (shown : record.event = .resolved name ordinal) :
    Kind.IsCanonical name := by
  have logged := (log_isPrefix environment command sink).subset member
  cases command with
  | tokens options =>
    rw [entries, List.flatMap_singleton] at logged
    rcases List.mem_append.mp logged with early | report
    · obtain ⟨event, warned, rfl⟩ := List.mem_map.mp early
      obtain ⟨text, rfl⟩ := exists_of_mem_settings warned
      cases shown
    · obtain rfl := List.mem_singleton.mp report
      cases shown
  | name values =>
    rw [records_name] at logged
    obtain ⟨raw, -, rfl⟩ := List.mem_map.mp logged
    cases shown
  | lookup names =>
    obtain ⟨given, -, kind, same, resolved⟩ := exists_name_of_mem_log member
    obtain ⟨rfl, -⟩ := Event.resolved.inj (resolved.symm.trans shown)
    exact ⟨kind, same⟩

/-- **Every record of a run is one line.** -/
theorem plainText_of_mem_log {command : Command} {environment : Option Bytes} {sink : Sink}
    {record : Record} (member : record ∈ ((command.script environment).run sink).log) :
    PlainText record.line := by
  refine Record.plainText_line (Event.plainText_message ?_)
  intro name ordinal shown
  obtain ⟨kind, rfl⟩ := isCanonical_of_mem_log member shown
  exact kind.plainText_name

/-- **Lines of the log cannot be forged.** -/
theorem log_unforgeable :
    (∀ (command : Command) (environment : Option Bytes) (sink : Sink),
      ∀ record ∈ ((command.script environment).run sink).log, ∀ c ∈ record.line.toList,
        ¬ (c.toNat ≤ 0x1F ∨ 0x7F ≤ c.toNat ∧ c.toNat ≤ 0x9F)) ∧
    (∀ (names : List String) (environment : Option Bytes) (sink : Sink),
      ∀ record ∈ (((Command.lookup names).script environment).run sink).log,
        ∃ name ∈ names, ∃ kind : Kind, kind.name = name ∧
          record.event.message =
            "resolved token name name=" ++ name ++ " ordinal=" ++ toString kind.ordinal.toInt) ∧
    ∀ value : String, Format.parse value = none →
      ∃ (warning : Event) (quoted : String),
        (Config.ofValue (some value)).2 = [warning] ∧
        ({ event := warning } : Record).line =
          "WARN neon::report::config: Ignoring unknown NEON_REPORT_FORMAT=" ++ quoted ∧
        Quoted.decode? quoted = some value := by
  refine ⟨?_, ?_, ?_⟩
  · intro command environment sink record member
    exact plainText_of_mem_log member
  · intro names environment sink record member
    obtain ⟨name, given, kind, same, shown⟩ := exists_name_of_mem_log member
    exact ⟨name, given, kind, same, by rw [shown]; rfl⟩
  · intro value unknown
    refine ⟨.unknownFormat value, Quoted.encode value, ?_, ?_, Quoted.decode?_encode value⟩
    · simp only [Config.ofValue, unknown]
    · have lead : "WARN" ++ " " ++ "" ++ "neon::report::config" ++ ": "
          ++ ("Ignoring unknown " ++ "NEON_REPORT_FORMAT" ++ "=") =
          "WARN neon::report::config: Ignoring unknown NEON_REPORT_FORMAT=" := by decide
      rw [← lead, String.append_assoc]
      rfl

end Command

end Lexicon
