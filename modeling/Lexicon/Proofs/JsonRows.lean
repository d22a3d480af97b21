import Lexicon.Proofs.JsonDocuments
import Lexicon.Report.JsonReport
import Mathlib.Data.List.Forall2

/-!
# Rows of the JSON report

Whatever texts a table holds, the report on it is one document and a line feed, and reading the
document gives the table back: an array with an object for every entry, which tells what the entry
says and nothing else.

* `JsonReport.Describes` — the members of an object tell an entry;
* `JsonReport.describes_entry` — so do those of the object that is written for it;
* `JsonReport.report_decodes` — the report can be read, for every table.
-/

namespace Lexicon.JsonReport

/-- The members of an object tell an entry: every key stands once, there are no other keys, and each
of them has the entry's value. The key of the fixed spelling is there only if the report shows
spellings, and its value is `null` just if there is none. -/
structure Describes (config : Config) (info : Info) (members : List (String × Json)) : Prop where
  keys (key : String) : key ∈ members.map Prod.fst ↔
    key ∈ ["ordinal", "name", "group", "description", "stability"] ∨
      config.lexemes = true ∧ key = "lexeme"
  once : (members.map Prod.fst).Nodup
  ordinal : ("ordinal", .number info.kind.ordinal.toInt) ∈ members
  name : ("name", .string info.name) ∈ members
  group : ("group", .string info.group.label) ∈ members
  description : ("description", .string info.description) ∈ members
  stability : ("stability", .string info.stability.label) ∈ members
  unspelt : ("lexeme", .null) ∈ members ↔ config.lexemes = true ∧ info.lexeme = none
  spelt (text : String) : ("lexeme", .string text) ∈ members ↔
    config.lexemes = true ∧ info.lexeme = some text

theorem null_eq_lexeme_iff {info : Info} : .null = lexeme info ↔ info.lexeme = none := by
  unfold lexeme
  split
  · rename_i missing
    exact iff_of_true rfl missing
  · rename_i text given
    simp [given]

theorem string_eq_lexeme_iff {info : Info} {text : String} :
    .string text = lexeme info ↔ info.lexeme = some text := by
  unfold lexeme
  split
  · rename_i missing
    simp [missing]
  · rename_i other given
    simp [given, eq_comm]

/-- The object of an entry tells the entry. -/
theorem describes_entry (config : Config) (info : Info) :
    ∃ members, entry config info = .object members ∧ Describes config info members := by
  obtain ⟨format, lexemes, header⟩ := config
  refine ⟨_, rfl, ?_⟩
  -- Whether spellings are shown decides between two lists of members.
  constructor
  case keys =>
    intro key
    cases lexemes <;> simp <;> tauto
  case once => cases lexemes <;> simp
  case unspelt => cases lexemes <;> simp [null_eq_lexeme_iff]
  case spelt =>
    intro text
    cases lexemes <;> simp [string_eq_lexeme_iff]
  all_goals cases lexemes <;> simp

/-- An array is written up to its closing bracket. -/
theorem getLast?_pretty_array (elements : List Json) :
    (Json.array elements).pretty.toList.getLast? = some ']' := by
  rw [Json.pretty, String.toList_ofList]
  cases elements with
  | nil => rfl
  | cons first rest => rw [Json.write, List.getLast?_concat]

/-- **The report on any table can be read.** It is one document, which ends in a closing bracket,
and a line feed. Read with or without the line feed, it is an array with one object for every entry,
in their order, which tells the entry. The header setting changes nothing. -/
theorem report_decodes (config : Config) (table : List Info) :
    (∃ (document : String) (rows : List Json), report config table = document ++ "\n" ∧
      document.toList.getLast? = some ']' ∧
      Json.read? document = some (.array rows) ∧
      Json.read? (report config table) = some (.array rows) ∧
      List.Forall₂ (fun info row =>
        ∃ members, row = .object members ∧ Describes config info members) table rows) ∧
    ∀ header : Bool, report { config with header } table = report config table := by
  refine ⟨⟨_, table.map (entry config), rfl, getLast?_pretty_array _, Json.read?_pretty _, ?_, ?_⟩,
    ?_⟩
  · have lineFeed : ∀ c ∈ "\n".toList, c ∈ Json.blanks := by simp [Json.blanks]
    exact Json.read?_pretty_append _ lineFeed
  · rw [List.forall₂_map_right_iff, List.forall₂_same]
    intro info _
    exact describes_entry config info
  · intro header
    rfl

end Lexicon.JsonReport
