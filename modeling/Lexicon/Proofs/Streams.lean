import Lexicon.Log.Filter
import Lexicon.Proofs.FormatNames
import Lexicon.Proofs.LogLines
import Mathlib.Data.List.Chain

/-!
# Two streams

Results go to one stream, log lines and diagnostics to another. The two can be told apart by what
they hold: every line of the log and every diagnostic names a path of the program, `neon::` and so
on, and no result does. In a path an `n` stands right before a colon; results are put together from
pieces in which this does not happen and that do not begin with a colon.

* `Pathless` — the texts that results are put together from, closed under `Pathless.append`;
* `colon_not_mem_flatMap` — quoting and escaping bring no colon in, in any of the three formats;
* `Report.pathless_render` — every report on the registry is such a text;
* `Command.exists_pathless_out` — and so is the output of every command;
* `Filter.path_isInfix_line`, `UnknownName.path_isInfix_rendered` — log lines and diagnostics are
  not.
-/

namespace Lexicon

/-- No `n` stands right before a colon, and there is no colon at the beginning. -/
def Pathless (text : List Char) : Prop :=
  ('n' :: text).IsChain fun a b => ¬ (a = 'n' ∧ b = ':')

instance (text : List Char) : Decidable (Pathless text) :=
  inferInstanceAs (Decidable (List.IsChain _ _))

namespace Pathless

theorem append {a b : List Char} (left : Pathless a) (right : Pathless b) : Pathless (a ++ b) := by
  unfold Pathless
  rw [← List.cons_append, List.isChain_append]
  refine ⟨left, right.tail, ?_⟩
  intro x _ y first
  cases b with
  | nil => simp at first
  | cons c b =>
    obtain rfl := Option.some.inj first
    have apart := (List.isChain_cons_cons.mp right).1
    exact fun path => apart ⟨rfl, path.2⟩

theorem literal {chars : List Char} (pathless : Pathless chars) :
    Pathless (String.ofList chars).toList := by
  rw [String.toList_ofList]
  exact pathless

/-- Where there is no colon, there is no path. -/
theorem of_not_mem {text : List Char} (absent : ':' ∉ text) : Pathless text := by
  have apart (a : Char) : ∀ b ∈ text, ¬ (a = 'n' ∧ b = ':') := by
    rintro a member ⟨-, rfl⟩
    exact absent member
  apply List.Pairwise.isChain
  exact List.pairwise_cons.mpr
    ⟨apart 'n', List.pairwise_of_forall_mem_list fun a _ b member => apart a b member⟩

theorem left_of_append {a b : List Char} (whole : Pathless (a ++ b)) : Pathless a :=
  List.IsChain.left_of_append whole

theorem flatMap {α : Type} {items : List α} {view : α → List Char}
    (all : ∀ item ∈ items, Pathless (view item)) : Pathless (items.flatMap view) := by
  induction items with
  | nil => exact of_not_mem List.not_mem_nil
  | cons item items ih =>
    obtain ⟨first, others⟩ := List.forall_mem_cons.mp all
    exact first.append (ih others)

/-- What names a path is no part of such a text. -/
theorem not_path {text part : List Char} (pathless : Pathless text) (path : ['n', ':'] <:+: part) :
    ¬ part <:+: text := by
  intro inside
  obtain ⟨before, after, rfl⟩ := path.trans inside
  have chain := pathless.tail.left_of_append.right_of_append
  simp at chain

end Pathless

/-! ### Names, numbers and labels -/

/-- A text that is written out is searched character by character. -/
theorem not_mem_literal {c : Char} {chars : List Char} (absent : c ∉ chars) :
    c ∉ (String.ofList chars).toList := by
  rw [String.toList_ofList]
  exact absent

theorem Decimal.pathless_toString (value : Int) : Pathless (toString value).toList :=
  .of_not_mem (not_mem_toString (by decide) value)

theorem Kind.colon_not_mem_name (kind : Kind) : ':' ∉ kind.name.toList :=
  not_mem_name (by decide) kind

theorem Kind.pathless_name (kind : Kind) : Pathless kind.name.toList :=
  .of_not_mem kind.colon_not_mem_name

/-- The colon of the fallback text stands behind a capital letter. -/
theorem Kind.pathless_nameOf (raw : Int32) : Pathless (nameOf raw).toList := by
  unfold nameOf
  split
  · exact pathless_name _
  · unfold Unnamed.message
    rw [String.toList_append]
    exact .append (.literal (by decide)) (Decimal.pathless_toString _)

theorem Group.colon_not_mem_label (group : Group) : ':' ∉ group.label.toList := by
  cases group <;> exact not_mem_literal (by decide)

theorem Stability.colon_not_mem_label (stability : Stability) : ':' ∉ stability.label.toList := by
  cases stability <;> exact not_mem_literal (by decide)

theorem Kind.colon_not_mem_description (kind : Kind) : ':' ∉ kind.info.description.toList := by
  cases kind <;> exact not_mem_literal (by decide)

/-- Of the spellings only one has a colon in it, and nothing else. -/
theorem Kind.lexeme_cases {kind : Kind} {lexeme : String}
    (given : kind.info.lexeme = some lexeme) : lexeme = ":" ∨ ':' ∉ lexeme.toList := by
  cases kind with
  | colon => exact .inl (Option.some.inj given).symm
  | _ => cases given <;> exact .inr (not_mem_literal (by decide))

/-! ### Reports -/

/-- The rows of the registry are the records of the kinds. -/
theorem registry_eq : registry = Kind.all.map Kind.info := rfl

/-- Where a colon stands for nothing but itself, showing a text brings no colon in. -/
theorem colon_not_mem_flatMap {shown : Char → List Char} {text : List Char}
    (own : ∀ c, ':' ∈ shown c → c = ':') (absent : ':' ∉ text) : ':' ∉ text.flatMap shown := by
  intro member
  obtain ⟨c, inside, found⟩ := List.mem_flatMap.mp member
  exact absent (own c found ▸ inside)

theorem Quoted.eq_colon_of_mem_escape (c : Char) (member : ':' ∈ escape c) : c = ':' := by
  rcases mem_escape member with mark | ⟨same, -⟩
  · exact absurd mark (by decide)
  · exact same.symm

/-- A text between two signs. -/
theorem Pathless.enclosed {sign : Char} {text : List Char} (other : ':' ≠ sign)
    (absent : ':' ∉ text) : Pathless (sign :: text ++ [sign]) :=
  .of_not_mem (by simp [other, absent])

namespace Plain

theorem pathless_pad (width : Nat) {field : String} (pathless : Pathless field.toList) :
    Pathless (pad width field) := by
  unfold pad List.rightpad
  exact pathless.append (.of_not_mem (by simp))

theorem pathless_trimEnd {text : List Char} (pathless : Pathless text) :
    Pathless (Blank.trimEnd text) := by
  obtain ⟨after, -, split⟩ := Blank.exists_trimEnd text
  rw [split] at pathless
  exact pathless.left_of_append

theorem pathless_row {ordinal name group : String} {lexeme : Option String}
    (first : Pathless ordinal.toList) (second : Pathless name.toList)
    (third : Pathless group.toList) (last : ∀ text, lexeme = some text → Pathless text.toList) :
    Pathless (row ordinal name group lexeme).toList := by
  have gap : Pathless [' ', ' '] := by decide
  have columns := (((pathless_pad 7 first).append gap).append (pathless_pad 10 second)).append gap
    |>.append (pathless_pad 9 third)
  unfold row
  rw [String.toList_ofList]
  refine .append (pathless_trimEnd (columns.append ?_)) (by decide)
  cases lexeme with
  | none => exact .of_not_mem List.not_mem_nil
  | some text => exact gap.append (last text rfl)

/-- A colon is shown as it is, behind a quotation mark. -/
theorem pathless_lexeme (kind : Kind) : Pathless (lexeme kind.info).toList := by
  unfold lexeme
  split
  · exact .literal (by decide)
  case h_2 text given =>
    unfold Quoted.encode
    rw [String.toList_ofList]
    rcases Kind.lexeme_cases given with rfl | absent
    · decide +kernel
    · exact .enclosed (by decide) (colon_not_mem_flatMap Quoted.eq_colon_of_mem_escape absent)

theorem pathless_report (config : Config) : Pathless (report config registry).toList := by
  unfold report
  rw [String.toList_append, String.toList_join, registry_eq, List.map_map, List.flatMap_map]
  refine .append ?_ (.flatMap ?_)
  · split
    · refine pathless_row (.literal (by decide)) (.literal (by decide)) (.literal (by decide)) ?_
      intro text shown
      split at shown
      · obtain rfl := Option.some.inj shown
        exact .literal (by decide)
      · cases shown
    · exact .literal (by decide)
  · intro kind _
    refine pathless_row (Decimal.pathless_toString _) ?_ (.of_not_mem (Group.colon_not_mem_label _))
      ?_
    · rw [Kind.info_name]
      exact kind.pathless_name
    · intro text shown
      split at shown
      · obtain rfl := Option.some.inj shown
        exact pathless_lexeme kind
      · cases shown

end Plain

namespace Markdown

theorem pathless_row {cells : List String} (all : ∀ cell ∈ cells, Pathless cell.toList) :
    Pathless (row cells).toList := by
  have joined : Pathless (" | ".intercalate cells).toList := by
    refine intercalate_of_closed (P := fun text => Pathless text.toList) (.literal (by decide)) ?_
      (.literal (by decide)) all
    intro a b left right
    rw [String.toList_append]
    exact left.append right
  unfold row
  rw [String.toList_append, String.toList_append]
  exact .append (.append (.literal (by decide)) joined) (.literal (by decide))

theorem pathless_rowWith (config : Config) {a b c last : String} (first : Pathless a.toList)
    (second : Pathless b.toList) (third : Pathless c.toList) (fourth : Pathless last.toList) :
    Pathless (rowWith config [a, b, c] last).toList := by
  refine pathless_row ?_
  split <;> simp [first, second, third, fourth]

theorem eq_colon_of_mem_escape (c : Char) (member : ':' ∈ escape c) : c = ':' := by
  unfold escape at member
  split at member
  · exact absurd member (by decide)
  split at member
  · exact absurd member (by decide)
  · exact (List.mem_singleton.mp member).symm

/-- A colon is shown as it is, behind a backtick. -/
theorem pathless_lexeme (kind : Kind) : Pathless (lexeme kind.info.lexeme).toList := by
  unfold lexeme
  split
  · exact .literal (by decide)
  case h_2 text given =>
    rw [String.toList_append, String.toList_append]
    rcases Kind.lexeme_cases given with rfl | absent
    · decide
    · have plain := not_mem_literal (colon_not_mem_flatMap eq_colon_of_mem_escape absent)
      exact .append (.append (.literal (by decide)) (.of_not_mem plain)) (.literal (by decide))

theorem pathless_report (config : Config) : Pathless (report config registry).toList := by
  unfold report
  rw [String.toList_append, String.toList_append, String.toList_append, String.toList_join,
    registry_eq, List.map_map, List.flatMap_map]
  refine .append (.append (.append ?_ ?_) ?_) (.flatMap ?_)
  · split
    · exact .literal (by decide +kernel)
    · exact .literal (by decide)
  · exact pathless_rowWith config (.literal (by decide)) (.literal (by decide))
      (.literal (by decide)) (.literal (by decide))
  · exact pathless_rowWith config (.literal (by decide)) (.literal (by decide))
      (.literal (by decide)) (.literal (by decide))
  · intro kind _
    refine pathless_rowWith config (Decimal.pathless_toString _) ?_
      (.of_not_mem (Group.colon_not_mem_label _)) (pathless_lexeme kind)
    rw [Kind.info_name]
    exact kind.pathless_name

end Markdown

namespace Json

theorem eq_colon_of_mem_escape (c : Char) (member : ':' ∈ escape c) : c = ':' := by
  unfold escape at member
  split_ifs at member
  iterate 7
    · exact absurd member (by decide)
  · rcases List.mem_append.mp member with opening | padded
    · exact absurd opening (by decide)
    · rcases List.mem_append.mp padded with zero | digit
      · exact absurd (List.eq_of_mem_replicate zero) (by decide)
      · exact absurd (Quoted.mem_marks_of_mem_toDigits digit) (by decide)
  · exact (List.mem_singleton.mp member).symm

theorem pathless_quote {text : String} (absent : ':' ∉ text.toList) : Pathless (quote text) :=
  .enclosed (by decide) (colon_not_mem_flatMap eq_colon_of_mem_escape absent)

/-- The colon of a member stands behind a quotation mark. -/
theorem pathless_member {level : Nat} {key : String} {value : Json} (absent : ':' ∉ key.toList)
    (pathless : Pathless (write level value)) : Pathless (writeMember level (key, value)) := by
  have name : Pathless ('"' :: key.toList.flatMap escape) :=
    (pathless_quote absent).left_of_append
  have split : quote key ++ [':', ' '] = '"' :: key.toList.flatMap escape ++ ['"', ':', ' '] :=
    List.append_assoc _ ['"'] [':', ' ']
  refine show Pathless (quote key ++ [':', ' '] ++ write level value) from ?_
  rw [split]
  exact .append (.append name (by decide)) pathless

theorem write_array_cons (level : Nat) (first : Json) (rest : List Json) :
    write level (.array (first :: rest)) =
      '[' :: newLine (level + 1) ++ write (level + 1) first ++ writeElements (level + 1) rest
        ++ newLine level ++ [']'] :=
  rfl

theorem write_object_cons (level : Nat) (first : String × Json) (rest : List (String × Json)) :
    write level (.object (first :: rest)) =
      Char.ofNat 0x7B :: newLine (level + 1) ++ writeMember (level + 1) first
        ++ writeMembers (level + 1) rest ++ newLine level ++ [Char.ofNat 0x7D] :=
  rfl

theorem writeElements_eq_flatMap (level : Nat) (elements : List Json) :
    writeElements level elements =
      elements.flatMap fun element => ',' :: newLine level ++ write level element := by
  induction elements with
  | nil => rfl
  | cons first rest ih =>
    rw [List.flatMap_cons, ← ih]
    rfl

theorem writeMembers_eq_flatMap (level : Nat) (members : List (String × Json)) :
    writeMembers level members =
      members.flatMap fun member => ',' :: newLine level ++ writeMember level member := by
  induction members with
  | nil => rfl
  | cons first rest ih =>
    rw [List.flatMap_cons, ← ih]
    rfl

theorem pathless_newLine (level : Nat) : Pathless (newLine level) :=
  .of_not_mem (by simp [newLine])

/-- A sign and a new line behind it. -/
theorem pathless_cons_newLine {sign : Char} (other : sign ≠ ':') (level : Nat) :
    Pathless (sign :: newLine level) :=
  .of_not_mem (by simp [newLine, other.symm])

theorem pathless_array {level : Nat} {elements : List Json}
    (all : ∀ element ∈ elements, Pathless (write (level + 1) element)) :
    Pathless (write level (.array elements)) := by
  cases elements with
  | nil => exact .literal (by decide)
  | cons first rest =>
    obtain ⟨head, others⟩ := List.forall_mem_cons.mp all
    rw [write_array_cons, writeElements_eq_flatMap]
    refine .append (.append (.append (.append (pathless_cons_newLine (by decide) _) head)
      (.flatMap ?_)) (pathless_newLine level)) (by decide)
    intro element member
    exact .append (pathless_cons_newLine (by decide) _) (others element member)

theorem pathless_object {level : Nat} {members : List (String × Json)}
    (all : ∀ member ∈ members, Pathless (writeMember (level + 1) member)) :
    Pathless (write level (.object members)) := by
  cases members with
  | nil => exact show Pathless [Char.ofNat 0x7B, Char.ofNat 0x7D] by decide
  | cons first rest =>
    obtain ⟨head, others⟩ := List.forall_mem_cons.mp all
    rw [write_object_cons, writeMembers_eq_flatMap]
    refine .append (.append (.append (.append (pathless_cons_newLine (by decide) _) head)
      (.flatMap ?_)) (pathless_newLine level)) (by decide)
    intro member inside
    exact .append (pathless_cons_newLine (by decide) _) (others member inside)

end Json

namespace JsonReport

/-- A colon is shown as it is, behind a quotation mark. -/
theorem pathless_lexeme (level : Nat) (kind : Kind) :
    Pathless (Json.write level (lexeme kind.info)) := by
  unfold lexeme
  split
  · exact .literal (by decide)
  case h_2 text given =>
    refine show Pathless (Json.quote text) from ?_
    rcases Kind.lexeme_cases given with rfl | absent
    · decide
    · exact Json.pathless_quote absent

theorem pathless_entry (config : Config) (kind : Kind) :
    Pathless (Json.write 1 (entry config kind.info)) := by
  have name : ':' ∉ kind.info.name.toList := by
    rw [Kind.info_name]
    exact kind.colon_not_mem_name
  have field {key text : String} (plainKey : ':' ∉ key.toList) (plain : ':' ∉ text.toList) :
      Pathless (Json.writeMember 2 (key, .string text)) :=
    Json.pathless_member plainKey (Json.pathless_quote plain)
  refine Json.pathless_object ?_
  simp only [List.forall_mem_append, List.forall_mem_cons]
  refine ⟨⟨⟨?_, ?_, by simp⟩, ?_⟩, ?_, ?_, ?_, by simp⟩
  · exact field (not_mem_literal (by decide)) kind.colon_not_mem_description
  · exact field (not_mem_literal (by decide)) (Group.colon_not_mem_label _)
  · split
    · simp only [List.forall_mem_cons]
      exact ⟨Json.pathless_member (not_mem_literal (by decide)) (pathless_lexeme _ kind), by simp⟩
    · simp
  · exact field (not_mem_literal (by decide)) name
  · exact Json.pathless_member (not_mem_literal (by decide)) (Decimal.pathless_toString _)
  · exact field (not_mem_literal (by decide)) (Stability.colon_not_mem_label _)

theorem pathless_report (config : Config) : Pathless (report config registry).toList := by
  unfold report Json.pretty
  rw [String.toList_append, String.toList_ofList, registry_eq, List.map_map]
  refine .append (Json.pathless_array ?_) (.literal (by decide))
  intro element member
  obtain ⟨kind, -, rfl⟩ := List.mem_map.mp member
  exact pathless_entry config kind

end JsonReport

theorem Report.pathless_render (config : Config) : Pathless (render config).toList := by
  unfold render
  split
  · exact Plain.pathless_report config
  · exact Markdown.pathless_report config
  · exact JsonReport.pathless_report config

/-! ### The output of a command -/

/-- The lines of entries, one after another, are a text. -/
theorem Entry.flatMap_bytes (entries : List Entry) :
    entries.flatMap bytes = Utf8.encode (String.join (entries.filterMap line)) := by
  induction entries with
  | nil => rfl
  | cons entry entries ih =>
    rw [List.flatMap_cons, ih]
    cases given : entry.line with
    | none => simp [bytes, given]
    | some line => simp [bytes, given, Utf8.encode_append]

namespace Command

/-- Every line that a command calls for is free of paths. -/
theorem pathless_line {environment : Option Bytes} {command : Command} {entry : Entry}
    {line : String} (called : entry ∈ command.entries environment)
    (written : entry.line = some line) : Pathless line.toList := by
  cases command with
  | tokens options =>
    obtain rfl := List.mem_singleton.mp called
    obtain rfl := Option.some.inj written
    exact Report.pathless_render _
  | name values =>
    obtain ⟨raw, -, rfl⟩ := List.mem_map.mp called
    obtain rfl := Option.some.inj written
    rw [String.toList_append]
    exact .append (Kind.pathless_nameOf raw) (.literal (by decide))
  | lookup names =>
    obtain ⟨name, -, rfl⟩ := List.mem_map.mp called
    unfold lookupEntry at written
    split at written
    case h_1 kind _ =>
      obtain rfl := Option.some.inj written
      unfold resolvedLine
      rw [String.toList_append, String.toList_append, String.toList_append]
      exact .append (.append (.append kind.pathless_name (.literal (by decide)))
        (Decimal.pathless_toString _)) (.literal (by decide))
    case h_2 => cases written

/-- **The output of every command is a text without paths.** -/
theorem exists_pathless_out (environment : Option Bytes) (command : Command) :
    ∃ text, ((command.script environment).run {}).out = Utf8.encode text ∧
      Pathless text.toList := by
  refine ⟨String.join ((command.entries environment).filterMap Entry.line), ?_, ?_⟩
  · rw [run_free, Entry.flatMap_bytes]
  · rw [String.toList_join]
    refine .flatMap ?_
    intro line member
    obtain ⟨entry, called, written⟩ := List.mem_filterMap.mp member
    exact pathless_line called written

end Command

/-! ### Log lines and diagnostics -/

/-- Every path begins with the name of the program, whose last letter stands before a colon. -/
theorem path_isInfix_ofList (rest : List Char) :
    ['n', ':'] <:+: (String.ofList ('n' :: 'e' :: 'o' :: 'n' :: ':' :: rest)).toList := by
  rw [String.toList_ofList]
  exact ⟨['n', 'e', 'o'], rest, rfl⟩

theorem Area.path_isInfix (area : Area) : ['n', ':'] <:+: area.path.toList := by
  cases area <;> exact path_isInfix_ofList _

/-- Whatever spans a filter leaves out, a log line names the area that it comes from. -/
theorem Record.path_isInfix_line (record : Record) : ['n', ':'] <:+: record.line.toList := by
  have path := record.event.area.path_isInfix
  unfold line
  simp only [String.toList_append]
  exact ((path.trans (List.suffix_append _ _).isInfix).trans
    (List.prefix_append _ _).isInfix).trans (List.prefix_append _ _).isInfix

theorem Filter.path_isInfix_line {filter : Filter} {record : Record} {line : String}
    (shown : filter.line? record = some line) : ['n', ':'] <:+: line.toList := by
  unfold line? at shown
  split at shown
  obtain ⟨-, same⟩ := Option.ite_none_right_eq_some.mp shown
  obtain rfl := Option.some.inj same
  exact Record.path_isInfix_line _

/-- A diagnostic begins with its code. -/
theorem UnknownName.path_isInfix_rendered (unknown : UnknownName) :
    ['n', ':'] <:+: unknown.rendered.toList := by
  have path : ['n', ':'] <:+: code.toList := path_isInfix_ofList _
  unfold rendered lines
  rw [String.toList_join]
  simp only [List.cons_append, List.map_cons, List.flatMap_cons, String.toList_append,
    List.append_assoc]
  exact path.trans (List.prefix_append _ _).isInfix

end Lexicon
