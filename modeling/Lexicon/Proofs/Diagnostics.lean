import Lexicon.Proofs.LogLines
import Lexicon.Proofs.Wrapping

/-!
# Diagnostics on unknown names

A diagnostic shows the name that it is about. Whatever this name holds, line feeds included, it can
neither make up a diagnostic of its own nor hide one: every line that shows some of it is indented,
and only the line with the code of a diagnostic begins at the margin. For names of letters, digits
and spaces it is also said how the lines are broken.

* `Wrap.exists_of_mem_paragraph` — a line of a paragraph is an indent and a line of wrapped text;
* `UnknownName.pieces_rendered` — a diagnostic is its lines, each ended by a line feed;
* `UnknownName.LaidOut`, `UnknownName.exists_laidOut` — the lines fit and nothing is lost;
* `Command.lookupNames_diagnostics` — the diagnostics in the message of a failed look-up can be
  counted.
-/

namespace Lexicon

/-! ### Paragraphs -/

theorem PlainText.not_mem {text : String} (plain : PlainText text) {c : Char}
    (control : Printable.IsControl c) : c ∉ text.toList :=
  fun member => plain c member control

namespace Wrap

variable {width : Nat} {lead later text line : String}

theorem mem_indent {first others : List Char} {lines : List (List Char)} {line : List Char}
    (indented : line ∈ indent first others lines) :
    ∃ shown ∈ lines, line = first ++ shown ∨ line = others ++ shown := by
  cases lines with
  | nil => cases indented
  | cons head rest =>
    rcases List.mem_cons.mp indented with rfl | behind
    · exact ⟨head, List.mem_cons_self .., .inl rfl⟩
    · obtain ⟨shown, member, rfl⟩ := List.mem_map.mp behind
      exact ⟨shown, List.mem_cons_of_mem _ member, .inr rfl⟩

/-- A line of a paragraph is one of the two indents and a line of wrapped text, which shows some of
the text between two line feeds. -/
theorem exists_of_mem_paragraph (member : line ∈ paragraph width lead later text) :
    ∃ indent ∈ [lead, later], ∃ piece ∈ Split.pieces '\n' text.toList,
      ∃ shown ∈ wrapLine width piece, line.toList = indent.toList ++ shown := by
  obtain ⟨chars, indented, rfl⟩ := List.mem_map.mp member
  obtain ⟨shown, wrapped, whole⟩ := mem_indent indented
  obtain ⟨piece, between, set⟩ := List.mem_flatMap.mp wrapped
  rw [String.toList_ofList]
  rcases whole with rfl | rfl
  · exact ⟨lead, by simp, piece, between, shown, set, rfl⟩
  · exact ⟨later, by simp, piece, between, shown, set, rfl⟩

theorem prefix_of_mem_paragraph {start : List Char}
    (starts : ∀ indent ∈ [lead, later], start <+: indent.toList)
    (member : line ∈ paragraph width lead later text) : start <+: line.toList := by
  obtain ⟨indent, either, -, -, shown, -, whole⟩ := exists_of_mem_paragraph member
  rw [whole]
  exact (starts indent either).trans (List.prefix_append _ _)

/-- Whatever the text of a paragraph holds, there is no line feed within a line. -/
theorem newline_not_mem_paragraph (plain : ∀ indent ∈ [lead, later], '\n' ∉ indent.toList)
    (member : line ∈ paragraph width lead later text) : '\n' ∉ line.toList := by
  obtain ⟨indent, either, piece, between, shown, set, whole⟩ := exists_of_mem_paragraph member
  rw [whole, List.mem_append]
  rintro (inside | inside)
  · exact plain indent either inside
  · exact Split.separator_not_mem_of_mem_pieces piece between (mem_of_mem_wrapLine set inside)

/-- A text without control characters is one piece, and its rows are the lines of the paragraph. -/
theorem exists_wrapped_paragraph (enough : 3 ≤ width) (plain : PlainText text) :
    ∃ first others, Wrapped width text.toList (first :: others) ∧
      (paragraph width lead later text).map String.toList =
        (lead.toList ++ first.text) :: others.map fun row => later.toList ++ row.text := by
  have single : '\n' ∉ text.toList := plain.not_mem (by decide)
  obtain ⟨rows, lines, wrapped⟩ := exists_wrapped enough (plain.not_mem (by decide))
  cases rows with
  | nil => exact absurd (List.map_eq_nil_iff.mp lines) (fill_ne_nil _ _ _ _)
  | cons first others =>
    refine ⟨first, others, wrapped, ?_⟩
    rw [paragraph, Split.pieces_of_not_mem single, List.flatMap_singleton, lines]
    simp [indent, Function.comp_def]

/-- A line of a paragraph is at most as wide as its indent and a line of text. -/
theorem count_le_of_mem_paragraph (enough : 3 ≤ width) (plain : PlainText text) {margin : Nat}
    (indents : ∀ indent ∈ [lead, later],
      '\x1b' ∉ indent.toList ∧ Columns.count indent.toList = margin)
    (member : line ∈ paragraph width lead later text) :
    Columns.count line.toList ≤ margin + width := by
  obtain ⟨indent, either, piece, between, shown, set, whole⟩ := exists_of_mem_paragraph member
  rw [Split.pieces_of_not_mem (plain.not_mem (by decide))] at between
  obtain rfl := List.mem_singleton.mp between
  obtain ⟨unescaped, columns⟩ := indents indent either
  rw [whole, Columns.count_append unescaped, columns]
  exact Nat.add_le_add_left (count_le_of_mem_wrapLine enough (plain.not_mem (by decide)) set) margin

end Wrap

/-! ### The lines of a diagnostic -/

namespace UnknownName

variable (unknown : UnknownName)

/-- What is said of all lines of a diagnostic is said of its parts. -/
theorem forall_mem_lines {P : String → Prop} :
    (∀ line ∈ unknown.lines, P line) ↔ (P code ∧ P "") ∧
      (∀ line ∈ unknown.messageLines, P line) ∧ ∀ line ∈ unknown.helpLines, P line := by
  rw [lines, List.append_assoc, List.forall_mem_append, List.forall_mem_append,
    List.forall_mem_cons, List.forall_mem_singleton]

theorem newline_not_mem_of_mem_lines : ∀ line ∈ unknown.lines, '\n' ∉ line.toList := by
  refine unknown.forall_mem_lines.mpr ⟨⟨by decide, by decide⟩, ?_, ?_⟩
  · intro line message
    exact Wrap.newline_not_mem_paragraph (by decide) message
  · intro line help
    exact Wrap.newline_not_mem_paragraph (by decide) help

/-- A diagnostic is its lines, each ended by a line feed. -/
theorem pieces_rendered :
    Split.pieces '\n' unknown.rendered.toList = unknown.lines.map String.toList ++ [[]] := by
  have plain : ∀ line ∈ unknown.lines.map String.toList, '\n' ∉ line := by
    intro line member
    obtain ⟨text, listed, rfl⟩ := List.mem_map.mp member
    exact unknown.newline_not_mem_of_mem_lines text listed
  rw [← Split.pieces_lines plain, rendered, String.toList_join, List.flatMap_map, List.flatMap_map]
  simp only [String.toList_append]
  rfl

/-- The lines of a diagnostic are its code, an empty line, and indented lines. -/
theorem pieces_rendered_eq : ∃ indented : List (List Char),
    Split.pieces '\n' unknown.rendered.toList = code.toList :: [] :: indented ++ [[]] ∧
      ∀ line ∈ indented, [' ', ' '] <+: line := by
  refine ⟨(unknown.messageLines ++ unknown.helpLines).map String.toList, ?_, ?_⟩
  · rw [pieces_rendered, lines, List.append_assoc]
    rfl
  · intro line member
    obtain ⟨text, listed, rfl⟩ := List.mem_map.mp member
    rcases List.mem_append.mp listed with message | help
    · exact Wrap.prefix_of_mem_paragraph (by decide) message
    · exact Wrap.prefix_of_mem_paragraph (by decide) help

end UnknownName

/-! ### Diagnostics on plain names -/

theorem Hint.plainText_text (hint : Hint) : PlainText hint.text := by
  cases hint with
  | otherCase kind =>
    exact .append (.append (.literal (by decide)) kind.plainText_name) (.literal (by decide))
  | listing =>
    refine .append (.literal (by decide)) (.intercalate (.literal (by decide)) ?_)
    intro name listed
    obtain ⟨kind, -, rfl⟩ := List.mem_map.mp listed
    exact kind.plainText_name

theorem toNat_of_isAlphanum {c : Char} (letter : c.isAlphanum = true) :
    48 ≤ c.toNat ∧ c.toNat ≤ 122 := by
  rcases (Bool.or_eq_true _ _).mp letter with alpha | digit
  · rcases (Bool.or_eq_true _ _).mp alpha with upper | lower
    · have bounds : 65 ≤ c.toNat ∧ c.toNat ≤ 90 := of_decide_eq_true upper
      omega
    · obtain ⟨low, high⟩ := (Bool.and_eq_true _ _).mp lower
      have low : 97 ≤ c.toNat := of_decide_eq_true low
      have high : c.toNat ≤ 122 := of_decide_eq_true high
      omega
  · have bounds : 48 ≤ c.toNat ∧ c.toNat ≤ 57 := Char.isDigit_iff_toNat.mp digit
    omega

/-- Letters, digits and spaces are no control characters. -/
theorem PlainText.of_alphanumeric {text : String}
    (plain : ∀ c ∈ text.toList, c.isAlphanum = true ∨ c = ' ') : PlainText text := by
  intro c member
  rcases plain c member with letter | rfl
  · have bounds := toNat_of_isAlphanum letter
    unfold Printable.IsControl
    omega
  · decide

theorem PlainText.message {name : String} (plain : PlainText name) :
    PlainText (UnknownName.mk name).message :=
  .append (.append (.literal (by decide)) plain) (.literal (by decide))

namespace UnknownName

/-- How a diagnostic is laid out, with the rows of its message: it consists of its code, an empty
line, the message beside a cross and a bar, and the help; no line is wider than 78 columns; the rows
show the message up to spaces, and they are broken at spaces or inside words of more than 74
columns. -/
structure LaidOut (unknown : UnknownName) (first : Wrap.Row) (others : List Wrap.Row) : Prop where
  lines : Split.pieces '\n' unknown.rendered.toList =
    [code.toList, []] ++ ("  × ".toList ++ first.text) ::
      others.map (fun row => "  │ ".toList ++ row.text) ++
        unknown.helpLines.map String.toList ++ [[]]
  fits : ∀ line ∈ Split.pieces '\n' unknown.rendered.toList, Columns.count line ≤ 78
  shown : ((first :: others).flatMap Wrap.Row.text).filter (· ≠ ' ') =
    ("unknown token kind `" ++ unknown.name ++ "`").toList.filter (· ≠ ' ')
  wrapped : Wrap.Wrapped 74 ("unknown token kind `" ++ unknown.name ++ "`").toList (first :: others)

/-- No line of a diagnostic on a plain name is wider than 78 columns. -/
theorem count_le_of_mem_lines {unknown : UnknownName} (plain : PlainText unknown.name) :
    ∀ line ∈ unknown.lines, Columns.count line.toList ≤ 78 := by
  refine unknown.forall_mem_lines.mpr ⟨⟨by decide, by decide⟩, ?_, ?_⟩
  · have indents : ∀ indent ∈ ["  × ", "  │ "],
        '\x1b' ∉ indent.toList ∧ Columns.count indent.toList = 4 := by decide +kernel
    intro line message
    exact Wrap.count_le_of_mem_paragraph (by decide) plain.message indents message
  · have indents : ∀ indent ∈ ["  help: ", "        "],
        '\x1b' ∉ indent.toList ∧ Columns.count indent.toList = 8 := by decide
    intro line help
    exact Wrap.count_le_of_mem_paragraph (by decide) (Hint.plainText_text _) indents help

/-- **A diagnostic on a name of letters, digits and spaces fits and loses nothing.** -/
theorem exists_laidOut (name : String)
    (plain : ∀ c ∈ name.toList, c.isAlphanum = true ∨ c = ' ') :
    ∃ first others, LaidOut ⟨name⟩ first others := by
  have controlless := PlainText.of_alphanumeric plain
  obtain ⟨first, others, wrapped, message⟩ :
      ∃ first others, Wrap.Wrapped 74 (UnknownName.mk name).message.toList (first :: others) ∧
        (UnknownName.mk name).messageLines.map String.toList =
          ("  × ".toList ++ first.text) :: others.map fun row => "  │ ".toList ++ row.text :=
    Wrap.exists_wrapped_paragraph (by decide) controlless.message
  refine ⟨first, others, ?_, ?_, wrapped.filter_eq, wrapped⟩
  · rw [pieces_rendered, lines, List.map_append, List.map_append, message]
    rfl
  · intro line member
    rw [pieces_rendered] at member
    rcases List.mem_append.mp member with above | last
    · obtain ⟨text, listed, rfl⟩ := List.mem_map.mp above
      exact count_le_of_mem_lines controlless text listed
    · obtain rfl := List.mem_singleton.mp last
      decide

/-- A word that does not fit beside the words before it, and not on a line of its own either. -/
theorem exists_laidOut_wide :
    let name := "ab  " ++ String.ofList (List.replicate 80 'x') ++ "   12"
    (∀ c ∈ name.toList, c.isAlphanum = true ∨ c = ' ') ∧
      ∃ first others, LaidOut ⟨name⟩ first others := by
  intro name
  have plain : ∀ c ∈ name.toList, c.isAlphanum = true ∨ c = ' ' := by
    have all : name.toList.all fun c => c.isAlphanum || c == ' ' := by decide
    intro c member
    simpa using List.all_eq_true.mp all c member
  exact ⟨plain, exists_laidOut name plain⟩

end UnknownName

/-! ### Diagnostics in a message -/

/-- The code stands on one line of a diagnostic: no indented line is the code. -/
theorem UnknownName.count_code (unknown : UnknownName) :
    (Split.pieces '\n' unknown.rendered.toList).count code.toList = 1 := by
  obtain ⟨indented, lines, starts⟩ := unknown.pieces_rendered_eq
  have margin : ¬ [' ', ' '] <+: code.toList := by decide
  have below : indented.count code.toList = 0 :=
    List.count_eq_zero.mpr fun member => margin (starts _ member)
  have empty : List.count code.toList [[]] = 0 := by decide
  rw [lines, List.count_append, List.count_cons_self, List.count_cons_of_ne (by decide), below,
    empty]

/-- As many diagnostics as there are, so many lines with the code. -/
theorem UnknownName.count_code_flatMap (unknown : List UnknownName) :
    (unknown.flatMap fun name => Split.pieces '\n' name.rendered.toList).count code.toList =
      unknown.length := by
  induction unknown with
  | nil => rfl
  | cons first others ih =>
    rw [List.flatMap_cons, List.count_append, first.count_code, ih, List.length_cons, Nat.add_comm]

/-- A line of a diagnostic is empty, its code, or indented. -/
theorem UnknownName.eq_code_or_indented {unknown : UnknownName} {line : List Char}
    (member : line ∈ Split.pieces '\n' unknown.rendered.toList) (nonempty : line ≠ []) :
    line = code.toList ∨ [' ', ' '] <+: line := by
  obtain ⟨indented, lines, starts⟩ := unknown.pieces_rendered_eq
  rw [lines] at member
  rcases List.mem_append.mp member with above | last
  · rcases List.mem_cons.mp above with rfl | below
    · exact .inl rfl
    · rcases List.mem_cons.mp below with rfl | behind
      · exact absurd rfl nonempty
      · exact .inr (starts line behind)
  · exact absurd (List.mem_singleton.mp last) nonempty

/-- The lines of a message on unknown names are the lines of its diagnostics. -/
theorem CommandError.pieces_message {unknown : List UnknownName} (nonempty : unknown ≠ []) :
    Split.pieces '\n' (CommandError.unknownNames unknown).message.toList =
      unknown.flatMap fun name => Split.pieces '\n' name.rendered.toList := by
  unfold message
  rw [String.toList_intercalate, List.map_map]
  refine (Split.pieces_intercalate (by simpa using nonempty)).trans ?_
  rw [List.flatMap_map]
  rfl

namespace Command

/-- **Diagnostics cannot be forged.** The message of a failed look-up holds the code of a diagnostic
once for every name that is not canonical; every other line of it is empty or indented. -/
theorem lookupNames_diagnostics (names : List String) (error : CommandError)
    (failed : ((lookupNames names).run {}).result = .error error) :
    let lines := Split.pieces '\n' error.failure.message.toList
    lines.count "neon::tokens::unknown_name".toList =
      (names.filter fun name => ¬ Kind.IsCanonical name).length ∧
    ∀ line ∈ lines, line ≠ [] →
      line = "neon::tokens::unknown_name".toList ∨ "  ".toList <+: line := by
  intro lines
  rw [result_lookupNames] at failed
  split at failed
  case isTrue => cases failed
  case isFalse unknown =>
    obtain rfl := Except.error.inj failed
    have pieces : lines = (unknownNames names).flatMap fun name =>
        Split.pieces '\n' name.rendered.toList := CommandError.pieces_message unknown
    have code : "neon::tokens::unknown_name" = UnknownName.code := rfl
    rw [pieces, code]
    constructor
    · rw [UnknownName.count_code_flatMap, unknownNames_eq, List.length_map]
    · intro line member nonempty
      obtain ⟨unknown, -, inside⟩ := List.mem_flatMap.mp member
      exact UnknownName.eq_code_or_indented inside nonempty

/-- A name that imitates a diagnostic, beside a name that is canonical. -/
theorem lookupNames_diagnostics_imitated :
    let names := ["x\nneon::tokens::unknown_name\n\n  × unknown token kind `y`", "EOF"]
    let error := CommandError.unknownNames
      [⟨"x\nneon::tokens::unknown_name\n\n  × unknown token kind `y`"⟩]
    let lines := Split.pieces '\n' error.failure.message.toList
    ((lookupNames names).run {}).result = .error error ∧
      lines.count "neon::tokens::unknown_name".toList = 1 ∧
      ∀ line ∈ lines, line ≠ [] →
        line = "neon::tokens::unknown_name".toList ∨ "  ".toList <+: line := by
  intro names error lines
  have failed : ((lookupNames names).run {}).result = .error error := rfl
  exact ⟨failed, lookupNames_diagnostics names error failed⟩

end Command

end Lexicon
