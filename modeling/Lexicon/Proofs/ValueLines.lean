import Lexicon.Program
import Lexicon.Proofs.Arguments
import Lexicon.Proofs.Decoding
import Lexicon.Proofs.Numerals

/-!
# Command lines with values

Which command lines of `name` and of `lookup` lead to a command, for arbitrary byte strings as
arguments. In lines of `name`, two recognisers look at a negative number, one that tells it from a
flag and one that reads it. The first accepts more than the second, and all that the second accepts.
In lines of `lookup`, nothing that begins with a dash is a value, except behind the separator.

* `Values.collect_eq_ok_iff` — the values of a line are its arguments without the first separator,
  provided that every argument before that is admitted;
* `Values.admits_of_numeral` — every numeral is admitted where negative numbers are;
* `Values.number_eq_ok_iff` — the values that denote a number are its numerals;
* `CommandLine.read_name_iff` — the lines of `name` are the lists of numerals;
* `CommandLine.read_lookup_iff` — the lines of `lookup` are the lists of texts without flags, and
  any list of texts behind the separator is one.
-/

namespace Lexicon

/-- `Numeral argument value`: the argument is the bytes of a numeral of the number. -/
def Numeral (argument : Bytes) (value : Int) : Prop :=
  ∃ text : String, argument = Utf8.encode text ∧ Decimal.Denotes text.toList value

/-! ### What is admitted as a value -/

namespace Values

open Decimal

/-- An argument before the separator is a value if it is a word or, where negative numbers are
values, a dash and what looks like a number. -/
def Admits (negative : Bool) (argument : Bytes) : Prop :=
  Argument.shape argument = .word ∨
    negative = true ∧ ∃ body, Argument.shape argument = .short body ∧
      Argument.isNumeral body = true

/-- Where negative numbers are no values, a single dash is the only value with a dash in front. -/
theorem admits_false_iff {argument : Bytes} :
    Admits false argument ↔
      (argument.head? = some Argument.dash → argument = [Argument.dash]) := by
  rw [← Argument.shape_eq_word_iff]
  simp [Admits]

theorem admits_iff_of_short {negative : Bool} {argument body : Bytes}
    (shape : Argument.shape argument = .short body) :
    Admits negative argument ↔ (negative && Argument.isNumeral body) = true := by
  simp [Admits, shape]

/-- Digits are bytes of their own, and the first of them is not a dash. -/
theorem encode_digits {digits : List Char} (h : IsDigits digits) :
    ∃ first rest, Utf8.encode (String.ofList digits) = first :: rest ∧ first ≠ Argument.dash := by
  obtain ⟨nonempty, all⟩ := h
  obtain ⟨c, chars, rfl⟩ := List.exists_cons_of_ne_nil nonempty
  obtain ⟨low, high⟩ := Char.isDigit_iff_toNat.mp (all c List.mem_cons_self)
  refine ⟨_, _, Utf8.encode_cons_of_ascii (by simp at high; omega) chars, ?_⟩
  intro same
  have value := congrArg UInt8.toNat same
  simp [Argument.dash] at low high value
  omega

/-- Digits look like a number. -/
theorem isNumeral_digits {digits : List Char} (h : IsDigits digits) :
    Argument.isNumeral (Utf8.encode (String.ofList digits)) = true := by
  obtain ⟨nonempty, all⟩ := h
  obtain ⟨c, chars, rfl⟩ := List.exists_cons_of_ne_nil nonempty
  have unmarked : ∀ d ∈ c :: chars, (!Argument.isExponentMark d) = true := by
    intro d member
    have digit := all d member
    simp only [Argument.isExponentMark, Bool.not_eq_true', Bool.or_eq_false_iff,
      beq_eq_false_iff_ne]
    constructor <;> rintro rfl <;> cases digit
  have pointless : (c :: chars).count '.' = 0 := by
    refine List.count_eq_zero.mpr fun member => ?_
    cases all '.' member
  simp only [Argument.isNumeral, Utf8.decode?_encode, Option.any_some, String.toList_ofList,
    Argument.isNumeralText, List.takeWhile_eq_self_iff.mpr unmarked,
    List.dropWhile_eq_nil_iff.mpr unmarked, pointless]
  simp only [List.forall_mem_cons] at all
  simpa [all.1] using fun d member => .inl (all.2 d member)

/-- Every numeral is admitted where negative numbers are. -/
theorem admits_of_denotes {text : List Char} {value : Int} (numeral : Denotes text value) :
    Admits true (Utf8.encode (String.ofList text)) := by
  cases numeral with
  | unsigned h =>
    obtain ⟨first, rest, bytes, other⟩ := encode_digits h
    rw [bytes]
    exact .inl (Argument.shape_of_ne_dash other rest)
  | @plus digits h =>
    rw [Utf8.encode_cons_of_ascii (by decide)]
    exact .inl (Argument.shape_of_ne_dash (by decide) _)
  | @minus digits h =>
    obtain ⟨first, rest, bytes, other⟩ := encode_digits h
    rw [Utf8.encode_cons_of_ascii (by decide), bytes]
    exact .inr ⟨rfl, _, Argument.shape_dash other rest, bytes ▸ isNumeral_digits h⟩

theorem admits_of_numeral {argument : Bytes} {value : Int} (numeral : Numeral argument value) :
    Admits true argument := by
  obtain ⟨text, rfl, numeral⟩ := numeral
  simpa using admits_of_denotes numeral

/-! ### What is collected -/

/-- The values of a line are its arguments without the first separator. An argument in front of
that which is not admitted ends the reading. -/
theorem collect_eq_ok_iff {α : Type} {topic : Topic} {negative : Bool}
    {check : List Bytes → Except Refusal α} {seen arguments values : List Bytes} :
    collect topic negative check seen arguments = .ok values ↔
      (∀ argument ∈ arguments.takeWhile (· ≠ Argument.separator), Admits negative argument) ∧
        seen ++ arguments.erase Argument.separator = values := by
  induction arguments generalizing seen with
  | nil => simp [collect]
  | cons argument rest ih =>
    rw [collect]
    by_cases first : argument = Argument.separator
    · subst first
      rw [Argument.shape_eq_separator_iff.mpr rfl]
      simp
    · rw [List.takeWhile_cons_of_pos (by simpa using first), List.forall_mem_cons,
        List.erase_cons_tail (by simpa using first)]
      cases shape : Argument.shape argument with
      | separator => exact absurd (Argument.shape_eq_separator_iff.mp shape) first
      | word => simp [ih, Admits, shape]
      | long name value => simp [Admits, shape]
      | short body =>
        rw [admits_iff_of_short shape]
        dsimp only
        split
        · rename_i number
          simp [ih, number]
        · rename_i other
          simp [other]

/-- A line is accepted if there are values and they pass the check. -/
theorem read_eq_ok_iff {α : Type} {topic : Topic} {negative : Bool}
    {check : List Bytes → Except Refusal α} {arguments : List Bytes} {found : α} :
    read topic negative check arguments = .ok found ↔
      (∀ argument ∈ arguments.takeWhile (· ≠ Argument.separator), Admits negative argument) ∧
        arguments.erase Argument.separator ≠ [] ∧
        check (arguments.erase Argument.separator) = .ok found := by
  unfold read
  simp only [Check.bind_eq_ok_iff, collect_eq_ok_iff, List.nil_append]
  constructor
  · rintro ⟨values, ⟨admitted, rfl⟩, passed⟩
    split at passed
    · cases passed
    · exact ⟨admitted, ‹_›, passed⟩
  · rintro ⟨admitted, nonempty, passed⟩
    exact ⟨_, ⟨admitted, rfl⟩, by rw [if_neg nonempty, passed]⟩

/-! ### What is checked -/

theorem text_eq_ok_iff {topic : Topic} {value : Bytes} {found : String} :
    text topic value = .ok found ↔ value = Utf8.encode found := by
  rw [← Utf8.decode?_eq_some_iff]
  unfold text
  cases Utf8.decode? value <;> simp

/-- The values that denote a number are its numerals. -/
theorem number_eq_ok_iff {topic : Topic} {value : Bytes} {found : Int32} :
    number topic value = .ok found ↔ Numeral value found.toInt := by
  unfold number Numeral
  simp only [Check.bind_eq_ok_iff, text_eq_ok_iff, ← readInt32_eq_ok_iff]
  refine exists_congr fun text => and_congr_right fun _ => ?_
  cases readInt32 text <;> simp

theorem numbers_eq_ok_iff {values : List Bytes} {found : List Int32} :
    numbers values = .ok found ↔
      List.Forall₂ (fun value number => Numeral value number.toInt) values found := by
  simp only [numbers, Check.mapM_eq_ok_iff, number_eq_ok_iff]

/-- The values that are text are its bytes. -/
theorem texts_eq_ok_iff {values : List Bytes} {found : List String} :
    texts values = .ok found ↔ values = found.map Utf8.encode := by
  rw [texts, Check.mapM_eq_ok_iff, ← List.forall₂_eq_eq_eq, List.forall₂_map_right_iff]
  simp only [text_eq_ok_iff]

end Values

/-- The argument that a number is printed as. -/
def decimal (value : Int32) : Bytes := Utf8.encode (toString value.toInt)

theorem numeral_decimal (value : Int32) : Numeral (decimal value) value.toInt :=
  ⟨_, rfl, Decimal.denotes_toString value.toInt⟩

/-- Two dashes are a sign too many and no digit. -/
theorem not_numeral_separator {value : Int} : ¬ Numeral Argument.separator value := by
  rintro ⟨text, same, numeral⟩
  have dashes : Utf8.decode? Argument.separator = some text := Utf8.decode?_eq_some_iff.mpr same
  rw [Argument.separator, Utf8.decode?_encode, Option.some.injEq] at dashes
  subst dashes
  rcases numeral with ⟨digits⟩ | _ | ⟨digits⟩
  · exact Decimal.not_isDigits_sign rfl digits
  · exact Decimal.not_isDigits_sign rfl digits

theorem separator_not_mem_decimal (values : List Int32) :
    Argument.separator ∉ values.map decimal := by
  intro member
  obtain ⟨value, -, same⟩ := List.mem_map.mp member
  exact not_numeral_separator (same ▸ numeral_decimal value)

/-- Printed numbers, with or without a separator between them, leave the printed numbers. -/
theorem erase_separator_decimal (before after : List Int32) :
    (before.map decimal ++ Argument.separator :: after.map decimal).erase Argument.separator =
      (before ++ after).map decimal := by
  rw [List.erase_append_right _ (separator_not_mem_decimal before), List.erase_cons_head,
    List.map_append]

theorem forall₂_decimal (values : List Int32) :
    List.Forall₂ (fun argument value => Numeral argument value.toInt) (values.map decimal)
      values := by
  rw [List.forall₂_map_left_iff, List.forall₂_same]
  exact fun value _ => numeral_decimal value

namespace CommandLine

theorem read_name (rest : List Bytes) :
    read (Utf8.encode "name" :: rest) =
      (Values.read .name true Values.numbers rest).map Command.name := by
  have called : subcommand? (Utf8.encode "name") = some .name := by decide
  rw [read, called]
  rfl

/-- Every numeral on a line is admitted, so that only the reader of numbers decides. -/
theorem read_name_eq_ok_iff {rest : List Bytes} {values : List Int32} :
    read (Utf8.encode "name" :: rest) = .ok (.name values) ↔
      rest.erase Argument.separator ≠ [] ∧
        List.Forall₂ (fun argument value => Numeral argument value.toInt)
          (rest.erase Argument.separator) values := by
  rw [read_name, Check.map_eq_ok_iff]
  simp only [Command.name.injEq, exists_eq_right, Values.read_eq_ok_iff, Values.numbers_eq_ok_iff]
  constructor
  · rintro ⟨-, accepted⟩
    exact accepted
  · rintro ⟨nonempty, numerals⟩
    refine ⟨fun argument before => ?_, nonempty, numerals⟩
    have other : argument ≠ Argument.separator := by
      simpa using List.mem_takeWhile_imp before
    have kept : argument ∈ rest.erase Argument.separator :=
      (List.mem_erase_of_ne other).mpr ((List.takeWhile_sublist _).subset before)
    have admitted := numerals.imp fun _ _ numeral =>
      And.intro (Values.admits_of_numeral numeral) numeral
    exact ((List.forall₂_and_left _ _).mp admitted).1 argument kept

/-- The lines of `name` are the lists of numerals, and a list of numbers can be printed as one. -/
theorem read_name_iff (rest : List Bytes) (values : List Int32) :
    (read (Utf8.encode "name" :: rest) = .ok (.name values) ↔
      rest.erase Argument.separator ≠ [] ∧
        List.Forall₂ (fun argument value => Numeral argument value.toInt)
          (rest.erase Argument.separator) values) ∧
    (values ≠ [] →
      read (Utf8.encode "name" :: values.map decimal) = .ok (.name values) ∧
      ∀ position, read (Utf8.encode "name" :: ((values.take position).map decimal ++
        Argument.separator :: (values.drop position).map decimal)) = .ok (.name values)) := by
  refine ⟨read_name_eq_ok_iff, fun nonempty => ?_⟩
  have printed : values.map decimal ≠ [] := by simpa using nonempty
  constructor
  · rw [read_name_eq_ok_iff, List.erase_of_not_mem (separator_not_mem_decimal values)]
    exact ⟨printed, forall₂_decimal values⟩
  · intro position
    rw [read_name_eq_ok_iff, erase_separator_decimal, List.take_append_drop]
    exact ⟨printed, forall₂_decimal values⟩

-- An exponent is admitted as a value, but there is no number that it denotes.
example : read [Utf8.encode "name", Utf8.encode "-1e5"] = .error (.badNumber "-1e5" .digit) := rfl

/-! ### Lines of `lookup` -/

theorem read_lookup (rest : List Bytes) :
    read (Utf8.encode "lookup" :: rest) =
      (Values.read .lookup false Values.texts rest).map Command.lookup := by
  have called : subcommand? (Utf8.encode "lookup") = some .lookup := by decide
  rw [read, called]
  rfl

theorem read_lookup_eq_ok_iff {rest : List Bytes} {names : List String} :
    read (Utf8.encode "lookup" :: rest) = .ok (.lookup names) ↔
      rest.erase Argument.separator ≠ [] ∧
        (∀ argument ∈ rest.takeWhile (· ≠ Argument.separator),
          argument.head? = some Argument.dash → argument = [Argument.dash]) ∧
        rest.erase Argument.separator = names.map Utf8.encode := by
  rw [read_lookup, Check.map_eq_ok_iff]
  simp only [Command.lookup.injEq, exists_eq_right, Values.read_eq_ok_iff, Values.texts_eq_ok_iff,
    Values.admits_false_iff]
  exact and_left_comm

/-- Behind the separator every text is a value, whatever it looks like. -/
theorem read_lookup_separator {names : List String} (nonempty : names ≠ []) :
    read (Utf8.encode "lookup" :: Argument.separator :: names.map Utf8.encode) =
      .ok (.lookup names) := by
  rw [read_lookup_eq_ok_iff, List.erase_cons_head]
  refine ⟨by simpa using nonempty, ?_, rfl⟩
  simp

/-- **The lines of `lookup`** are the lists of texts without flags, and behind the separator any
list of texts reaches the look-up as it is. -/
theorem read_lookup_iff (rest : List Bytes) (names : List String) :
    (read (Utf8.encode "lookup" :: rest) = .ok (.lookup names) ↔
      rest.erase Argument.separator ≠ [] ∧
        (∀ argument ∈ rest.takeWhile (· ≠ Argument.separator),
          argument.head? = some Argument.dash → argument = [Argument.dash]) ∧
        rest.erase Argument.separator = names.map Utf8.encode) ∧
    (names ≠ [] →
      read (Utf8.encode "lookup" :: Argument.separator :: names.map Utf8.encode) =
        .ok (.lookup names) ∧
      ∀ environment, Program.run environment
          (Utf8.encode "lookup" :: Argument.separator :: names.map Utf8.encode) =
        Program.finished (Filter.ofVariable environment.logFilter)
          ((Command.lookupNames names).run {})) := by
  refine ⟨read_lookup_eq_ok_iff, ?_⟩
  intro nonempty
  refine ⟨read_lookup_separator nonempty, ?_⟩
  intro environment
  rw [Program.run, read_lookup_separator nonempty]
  rfl

-- The first separator is taken away, and a second one is a name to be looked up.
example : read (["lookup", "-", "--", "--", "-h"].map Utf8.encode) =
    .ok (.lookup ["-", "--", "-h"]) := by decide

end CommandLine

end Lexicon
