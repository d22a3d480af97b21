import Lexicon.Proofs.Transcripts

/-!
# Rendering and looking up

The command `name` goes from numbers to names and the command `lookup` from names to numbers. Each
can read what the other has written, and gets back what the other was given, as far as it stands
for kinds.

* `Output.lines?` — the lines of some output, with `Output.lines?_flatMap`;
* `Kind.isCanonical_nameOf_iff` — the numbers whose diagnostic name is canonical;
* `UnknownName.hint_of_space` — no text with a space is a canonical name in another case;
* `Command.run_lookupNames_nameOf` — looking up the names of any numbers;
* `Command.ordinalOf?` — the number on a line of a look-up;
* `Command.lookupNames_renderNames` — the two commands undo each other.
-/

namespace Lexicon

/-! ### Lines of output -/

namespace Output

/-- The lines of some output: it has to be text, and every line has to end with a line feed. -/
def lines? (out : Bytes) : Option (List String) := do
  let pieces := Split.pieces '\n' (← Utf8.decode? out).toList
  if pieces.getLast? = some [] then some (pieces.dropLast.map String.ofList) else none

/-- The lines of an output that was written line by line are the lines written. -/
theorem lines?_flatMap {lines : List String} (plain : ∀ line ∈ lines, '\n' ∉ line.toList) :
    lines? (lines.flatMap fun line => Utf8.encode (line ++ "\n")) = some lines := by
  obtain ⟨text, decoded, pieces⟩ := Split.exists_text_of_lines plain
  rw [lines?, decoded]
  simp [pieces, Function.comp_def]

end Output

/-! ### Names that are canonical and names that are not -/

namespace Kind

/-- The diagnostic name of a number is canonical if the number stands for a kind. No fallback text
is. -/
theorem isCanonical_nameOf_iff {raw : Int32} :
    IsCanonical (nameOf raw) ↔ 0 ≤ raw ∧ raw ≤ 18 := by
  rw [← isSome_ofOrdinal?_iff]
  cases found : ofOrdinal? raw with
  | some kind => simp [nameOf, found, IsCanonical]
  | none => simp [nameOf, found, not_isCanonical_message]

theorem not_isCanonical_nameOf_iff {raw : Int32} :
    ¬ IsCanonical (nameOf raw) ↔ raw < 0 ∨ 18 < raw := by
  rw [isCanonical_nameOf_iff, Decidable.not_and_iff_or_not, Int32.not_le, Int32.not_le]

/-- The kinds that numbers stand for, in the order of the numbers. -/
theorem map_ordinal_filterMap (values : List Int32) :
    (values.filterMap ofOrdinal?).map ordinal =
      values.filter fun raw => 0 ≤ raw ∧ raw ≤ 18 := by
  rw [map_filterMap_of_inverse fun _ _ => ofOrdinal?_eq_some_iff.mp]
  apply List.filter_congr
  intro raw _
  rw [Bool.eq_iff_iff, isSome_ofOrdinal?_iff, decide_eq_true_iff]

end Kind

/-- The advice that lists all names suggests none of them. -/
theorem Hint.not_suggests_listing : ¬ "did you mean".toList <:+: (text .listing).toList := by
  decide +kernel

namespace UnknownName

/-- A text with a space in it is no canonical name in another case: spaces have no case, and no
canonical name has a space. -/
theorem hint_of_space {name : String} (space : ' ' ∈ name.toList) :
    (UnknownName.mk name).hint = .listing := by
  have kept : ' ' ∈ (upper name).toList := by
    rw [upper, String.toList_ofList]
    exact List.mem_map.mpr ⟨' ', space, by decide⟩
  rw [hint, Kind.ofName?_eq_none_iff.mpr (Kind.not_isCanonical_of_mem (by decide) kept)]

/-- The advice on a fallback text lists all names. -/
theorem help_nameOf {raw : Int32} (outside : raw < 0 ∨ 18 < raw) :
    (UnknownName.mk (Kind.nameOf raw)).help = Hint.text .listing := by
  have space : ' ' ∈ (Kind.nameOf raw).toList := by
    rw [Kind.nameOf, Kind.ofOrdinal?_eq_none_iff.mpr outside]
    exact Kind.space_mem_message ⟨raw⟩
  rw [help, hint_of_space space]

end UnknownName

namespace Command

/-! ### From numbers to names and back -/

theorem lines?_renderNames (values : List Int32) :
    Output.lines? ((renderNames values).run {}).out = some (values.map Kind.nameOf) := by
  have plain : ∀ line ∈ values.map Kind.nameOf, '\n' ∉ line.toList := by
    simp [Kind.newline_not_mem_nameOf]
  rw [run_renderNames, ← Output.lines?_flatMap plain, List.flatMap_map]

/-- The diagnostic name of a number with the number behind it. -/
def numbered (raw : Int32) : String :=
  Kind.nameOf raw ++ " " ++ toString raw.toInt

theorem resolvedLine_eq (kind : Kind) : resolvedLine kind = numbered kind.ordinal ++ "\n" := by
  rw [resolvedLine, numbered, Kind.nameOf_ordinal]

/-- Looking up the names of some numbers. The names of the numbers that stand for kinds are found;
the fallback texts of the others are not. -/
theorem run_lookupNames_nameOf (values : List Int32) :
    let run := (lookupNames (values.map Kind.nameOf)).run {}
    let outside := values.filter fun raw => raw < 0 ∨ 18 < raw
    run.out = (values.filter fun raw => 0 ≤ raw ∧ raw ≤ 18).flatMap
      (fun raw => Utf8.encode (numbered raw ++ "\n")) ∧
    run.result = if outside = [] then .ok .success else
      .error (.unknownNames (outside.map fun raw => ⟨Kind.nameOf raw⟩)) := by
  have known : (values.filterMap Kind.ofOrdinal?).map Kind.name =
      (values.map Kind.nameOf).filter fun name => Kind.IsCanonical name := by
    simp only [List.filter_map, Function.comp_def, Kind.isCanonical_nameOf_iff,
      ← Kind.map_ordinal_filterMap, List.map_map, Kind.nameOf_ordinal]
  have others : (values.filter fun raw => raw < 0 ∨ 18 < raw).map Kind.nameOf =
      (values.map Kind.nameOf).filter fun name => ¬ Kind.IsCanonical name := by
    simp only [List.filter_map, Function.comp_def, Kind.not_isCanonical_nameOf_iff]
  rw [run_lookupNames known others]
  constructor
  · rw [← Kind.map_ordinal_filterMap, List.flatMap_map]
    simp only [resolvedLine_eq]
  · simp [List.map_map, Function.comp_def]

/-! ### From names to numbers and back -/

/-- The number on a line of a look-up, which stands behind the only space. -/
def ordinalOf? (line : String) : Option Int32 :=
  match Split.pieces ' ' line.toList with
  | [_, numeral] => (Decimal.readInt32 (String.ofList numeral)).toOption
  | _ => none

theorem ordinalOf?_numbered (kind : Kind) :
    ordinalOf? (numbered kind.ordinal) = some kind.ordinal := by
  have pieces : Split.pieces ' ' (numbered kind.ordinal).toList =
      [kind.name.toList, (toString kind.ordinal.toInt).toList] := by
    rw [numbered, Kind.nameOf_ordinal, String.toList_append, String.toList_append,
      List.append_assoc]
    calc Split.pieces ' ' (kind.name.toList ++ ' ' :: (toString kind.ordinal.toInt).toList)
        = kind.name.toList :: Split.pieces ' ' (toString kind.ordinal.toInt).toList :=
          Split.pieces_append_cons (Kind.not_mem_name (by decide) kind) _
      _ = _ := by rw [Split.pieces_of_not_mem (Decimal.not_mem_toString (by decide) _)]
  rw [ordinalOf?, pieces]
  simp only [String.ofList_toList, Decimal.readInt32_toString]
  rfl

theorem newline_not_mem_numbered (raw : Int32) : '\n' ∉ (numbered raw).toList := by
  rw [numbered, String.toList_append, String.toList_append, List.mem_append, List.mem_append,
    not_or, not_or]
  exact ⟨⟨Kind.newline_not_mem_nameOf raw, by decide⟩, Decimal.not_mem_toString (by decide) _⟩

theorem lines?_lookupNames (kinds : List Kind) :
    Output.lines? ((lookupNames (kinds.map Kind.name)).run {}).out =
      some ((kinds.map Kind.ordinal).map numbered) := by
  have plain : ∀ line ∈ (kinds.map Kind.ordinal).map numbered, '\n' ∉ line.toList := by
    simp [newline_not_mem_numbered]
  have known : kinds.map Kind.name =
      (kinds.map Kind.name).filter fun name => Kind.IsCanonical name := by
    rw [eq_comm, List.filter_eq_self]
    simp [Kind.IsCanonical]
  rw [← Output.lines?_flatMap plain, run_lookupNames known rfl]
  simp only [resolvedLine_eq, List.flatMap_map]

theorem mapM_ordinalOf? (kinds : List Kind) :
    ((kinds.map Kind.ordinal).map numbered).mapM ordinalOf? = some (kinds.map Kind.ordinal) := by
  simp only [List.mapM_map, Function.comp_def, ordinalOf?_numbered]
  exact List.mapM_pure

/-- **Rendering and looking up undo each other.** The names of numbers are looked up to the numbers
that stand for kinds, in their order, and each of the other numbers has its fallback text reported,
with the list of all names and no suggestion. The ordinals of canonical names are rendered as these
names. -/
theorem lookupNames_renderNames :
    (∀ values : List Int32, ∃ lines,
      Output.lines? ((renderNames values).run {}).out = some lines ∧
      lines = values.map Kind.nameOf ∧
      let run := (lookupNames lines).run {}
      let outside := values.filter fun raw => raw < 0 ∨ 18 < raw
      (run.result = .ok .success ↔ ∀ raw ∈ values, 0 ≤ raw ∧ raw ≤ 18) ∧
      run.out = (values.filter fun raw => 0 ≤ raw ∧ raw ≤ 18).flatMap (fun raw =>
        Utf8.encode (Kind.nameOf raw ++ " " ++ toString raw.toInt ++ "\n")) ∧
      (outside ≠ [] → ∃ diagnostics : List UnknownName,
        diagnostics.map UnknownName.name = outside.map Kind.nameOf ∧
        run.result = .error (.unknownNames diagnostics) ∧
        (CommandError.unknownNames diagnostics).failure =
          { message := "\n".intercalate (diagnostics.map UnknownName.rendered)
            exitCode := .failure } ∧
        ∀ unknown ∈ diagnostics,
          unknown.help = "expected one of: " ++ ", ".intercalate (Kind.all.map Kind.name) ∧
          ¬ "did you mean".toList <:+: unknown.help.toList)) ∧
    ∀ names : List String, (∀ name ∈ names, Kind.IsCanonical name) → ∃ lines ordinals,
      Output.lines? ((lookupNames names).run {}).out = some lines ∧
      lines.mapM ordinalOf? = some ordinals ∧
      let run := (renderNames ordinals).run {}
      run.result = .ok .success ∧
        run.out = names.flatMap fun name => Utf8.encode (name ++ "\n") := by
  constructor
  · intro values
    refine ⟨_, lines?_renderNames values, rfl, ?_⟩
    intro run outside
    obtain ⟨out, result⟩ := run_lookupNames_nameOf values
    have inside : outside = [] ↔ ∀ raw ∈ values, 0 ≤ raw ∧ raw ≤ 18 := by
      simp [outside, List.filter_eq_nil_iff, Int32.not_lt]
    refine ⟨?_, out, ?_⟩
    · rw [← inside, result]
      split
      case isTrue within => exact iff_of_true rfl within
      case isFalse beyond => exact iff_of_false nofun beyond
    · intro beyond
      refine ⟨_, ?_, result.trans (if_neg beyond), failure_unknownNames _, ?_⟩
      · rw [List.map_map, Function.comp_def]
      · intro unknown member
        obtain ⟨raw, filtered, rfl⟩ := List.mem_map.mp member
        rw [UnknownName.help_nameOf (by simpa using List.of_mem_filter filtered)]
        exact ⟨rfl, Hint.not_suggests_listing⟩
  · intro names canonical
    -- A list of canonical names is the list of the names of some kinds.
    have found := map_name_filterMap names
    rw [List.filter_eq_self.mpr (by simpa using canonical)] at found
    refine ⟨_, _, found ▸ lines?_lookupNames _, mapM_ordinalOf? _, ?_, ?_⟩
    · rw [run_renderNames]
    · rw [run_renderNames]
      conv_rhs => rw [← found]
      simp only [List.flatMap_map, Kind.nameOf_ordinal]

end Command

end Lexicon
