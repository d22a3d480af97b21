import Lexicon.Proofs.Decoding
import Lexicon.Proofs.Numerals
import Lexicon.Proofs.Runs
import Lexicon.Proofs.Vocabulary
import Lexicon.Text.Split

/-!
# What the commands write

The output of `lookup` and of `name` into a sink that takes everything, for lists of any length.

* `Command.run_lookupNames` — the run of a look-up depends on the canonical names among its
  arguments and on the other ones, in their order, and not on how the two are mixed;
* `Command.lookupNames_meaning` — output, log and result of a look-up;
* `Kind.rawOf?`, `Kind.rawOf?_nameOf` — the diagnostic name of a raw value tells the value;
* `Command.renderNames_transcript` — the output of `name` can be read back, line by line.
-/

namespace Lexicon

/-! ### Two lists mixed into one -/

/-- `Interleaved left right whole`: the whole list is the two others mixed, each in its order. -/
inductive Interleaved {α : Type} : List α → List α → List α → Prop where
  | nil : Interleaved [] [] []
  | left {a : α} {left right whole : List α} :
      Interleaved left right whole → Interleaved (a :: left) right (a :: whole)
  | right {a : α} {left right whole : List α} :
      Interleaved left right whole → Interleaved left (a :: right) (a :: whole)

/-- Where a property holds of one list and fails on the other, it separates the two again. -/
theorem Interleaved.filter_eq {α : Type} {p : α → Prop} [DecidablePred p]
    {left right whole : List α} (mixed : Interleaved left right whole)
    (holds : ∀ a ∈ left, p a) (fails : ∀ a ∈ right, ¬ p a) :
    whole.filter (fun a => p a) = left ∧ whole.filter (fun a => ¬ p a) = right := by
  induction mixed with
  | nil => exact ⟨rfl, rfl⟩
  | @left a left right whole _ ih =>
    obtain ⟨ha, holds⟩ := List.forall_mem_cons.mp holds
    obtain ⟨ihl, ihr⟩ := ih holds fails
    exact ⟨by simp [ha, ihl], by simpa [ha] using ihr⟩
  | @right a left right whole _ ih =>
    obtain ⟨ha, fails⟩ := List.forall_mem_cons.mp fails
    obtain ⟨ihl, ihr⟩ := ih holds fails
    exact ⟨by simpa [ha] using ihl, by simpa [ha] using ihr⟩

/-! ### Looking names up -/

/-- What is found for the items of a list, seen from the items' side, is the part of the list for
which something is found. -/
theorem map_filterMap_of_inverse {α β : Type} {find : α → Option β} {view : β → α}
    (inverse : ∀ a b, find a = some b → view b = a) (items : List α) :
    (items.filterMap find).map view = items.filter fun a => (find a).isSome := by
  induction items with
  | nil => rfl
  | cons a items ih =>
    cases found : find a with
    | none => simp [found, ih]
    | some b => simp [found, inverse a b found, ih]

namespace Command

/-- The kinds that a list of names is looked up to are those of its canonical names. -/
theorem map_name_filterMap (names : List String) :
    (names.filterMap Kind.ofName?).map Kind.name =
      names.filter fun name => Kind.IsCanonical name := by
  rw [map_filterMap_of_inverse fun _ _ => Kind.ofName?_eq_some_iff.mp]
  apply List.filter_congr
  intro name _
  rw [Bool.eq_iff_iff, Kind.isSome_ofName?_iff, decide_eq_true_iff]

/-- Kinds with given canonical names are what these names are looked up to. -/
theorem filterMap_eq_of_map_name {names : List String} {kinds : List Kind}
    (known : kinds.map Kind.name = names.filter fun name => Kind.IsCanonical name) :
    names.filterMap Kind.ofName? = kinds := by
  rw [← map_name_filterMap] at known
  exact (List.map_inj_right fun _ _ => Kind.name_injective).mp known.symm

theorem unknownNames_eq (names : List String) :
    unknownNames names =
      (names.filter fun name => ¬ Kind.IsCanonical name).map UnknownName.mk := by
  unfold unknownNames
  congr 1
  apply List.filter_congr
  intro name _
  rw [Bool.eq_iff_iff, Option.isNone_iff_eq_none, decide_eq_true_iff, Kind.ofName?_eq_none_iff]

/-- The kinds and the other names are as many as the names. -/
theorem length_kinds_add {names unknown : List String} {kinds : List Kind}
    (known : kinds.map Kind.name = names.filter fun name => Kind.IsCanonical name)
    (others : unknown = names.filter fun name => ¬ Kind.IsCanonical name) :
    kinds.length + unknown.length = names.length := by
  have split := List.length_eq_length_filter_add (l := names) fun name => Kind.IsCanonical name
  rw [← List.length_map (f := Kind.name), known, others]
  simpa using split.symm

/-- A name that is not canonical calls for nothing, so that what a look-up calls for is told by the
kinds that it finds. -/
theorem flatMap_lookupEntry {β : Type} (part : Entry → List β) (nothing : part {} = [])
    (count : Nat) (names : List String) :
    (names.map (lookupEntry count)).flatMap part =
      (names.filterMap Kind.ofName?).flatMap fun kind => part (lookupEntry count kind.name) := by
  induction names with
  | nil => rfl
  | cons name names ih =>
    rw [List.map_cons, List.flatMap_cons, ih]
    cases found : Kind.ofName? name with
    | none => simp [lookupEntry, found, nothing]
    | some kind =>
      obtain rfl := Kind.ofName?_eq_some_iff.mp found
      simp

theorem bytes_lookup (environment : Option Bytes) (names : List String) :
    ((Command.lookup names).entries environment).flatMap Entry.bytes =
      (names.filterMap Kind.ofName?).flatMap fun kind => Utf8.encode (resolvedLine kind) := by
  rw [entries, flatMap_lookupEntry Entry.bytes rfl]
  simp [lookupEntry, Entry.bytes]

theorem records_lookup (environment : Option Bytes) (names : List String) :
    ((Command.lookup names).entries environment).flatMap Entry.records =
      (names.filterMap Kind.ofName?).map fun kind =>
        { event := .resolved kind.name kind.ordinal, spans := [.lookupNames names.length] } := by
  rw [entries, flatMap_lookupEntry Entry.records rfl]
  simp [lookupEntry, List.map_eq_flatMap]

/-- **A look-up sees two lists.** Its run is fixed by the kinds of the canonical names and by the
other names, each in their order. -/
theorem run_lookupNames {names unknown : List String} {kinds : List Kind}
    (known : kinds.map Kind.name = names.filter fun name => Kind.IsCanonical name)
    (others : unknown = names.filter fun name => ¬ Kind.IsCanonical name) :
    (lookupNames names).run {} =
      { result :=
          if unknown = [] then .ok .success
          else .error (.unknownNames (unknown.map UnknownName.mk))
        out := kinds.flatMap fun kind => Utf8.encode (resolvedLine kind)
        log := kinds.map fun kind =>
          { event := .resolved kind.name kind.ordinal
            spans := [.lookupNames (kinds.length + unknown.length)] }
        sink := {} } := by
  have count := length_kinds_add known others
  have found := filterMap_eq_of_map_name known
  have verdict : (lookupNames names).verdict =
      if unknown = [] then .ok .success
      else .error (.unknownNames (unknown.map UnknownName.mk)) := by
    simp only [lookupNames, Script.within, unknownNames_eq, ← others]
    cases unknown <;> rfl
  calc (lookupNames names).run {}
      = ((Command.lookup names).script none).run {} := rfl
    _ = _ := by rw [run_free, bytes_lookup, records_lookup, found, ← count, ← verdict]; rfl

/-- How a look-up ends is told by the names that it reports. -/
theorem result_lookupNames (names : List String) :
    ((lookupNames names).run {}).result =
      if unknownNames names = [] then .ok .success
      else .error (.unknownNames (unknownNames names)) := by
  have run := run_lookupNames (map_name_filterMap names) rfl
  rw [run, unknownNames_eq]
  simp

/-- Unknown names fail the command with their diagnostics, a line feed between any two. -/
theorem failure_unknownNames (unknown : List UnknownName) :
    (CommandError.unknownNames unknown).failure =
      { message := "\n".intercalate (unknown.map UnknownName.rendered), exitCode := .failure } :=
  rfl

/-- **The meaning of a look-up.** One line and one record for every canonical name, in the order of
the names; a diagnostic for every other name, in their order. How the two kinds of names are mixed
cannot be seen. -/
theorem lookupNames_meaning (names : List String) :
    let run := (lookupNames names).run {}
    (∃ kinds : List Kind, kinds.map Kind.name = names.filter (fun name => Kind.IsCanonical name) ∧
      run.out = kinds.flatMap (fun kind =>
        Utf8.encode (kind.name ++ " " ++ toString kind.ordinal.toInt ++ "\n")) ∧
      run.log = kinds.map (fun kind =>
        { event := .resolved kind.name kind.ordinal, spans := [.lookupNames names.length] }) ∧
      run.log.map (fun record => (record.event.level, record.event.message)) =
        kinds.map fun kind => (.debug, "resolved token name name=" ++ kind.name ++ " ordinal="
          ++ toString kind.ordinal.toInt)) ∧
    (run.result = .ok .success ↔ ∀ name ∈ names, Kind.IsCanonical name) ∧
    ((∃ name ∈ names, ¬ Kind.IsCanonical name) →
      ∃ error, run.result = .error error ∧
        error.failure =
          { message := "\n".intercalate ((names.filter fun name => ¬ Kind.IsCanonical name).map
              fun name => (UnknownName.mk name).rendered)
            exitCode := .failure }) ∧
    ∀ known unknown others : List String, (∀ name ∈ known, Kind.IsCanonical name) →
      (∀ name ∈ unknown, ¬ Kind.IsCanonical name) → Interleaved known unknown names →
      Interleaved known unknown others → (lookupNames others).run {} = run := by
  have canonical := map_name_filterMap names
  have allKnown : (names.filter fun name => ¬ Kind.IsCanonical name) = [] ↔
      ∀ name ∈ names, Kind.IsCanonical name := by
    simp [List.filter_eq_nil_iff]
  rw [run_lookupNames canonical rfl]
  refine ⟨⟨_, canonical, rfl, ?_, List.map_map⟩, ?_, ?_, ?_⟩
  · rw [length_kinds_add canonical rfl]
  · rw [← allKnown]
    by_cases resolved : (names.filter fun name => ¬ Kind.IsCanonical name) = []
    · exact iff_of_true (if_pos resolved) resolved
    · exact iff_of_false (by rw [if_neg resolved]; exact nofun) resolved
  · rintro ⟨name, member, unknown⟩
    have nonempty : (names.filter fun name => ¬ Kind.IsCanonical name) ≠ [] :=
      fun resolved => unknown (allKnown.mp resolved name member)
    refine ⟨_, if_neg nonempty, ?_⟩
    rw [failure_unknownNames, List.map_map, Function.comp_def]
  · intro known unknown others holds fails mixed mixed'
    obtain ⟨left, right⟩ := mixed.filter_eq holds fails
    obtain ⟨left', right'⟩ := mixed'.filter_eq holds fails
    exact run_lookupNames (canonical.trans (left.trans left'.symm)) (right.trans right'.symm)

end Command

/-! ### Reading a transcript -/

namespace Split

/-- Lines without a line feed, each ended by one, are what a text splits into, and nothing is left
behind the last line feed. -/
theorem pieces_lines {lines : List (List Char)} (plain : ∀ line ∈ lines, '\n' ∉ line) :
    pieces '\n' (lines.flatMap (· ++ ['\n'])) = lines ++ [[]] := by
  induction lines with
  | nil => rfl
  | cons line lines ih =>
    obtain ⟨first, others⟩ := List.forall_mem_cons.mp plain
    rw [List.flatMap_cons, List.append_assoc, List.singleton_append, pieces_append_cons first,
      ih others, List.cons_append]

/-- Lines written one after another are a text, and it splits into these lines again. -/
theorem exists_text_of_lines {lines : List String} (plain : ∀ line ∈ lines, '\n' ∉ line.toList) :
    ∃ text, Utf8.decode? (lines.flatMap fun line => Utf8.encode (line ++ "\n")) = some text ∧
      pieces '\n' text.toList = lines.map String.toList ++ [[]] := by
  refine ⟨String.join (lines.map (· ++ "\n")), ?_, ?_⟩
  · rw [Utf8.decode?_eq_some_iff]
    simp [Utf8.encode, String.toList_join, List.flatMap_map, List.flatMap_assoc]
  · rw [← pieces_lines]
    · simp [String.toList_join, List.flatMap_map]
    · simpa using plain

end Split

namespace Kind

/-- The raw value that a diagnostic name tells: the ordinal of a canonical name, or the number
behind the lead of the fallback text. -/
def rawOf? (line : String) : Option Int32 :=
  match ofName? line with
  | some kind => some kind.ordinal
  | none =>
    if fallbackLead.toList <+: line.toList then
      (Decimal.readInt32 (String.ofList (line.toList.drop fallbackLead.length))).toOption
    else none

/-- The fallback text has spaces in it, and no canonical name has. -/
theorem space_mem_message (unnamed : Unnamed) : ' ' ∈ unnamed.message.toList := by
  rw [Unnamed.message, String.toList_append]
  exact List.mem_append_left _ (by decide)

theorem not_isCanonical_message (unnamed : Unnamed) : ¬ IsCanonical unnamed.message :=
  not_isCanonical_of_mem (by decide) (space_mem_message unnamed)

/-- The diagnostic name of a raw value tells the value. -/
theorem rawOf?_nameOf (raw : Int32) : rawOf? (nameOf raw) = some raw := by
  cases found : ofOrdinal? raw with
  | some kind =>
    obtain rfl := ofOrdinal?_eq_some_iff.mp found
    simp [rawOf?]
  | none =>
    have unknown := ofName?_eq_none_iff.mpr (not_isCanonical_message ⟨raw⟩)
    simp only [nameOf, found, rawOf?, unknown]
    rw [Unnamed.message, String.toList_append, if_pos (List.prefix_append _ _),
      ← String.length_toList, List.drop_left, String.ofList_toList, Decimal.readInt32_toString]
    rfl

/-- A diagnostic name is one line. -/
theorem newline_not_mem_nameOf (raw : Int32) : '\n' ∉ (nameOf raw).toList := by
  unfold nameOf
  split
  · exact not_mem_name (by decide) _
  · rw [Unnamed.message, String.toList_append, List.mem_append, not_or]
    exact ⟨by decide, Decimal.not_mem_toString (by decide) _⟩

end Kind

namespace Command

/-- Rendering calls for one line for every value. -/
theorem bytes_name (environment : Option Bytes) (values : List Int32) :
    ((Command.name values).entries environment).flatMap Entry.bytes =
      values.flatMap fun raw => Utf8.encode (Kind.nameOf raw ++ "\n") := by
  simp only [entries, List.flatMap_map, nameEntry, Entry.bytes]

/-- Rendering calls for one warning for every value that stands for no kind. -/
theorem records_name (environment : Option Bytes) (values : List Int32) :
    ((Command.name values).entries environment).flatMap Entry.records =
      (values.filter fun raw => raw < 0 ∨ 18 < raw).map fun raw =>
        { event := .unnamedValue raw, spans := [.renderNames values.length] } := by
  simp only [entries, List.flatMap_map, nameEntry, Kind.ofOrdinal?_eq_none_iff]
  generalize values.length = count
  induction values with
  | nil => rfl
  | cons raw values ih =>
    rw [List.flatMap_cons, ih]
    by_cases outside : raw < 0 ∨ 18 < raw <;> simp [outside]

theorem run_renderNames (values : List Int32) :
    (renderNames values).run {} =
      { result := .ok .success
        out := values.flatMap fun raw => Utf8.encode (Kind.nameOf raw ++ "\n")
        log := (values.filter fun raw => raw < 0 ∨ 18 < raw).map fun raw =>
          { event := .unnamedValue raw, spans := [.renderNames values.length] }
        sink := {} } := by
  calc (renderNames values).run {}
      = ((Command.name values).script none).run {} := rfl
    _ = _ := by rw [run_free, bytes_name, records_name]; rfl

/-- The output of `name` is text, and its lines are the names of the values. -/
theorem lines_renderNames (values : List Int32) :
    ∃ text, Utf8.decode? ((renderNames values).run {}).out = some text ∧
      Split.pieces '\n' text.toList = (values.map Kind.nameOf).map String.toList ++ [[]] := by
  have plain : ∀ line ∈ values.map Kind.nameOf, '\n' ∉ line.toList := by
    simp [Kind.newline_not_mem_nameOf]
  have read := Split.exists_text_of_lines plain
  rw [List.flatMap_map] at read
  rw [run_renderNames]
  exact read

theorem mapM_rawOf? (values : List Int32) :
    (values.map Kind.nameOf).mapM Kind.rawOf? = some values := by
  induction values with
  | nil => rfl
  | cons raw values ih => simp [Kind.rawOf?_nameOf, ih]

/-- **The output of `name` is a lossless transcript.** -/
theorem renderNames_transcript (values : List Int32) :
    let run := (renderNames values).run {}
    run.result = .ok .success ∧
    run.log = (values.filter fun raw => raw < 0 ∨ 18 < raw).map (fun raw =>
      { event := .unnamedValue raw, spans := [.renderNames values.length] }) ∧
    run.log.map (fun record => (record.event.level, record.event.message)) =
      (values.filter fun raw => raw < 0 ∨ 18 < raw).map (fun raw =>
        (.warn, "value does not name a token kind value=" ++ toString raw.toInt)) ∧
    (∃ text lines, Utf8.decode? run.out = some text ∧
      Split.pieces '\n' text.toList = lines.map String.toList ++ [[]] ∧
      lines = values.map Kind.nameOf ∧ lines.mapM Kind.rawOf? = some values) ∧
    ∀ others, ((renderNames others).run {}).out = run.out → others = values := by
  obtain ⟨text, decoded, pieces⟩ := lines_renderNames values
  refine ⟨?_, ?_, ?_, ⟨text, _, decoded, pieces, rfl, mapM_rawOf? values⟩, ?_⟩
  · rw [run_renderNames]
  · rw [run_renderNames]
  · rw [run_renderNames]
    exact List.map_map
  · intro others same
    obtain ⟨text', decoded', pieces'⟩ := lines_renderNames others
    rw [same, decoded] at decoded'
    obtain rfl := Option.some.inj decoded'
    rw [pieces] at pieces'
    have names : values.map Kind.nameOf = others.map Kind.nameOf :=
      (List.map_inj_right fun _ _ => String.toList_inj.mp).mp (List.append_cancel_right pieces')
    have read := mapM_rawOf? others
    rw [← names, mapM_rawOf? values] at read
    exact (Option.some.inj read).symm

end Command

end Lexicon
