import Lexicon.Kind.Raw
import Lexicon.Kind.Registry

/-!
# The vocabulary seen from outside

Names are written down twice, with the kinds and in the registry, and fixed spellings stand in the
registry alone; the look-ups by name and by spelling search the registry. Ordinals are written down
once for each direction. This module says which texts and numbers the look-ups accept.

* `Kind.find?_eq_some_info_iff` — a search in the registry finds a kind's own record if no other
  record has the same entry;
* `Kind.ofName?_eq_some_iff` — a text is looked up to the kind whose canonical name it is;
* `Kind.IsCanonical` — a text is the canonical name of some kind;
* `Kind.ofLexeme?_eq_some_iff` — a text is looked up to the kind whose fixed spelling it is;
* `Kind.lookups_invert_spellings` — both look-ups and the records that they find;
* `Kind.ofOrdinal?_eq_none_iff` — the numbers that stand for no kind are those outside `0..18`.
-/

namespace Lexicon.Kind

/-! ### Searching the registry -/

theorem info_mem_registry (kind : Kind) : kind.info ∈ registry :=
  List.get_mem ..

theorem info_of_mem_registry : ∀ row ∈ registry, row.kind.info = row := by
  decide

/-- Where at most one kind has a given entry in a column of the registry, a search for this entry
finds the record that stands at this kind's place. -/
theorem find?_eq_some_info_iff {β : Type} [BEq β] [LawfulBEq β] {column : Info → β} {entry : β}
    (single : ∀ a b : Kind, column a.info = entry → column b.info = entry → a = b) {kind : Kind} :
    registry.find? (fun row => column row == entry) = some kind.info ↔
      column kind.info = entry := by
  constructor
  · intro found
    simpa using List.find?_some found
  · intro own
    have passes : (registry.find? fun row => column row == entry).isSome := by
      rw [List.find?_isSome]
      exact ⟨kind.info, info_mem_registry kind, by simpa using own⟩
    obtain ⟨row, found⟩ := Option.isSome_iff_exists.mp passes
    have same : column row = entry := by simpa using List.find?_some found
    have own' := info_of_mem_registry row (List.mem_of_find?_eq_some found)
    rw [← own'] at same
    rw [found, ← own', single _ _ same own]

/-- The kind of the record that a search finds tells which record it is. -/
theorem map_kind_find?_eq_some_iff {p : Info → Bool} {kind : Kind} :
    (registry.find? p).map Info.kind = some kind ↔ registry.find? p = some kind.info := by
  rw [Option.map_eq_some_iff]
  constructor
  · rintro ⟨row, found, rfl⟩
    rw [found, info_of_mem_registry row (List.mem_of_find?_eq_some found)]
  · intro found
    exact ⟨kind.info, found, info_kind kind⟩

/-! ### Names -/

/-- A text is the canonical name of some kind. -/
def IsCanonical (text : String) : Prop :=
  ∃ kind : Kind, kind.name = text

theorem find?_name_eq_some_iff {text : String} {kind : Kind} :
    registry.find? (fun row => row.name == text) = some kind.info ↔ kind.name = text := by
  rw [← info_name]
  apply find?_eq_some_info_iff
  intro a b left right
  rw [info_name] at left right
  exact name_injective (left.trans right.symm)

/-- A text is looked up to a kind exactly when it is that kind's canonical name. -/
theorem ofName?_eq_some_iff {text : String} {kind : Kind} :
    ofName? text = some kind ↔ kind.name = text := by
  rw [ofName?, map_kind_find?_eq_some_iff, find?_name_eq_some_iff]

@[simp] theorem ofName?_name (kind : Kind) : ofName? kind.name = some kind :=
  ofName?_eq_some_iff.mpr rfl

theorem isSome_ofName?_iff {text : String} : (ofName? text).isSome = true ↔ IsCanonical text := by
  simp only [Option.isSome_iff_exists, ofName?_eq_some_iff, IsCanonical]

theorem ofName?_eq_none_iff {text : String} : ofName? text = none ↔ ¬ IsCanonical text := by
  rw [← isSome_ofName?_iff, Bool.not_eq_true, Option.isSome_eq_false_iff, Option.isNone_iff_eq_none]

/-- A canonical name consists of capital letters. -/
theorem not_mem_name {c : Char} (other : c.isUpper = false) (kind : Kind) :
    c ∉ kind.name.toList := by
  have all : kind.name.toList.all Char.isUpper = true := by cases kind <;> decide
  intro member
  simp [List.all_eq_true.mp all c member] at other

theorem capital_of_mem_name {c : Char} {kind : Kind} (member : c ∈ kind.name.toList) :
    'A' ≤ c ∧ c ≤ 'Z' := by
  apply Decidable.byContradiction
  intro other
  exact not_mem_name (decide_eq_false other) kind member

theorem not_isCanonical_of_mem {c : Char} {text : String} (other : c.isUpper = false)
    (member : c ∈ text.toList) : ¬ IsCanonical text := by
  rintro ⟨kind, rfl⟩
  exact not_mem_name other kind member

instance (text : String) : Decidable (IsCanonical text) :=
  decidable_of_iff _ isSome_ofName?_iff

/-! ### Fixed spellings -/

/-- The kinds without a fixed spelling. -/
theorem lexeme_eq_none_iff {kind : Kind} :
    kind.lexeme = none ↔ kind ∈ [eof, unknown, invalid, ident, num] := by
  cases kind <;> decide

theorem eq_or_lexeme_eq_none : ∀ a ∈ all, ∀ b ∈ all,
    a.lexeme = b.lexeme → a = b ∨ b.lexeme = none := by
  decide

/-- No two kinds are spelt alike. -/
theorem eq_of_lexeme_eq_some {a b : Kind} {text : String} (left : a.lexeme = some text)
    (right : b.lexeme = some text) : a = b := by
  have either := eq_or_lexeme_eq_none a (mem_all a) b (mem_all b) (left.trans right.symm)
  rcases either with same | unspelt
  · exact same
  · rw [unspelt] at right
    cases right

theorem find?_lexeme_eq_some_iff {text : String} {kind : Kind} :
    registry.find? (fun row => row.lexeme == some text) = some kind.info ↔
      kind.lexeme = some text :=
  find?_eq_some_info_iff fun _ _ => eq_of_lexeme_eq_some

/-- A text is looked up to a kind exactly when it is that kind's fixed spelling. -/
theorem ofLexeme?_eq_some_iff {text : String} {kind : Kind} :
    ofLexeme? text = some kind ↔ kind.lexeme = some text := by
  rw [ofLexeme?, map_kind_find?_eq_some_iff, find?_lexeme_eq_some_iff]

/-- A fixed spelling is written with small letters or signs. -/
theorem exists_mem_lexeme {kind : Kind} {text : String} (given : kind.lexeme = some text) :
    ∃ c ∈ text.toList, c.isUpper = false := by
  cases kind <;> cases given <;> exact ⟨_, List.mem_cons_self, by decide⟩

/-- Names consist of capital letters, so that no fixed spelling is a name. -/
theorem not_isCanonical_of_lexeme {kind : Kind} {text : String}
    (given : kind.lexeme = some text) : ¬ IsCanonical text := by
  obtain ⟨c, member, other⟩ := exists_mem_lexeme given
  exact not_isCanonical_of_mem other member

/-- **The two look-ups by text undo the two spellings of a kind.** Each search in the registry finds
the record that stands at the kind's own place, a kind without a fixed spelling is never found by
one, and no text is both a name and a fixed spelling. -/
theorem lookups_invert_spellings (text : String) :
    (∀ kind : Kind, (ofName? text = some kind ↔ kind.name = text) ∧
      (registry.find? (fun row => row.name == text) = some kind.info ↔ kind.name = text)) ∧
    (∀ kind : Kind, (ofLexeme? text = some kind ↔ kind.lexeme = some text) ∧
      (registry.find? (fun row => row.lexeme == some text) = some kind.info ↔
        kind.lexeme = some text)) ∧
    (∀ kind : Kind, ofLexeme? text = some kind →
      kind ∉ [eof, unknown, invalid, ident, num]) ∧
    ¬ ((ofName? text).isSome ∧ (ofLexeme? text).isSome) := by
  refine ⟨?_, ?_, ?_, ?_⟩
  · intro kind
    exact ⟨ofName?_eq_some_iff, find?_name_eq_some_iff⟩
  · intro kind
    exact ⟨ofLexeme?_eq_some_iff, find?_lexeme_eq_some_iff⟩
  · intro kind found unspelt
    rw [ofLexeme?_eq_some_iff, lexeme_eq_none_iff.mpr unspelt] at found
    cases found
  · rintro ⟨named, spelt⟩
    obtain ⟨kind, spelt⟩ := Option.isSome_iff_exists.mp spelt
    exact not_isCanonical_of_lexeme (ofLexeme?_eq_some_iff.mp spelt) (isSome_ofName?_iff.mp named)

/-! ### Ordinals -/

theorem ordinal_bounds (kind : Kind) : 0 ≤ kind.ordinal ∧ kind.ordinal ≤ 18 := by
  cases kind <;> decide

/-- Every number from zero to eighteen is the ordinal of a kind. -/
theorem exists_ordinal_eq {raw : Int32} (low : 0 ≤ raw) (high : raw ≤ 18) :
    ∃ kind : Kind, kind.ordinal = raw := by
  have cover : ∀ n : Nat, n < 19 → ∃ kind ∈ all, kind.ordinal = Int32.ofInt n := by decide
  have low : 0 ≤ raw.toInt := Int32.le_iff_toInt_le.mp low
  have high : raw.toInt ≤ 18 := Int32.le_iff_toInt_le.mp high
  obtain ⟨kind, -, same⟩ := cover raw.toInt.toNat (by omega)
  refine ⟨kind, same.trans ?_⟩
  rw [Int.toNat_of_nonneg low, Int32.ofInt_toInt]

theorem isSome_ofOrdinal?_iff {raw : Int32} :
    (ofOrdinal? raw).isSome = true ↔ 0 ≤ raw ∧ raw ≤ 18 := by
  constructor
  · intro found
    obtain ⟨kind, found⟩ := Option.isSome_iff_exists.mp found
    obtain rfl := ofOrdinal?_eq_some_iff.mp found
    exact ordinal_bounds kind
  · rintro ⟨low, high⟩
    obtain ⟨kind, rfl⟩ := exists_ordinal_eq low high
    simp

/-- The numbers that stand for no kind are those below zero and those above eighteen. -/
theorem ofOrdinal?_eq_none_iff {raw : Int32} : ofOrdinal? raw = none ↔ raw < 0 ∨ 18 < raw := by
  rw [← Option.not_isSome_iff_eq_none, isSome_ofOrdinal?_iff, Decidable.not_and_iff_or_not,
    Int32.not_le, Int32.not_le]

end Lexicon.Kind
