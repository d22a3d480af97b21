import Lexicon.Proofs.Decoding
import Lexicon.Report.Format
import Mathlib.Data.List.Forall2
import Mathlib.Data.List.TakeWhile

/-!
# The names of formats

A format is named by its name in any case of the ASCII letters, with any blank characters around
it, and by nothing else. Folding letters makes no character blank and no blank one visible, so that
it does not matter whether a text is first trimmed or first folded.

* `Blank.exists_trim`, `Blank.trim_surrounded` — trimming takes blank characters off both ends, and
  whatever blank characters are put there it takes off again;
* `Letter.lower`, `Letter.Same` — ASCII letters in lower case, and apart from their case;
* `Format.parse_eq_some_iff` — the texts that name a format;
* `Format.parse_language` — the same, with what follows about blanks, case and other alphabets.
-/

namespace Lexicon

/-! ### Trimming -/

namespace Blank

/-- Some text consists of blank characters. -/
def AllBlank (text : List Char) : Prop :=
  ∀ c ∈ text, isBlank c = true

theorem trim_blanks_append {blanks : List Char} (blank : AllBlank blanks) (text : List Char) :
    trim (blanks ++ text) = trim text := by
  rw [trim, List.dropWhile_append_of_pos blank, trim]

theorem trim_append_blanks (text : List Char) {blanks : List Char} (blank : AllBlank blanks) :
    trim (text ++ blanks) = trim text := by
  have rest : blanks.dropWhile isBlank = [] := List.dropWhile_eq_nil_iff.mpr blank
  simp only [trim, List.dropWhile_append, List.isEmpty_iff]
  split
  · rename_i all
    rw [rest, all]
  · exact trimEnd_append_blanks blank

/-- Blank characters around a text do not survive. -/
theorem trim_surrounded {before after : List Char} (blankBefore : AllBlank before)
    (blankAfter : AllBlank after) (text : List Char) :
    trim (before ++ text ++ after) = trim text := by
  rw [trim_append_blanks _ blankAfter, trim_blanks_append blankBefore]

theorem exists_trimEnd (text : List Char) :
    ∃ after, AllBlank after ∧ text = trimEnd text ++ after := by
  refine ⟨(text.reverse.takeWhile isBlank).reverse, ?_, ?_⟩
  · intro c member
    exact List.all_eq_true.mp List.all_takeWhile c (List.mem_reverse.mp member)
  · rw [trimEnd, ← List.reverse_append, List.takeWhile_append_dropWhile, List.reverse_reverse]

/-- What is trimmed off a text are blank characters at its ends. -/
theorem exists_trim (text : List Char) :
    ∃ before after, AllBlank before ∧ AllBlank after ∧ text = before ++ trim text ++ after := by
  obtain ⟨after, blank, split⟩ := exists_trimEnd (text.dropWhile isBlank)
  refine ⟨text.takeWhile isBlank, after, List.all_eq_true.mp List.all_takeWhile, blank, ?_⟩
  calc text = text.takeWhile isBlank ++ text.dropWhile isBlank :=
        List.takeWhile_append_dropWhile.symm
    _ = text.takeWhile isBlank ++ trim text ++ after := by
        rw [List.append_assoc, trim, ← split]

/-- A character that is not blank survives. -/
theorem mem_trim {c : Char} {text : List Char} (member : c ∈ text) (visible : isBlank c = false) :
    c ∈ trim text := by
  obtain ⟨before, after, blankBefore, blankAfter, split⟩ := exists_trim text
  have apart {blanks : List Char} (blank : AllBlank blanks) : c ∉ blanks := by
    intro inside
    simp [blank c inside] at visible
  rw [split, List.mem_append, List.mem_append] at member
  rcases member with (inside | inside) | inside
  · exact absurd inside (apart blankBefore)
  · exact inside
  · exact absurd inside (apart blankAfter)

/-- The visible characters of ASCII are not blank. -/
theorem isBlank_of_graphic {c : Char} (low : 0x21 ≤ c.toNat) (high : c.toNat ≤ 0x7E) :
    isBlank c = false := by
  simp only [isBlank, Ranges.contains, whiteSpace, List.any_cons, List.any_nil, Bool.or_false,
    Bool.or_eq_false_iff, Bool.and_eq_false_iff, decide_eq_false_iff_not]
  omega

/-- A text without blank characters stays as it is. -/
theorem trim_eq_self {text : List Char} (visible : ∀ c ∈ text, isBlank c = false) :
    trim text = text := by
  have stays {rest : List Char} (visible : ∀ c ∈ rest, isBlank c = false) :
      rest.dropWhile isBlank = rest := by
    cases rest with
    | nil => rfl
    | cons c rest => rw [List.dropWhile_cons_of_neg (by simp [visible c (List.mem_cons_self ..)])]
  rw [trim, trimEnd, stays visible, stays (by simpa using visible), List.reverse_reverse]

end Blank

/-! ### Letters apart from their case -/

namespace Letter

/-- A capital letter of ASCII in lower case, and every other character as it is. -/
def lower (c : Char) : Char :=
  if 'A' ≤ c ∧ c ≤ 'Z' then Char.ofNat (c.toNat + 32) else c

/-- `Same c d`: one character, or one letter of ASCII in its two cases. -/
def Same (c d : Char) : Prop :=
  d = c ∨ d = lower c ∨ c = lower d

theorem capital_iff {c : Char} : 'A' ≤ c ∧ c ≤ 'Z' ↔ 65 ≤ c.toNat ∧ c.toNat ≤ 90 :=
  Iff.rfl

/-- A capital letter and its small letter are 32 code points apart. -/
theorem toNat_lower_of_capital {c : Char} (capital : 'A' ≤ c ∧ c ≤ 'Z') :
    (lower c).toNat = c.toNat + 32 := by
  have bounds := capital_iff.mp capital
  rw [lower, if_pos capital]
  exact Utf8.toNat_val_ofNat (.inl (by omega))

theorem lower_of_not_capital {c : Char} (other : ¬ ('A' ≤ c ∧ c ≤ 'Z')) : lower c = c :=
  if_neg other

theorem lower_of_not_ascii {c : Char} (beyond : 128 ≤ c.toNat) : lower c = c :=
  lower_of_not_capital (by rw [capital_iff]; omega)

/-- The library's lower case is that of ASCII. -/
theorem toLower_eq_lower (c : Char) : c.toLower = lower c := by
  by_cases capital : 'A' ≤ c ∧ c ≤ 'Z'
  · have bounds := capital_iff.mp capital
    have within : c.val ≥ 'A'.val ∧ c.val ≤ 'Z'.val := capital
    have sum : (c.val + ('a'.val - 'A'.val)).toNat = c.toNat + 32 := by
      rw [UInt32.toNat_add]
      exact Nat.mod_eq_of_lt (show c.toNat + 32 < 2 ^ 32 by omega)
    have lowered : c.toLower = _ := dif_pos within
    apply Char.toNat_inj.mp
    rw [toNat_lower_of_capital capital, lowered]
    exact sum
  · have outside : ¬ (c.val ≥ 'A'.val ∧ c.val ≤ 'Z'.val) := capital
    rw [lower_of_not_capital capital]
    exact dif_neg outside

/-- A letter in lower case has no lower case of its own. -/
theorem lower_lower (c : Char) : lower (lower c) = lower c := by
  by_cases capital : 'A' ≤ c ∧ c ≤ 'Z'
  · have bounds := capital_iff.mp capital
    have raised := toNat_lower_of_capital capital
    exact lower_of_not_capital (by rw [capital_iff]; omega)
  · rw [lower_of_not_capital capital, lower_of_not_capital capital]

theorem Same.lower_eq {c d : Char} (same : Same c d) : lower c = lower d := by
  rcases same with rfl | rfl | rfl
  · rfl
  · exact (lower_lower c).symm
  · exact lower_lower d

/-- Letters are not blank, in either case. -/
theorem isBlank_lower (c : Char) : Blank.isBlank (lower c) = Blank.isBlank c := by
  by_cases capital : 'A' ≤ c ∧ c ≤ 'Z'
  · have bounds := capital_iff.mp capital
    have raised := toNat_lower_of_capital capital
    rw [Blank.isBlank_of_graphic (by omega) (by omega),
      Blank.isBlank_of_graphic (by omega) (by omega)]
  · rw [lower_of_not_capital capital]

end Letter

/-! ### The language of a format -/

namespace Format

/-- A text names the format whose name it is, once it is trimmed and folded. -/
theorem parse_eq (text : String) :
    parse text = ofName? (String.ofList ((Blank.trim text.toList).map Letter.lower)) := by
  rw [parse, funext Letter.toLower_eq_lower]

/-- Folding and trimming can change places. -/
theorem trim_map_lower (text : List Char) :
    Blank.trim (text.map Letter.lower) = (Blank.trim text).map Letter.lower := by
  have same : Blank.isBlank ∘ Letter.lower = Blank.isBlank := funext Letter.isBlank_lower
  simp only [Blank.trim, Blank.trimEnd, List.dropWhile_map, ← List.map_reverse, same]

/-- The name of a format consists of visible characters of ASCII. -/
theorem graphic_of_mem_name {c : Char} {format : Format} (member : c ∈ format.name.toList) :
    0x21 ≤ c.toNat ∧ c.toNat ≤ 0x7E := by
  have all : format.name.toList.all fun c => 0x21 ≤ c.toNat ∧ c.toNat ≤ 0x7E := by
    cases format <;> decide
  simpa using List.all_eq_true.mp all c member

/-- **The texts that name a format** are its name in any case, with blank characters around it. -/
theorem parse_eq_some_iff {text : String} {format : Format} :
    parse text = some format ↔
      ∃ before word after, text.toList = before ++ word ++ after ∧ Blank.AllBlank before ∧
        Blank.AllBlank after ∧ word.map Letter.lower = format.name.toList := by
  rw [parse_eq, ofName?_eq_some_iff]
  constructor
  · intro named
    obtain ⟨before, after, blankBefore, blankAfter, split⟩ := Blank.exists_trim text.toList
    exact ⟨before, _, after, split, blankBefore, blankAfter, by rw [named, String.toList_ofList]⟩
  · rintro ⟨before, word, after, split, blankBefore, blankAfter, named⟩
    have visible : ∀ c ∈ word, Blank.isBlank c = false := by
      intro c member
      have bounds := graphic_of_mem_name (named ▸ List.mem_map_of_mem member)
      rw [← Letter.isBlank_lower, Blank.isBlank_of_graphic bounds.1 bounds.2]
    rw [split, Blank.trim_surrounded blankBefore blankAfter, Blank.trim_eq_self visible, named,
      String.ofList_toList]

/-- Texts that differ in the case of their letters name the same format. -/
theorem parse_congr {text other : String}
    (same : text.toList.map Letter.lower = other.toList.map Letter.lower) :
    parse text = parse other := by
  rw [parse_eq, parse_eq, ← trim_map_lower, ← trim_map_lower, same]

/-- A text that keeps a character beyond ASCII when it is trimmed names no format. -/
theorem parse_eq_none_of_mem {text : String} {c : Char} (member : c ∈ Blank.trim text.toList)
    (beyond : 128 ≤ c.toNat) : parse text = none := by
  rw [parse_eq, Option.eq_none_iff_forall_ne_some]
  intro format named
  have kept : c ∈ format.name.toList := by
    rw [ofName?_eq_some_iff.mp named, String.toList_ofList, ← Letter.lower_of_not_ascii beyond]
    exact List.mem_map_of_mem member
  have bounds := graphic_of_mem_name kept
  omega

/-- **A format is named by its name, apart from blanks around it and from the case of its letters,
and by nothing else.** -/
theorem parse_language :
    (∀ (text : String) (format : Format), parse text = some format ↔
      ∃ before word after : String, text = before ++ word ++ after ∧
        Blank.AllBlank before.toList ∧ Blank.AllBlank after.toList ∧
        word.length = format.name.length ∧
        word.toList.map Letter.lower = format.name.toList) ∧
    (∀ before text after : String, Blank.AllBlank before.toList → Blank.AllBlank after.toList →
      parse (before ++ text ++ after) = parse text) ∧
    (∀ text other : String, List.Forall₂ Letter.Same text.toList other.toList →
      parse text = parse other) ∧
    ∀ text : String, (∃ c ∈ Blank.trim text.toList, 128 ≤ c.toNat) → parse text = none := by
  refine ⟨?_, ?_, ?_, ?_⟩
  · intro text format
    rw [parse_eq_some_iff]
    constructor
    · rintro ⟨before, word, after, split, blankBefore, blankAfter, named⟩
      refine ⟨String.ofList before, String.ofList word, String.ofList after, ?_, ?_, ?_, ?_, ?_⟩
      · apply String.toList_inj.mp
        simpa using split
      · simpa using blankBefore
      · simpa using blankAfter
      · rw [String.length_ofList, ← String.length_toList, ← named, List.length_map]
      · simpa using named
    · rintro ⟨before, word, after, rfl, blankBefore, blankAfter, -, named⟩
      exact ⟨_, _, _, by simp, blankBefore, blankAfter, named⟩
  · intro before text after blankBefore blankAfter
    rw [parse, parse, String.toList_append, String.toList_append,
      Blank.trim_surrounded blankBefore blankAfter]
  · intro text other same
    apply parse_congr
    rw [← List.forall₂_eq_eq_eq, List.forall₂_map_left_iff, List.forall₂_map_right_iff]
    exact same.imp fun _ _ => Letter.Same.lower_eq
  · rintro text ⟨c, member, beyond⟩
    exact parse_eq_none_of_mem member beyond

/-- The Kelvin sign is no `k`, although full case folding maps it there. -/
example : parse "mar\u212Adown" = none := by decide

end Format

end Lexicon
