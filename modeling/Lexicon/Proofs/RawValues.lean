import Lexicon.Proofs.Numerals
import Lexicon.Proofs.Vocabulary
import Lexicon.Text.Utf8
import Mathlib.Algebra.Group.Nat.Defs

/-!
# Raw values and their diagnostic names

A raw value is read in two ways, as a kind that may be missing and as a kind or a failure, and it is
shown in three: by the name of the kind, by the text of the failure and by the total renderer. All
of them agree on every 32-bit number, and what is shown is a short text of printable ASCII.

* `Decimal.length_toString_le_iff` — how many characters the printed form of a number takes;
* `Kind.ofRaw_eq_ok_iff`, `Kind.ofRaw_eq_error_iff` — the two outcomes of reading a raw value;
* `Kind.graphic_nameOf` — a diagnostic name is printable ASCII;
* `Kind.length_nameOf_le_iff` — how many characters a diagnostic name takes;
* `Kind.raw_views_agree` — all of it in one statement, with the exact bound of 26 bytes.
-/

namespace Lexicon

/-! ### Printable ASCII -/

/-- Some text consists of printable characters of ASCII, of which the space is one. -/
def Graphic (text : List Char) : Prop :=
  ∀ c ∈ text, 0x20 ≤ c.toNat ∧ c.toNat ≤ 0x7E

theorem Graphic.append {a b : List Char} (left : Graphic a) (right : Graphic b) :
    Graphic (a ++ b) := by
  intro c member
  rcases List.mem_append.mp member with member | member
  · exact left c member
  · exact right c member

/-- A character of ASCII is one byte. -/
theorem Graphic.size_eq {text : List Char} (graphic : Graphic text) :
    Utf8.size text = text.length := by
  induction text with
  | nil => rfl
  | cons c text ih =>
    obtain ⟨first, others⟩ := List.forall_mem_cons.mp graphic
    have single : c.utf8Size = 1 := by
      rw [Char.utf8Size_eq_one_iff, UInt32.le_iff_toNat_le]
      exact Nat.le_trans first.2 (Nat.le_succ 0x7E)
    rw [Utf8.size, single, ih others, List.length_cons, Nat.add_comm]

namespace Decimal

theorem graphic_toString (value : Int) : Graphic (toString value).toList := by
  intro c member
  rcases (denotes_toString value).of_mem member with digit | rfl | rfl
  · have bounds : 48 ≤ c.toNat ∧ c.toNat ≤ 57 := Char.isDigit_iff_toNat.mp digit
    omega
  · decide
  · decide

/-- The sign takes one character away from the numbers below zero. -/
theorem length_toString_le_iff {places : Nat} (positive : 0 < places) (value : Int) :
    (toString value).length ≤ places + 1 ↔
      -(10 ^ places : Nat) < value ∧ value < (10 ^ (places + 1) : Nat) := by
  have wider : 10 ^ places ≤ 10 ^ (places + 1) := Nat.pow_le_pow_right (by omega) (by omega)
  rw [← String.length_toList, toList_toString, List.length_append]
  split
  · rename_i below
    have digits : (Nat.toDigits 10 value.natAbs).length ≤ places ↔ _ :=
      Nat.length_toDigits_le_iff (by omega) positive
    rw [List.length_singleton, Nat.add_comm, Nat.add_le_add_iff_right, digits]
    omega
  · rename_i above
    have digits : (Nat.toDigits 10 value.natAbs).length ≤ places + 1 ↔ _ :=
      Nat.length_toDigits_le_iff (by omega) (Nat.succ_pos places)
    rw [List.length_nil, Nat.zero_add, digits]
    omega

end Decimal

namespace Kind

/-! ### Reading a raw value -/

theorem ofRaw_eq_ok_iff {raw : Int32} {kind : Kind} :
    ofRaw raw = .ok kind ↔ kind.ordinal = raw := by
  rw [← ofOrdinal?_eq_some_iff]
  unfold ofRaw
  cases ofOrdinal? raw with
  | none => exact iff_of_false nofun nofun
  | some found =>
    constructor
    · rintro ⟨⟩
      rfl
    · rintro ⟨⟩
      rfl

/-- A number that is no kind's ordinal fails, and the failure tells the number. -/
theorem ofRaw_eq_error_iff {raw : Int32} {unnamed : Unnamed} :
    ofRaw raw = .error unnamed ↔ (∀ kind : Kind, kind.ordinal ≠ raw) ∧ unnamed = ⟨raw⟩ := by
  constructor
  · intro failed
    refine ⟨?_, ?_⟩
    · intro kind own
      rw [ofRaw_eq_ok_iff.mpr own] at failed
      cases failed
    · unfold ofRaw at failed
      split at failed
      · cases failed
      · exact (Except.error.inj failed).symm
  · rintro ⟨other, rfl⟩
    have unread : ofOrdinal? raw = none := by
      rw [Option.eq_none_iff_forall_ne_some]
      intro kind found
      exact other kind (ofOrdinal?_eq_some_iff.mp found)
    rw [ofRaw, unread]

/-! ### Diagnostic names -/

/-- A diagnostic name is the name of a kind or a fallback text. -/
theorem nameOf_cases (raw : Int32) :
    (∃ kind : Kind, kind.ordinal = raw ∧ nameOf raw = kind.name) ∨
      nameOf raw = Unnamed.message ⟨raw⟩ := by
  cases found : ofOrdinal? raw with
  | none =>
    right
    rw [nameOf, found]
  | some kind =>
    left
    obtain rfl := ofOrdinal?_eq_some_iff.mp found
    exact ⟨kind, rfl, nameOf_ordinal kind⟩

theorem graphic_nameOf (raw : Int32) : Graphic (nameOf raw).toList := by
  rcases nameOf_cases raw with ⟨kind, -, shown⟩ | shown
  · rw [shown]
    intro c member
    have bounds : 65 ≤ c.toNat ∧ c.toNat ≤ 90 := capital_of_mem_name member
    omega
  · have lead : Graphic fallbackLead.toList := by simp [Graphic, fallbackLead]
    rw [shown, Unnamed.message, String.toList_append]
    exact lead.append (Decimal.graphic_toString raw.toInt)

theorem length_name (kind : Kind) : 0 < kind.name.length ∧ kind.name.length ≤ 10 := by
  cases kind <;> decide

/-- The lead of the fallback text takes 15 characters. -/
theorem length_message (raw : Int32) :
    (Unnamed.message ⟨raw⟩).length = 15 + (toString raw.toInt).length := by
  rw [Unnamed.message, String.length_append]
  rfl

theorem length_nameOf_pos (raw : Int32) : 0 < (nameOf raw).length := by
  rcases nameOf_cases raw with ⟨kind, -, shown⟩ | shown
  · rw [shown]
    exact (length_name kind).1
  · rw [shown, length_message]
    omega

/-- How many characters a diagnostic name takes, if it takes more than any canonical name does. -/
theorem length_nameOf_le_iff (places : Nat) (wide : 2 ≤ places) (raw : Int32) :
    (nameOf raw).length ≤ 16 + places ↔
      -(10 ^ places : Nat) < raw.toInt ∧ raw.toInt < (10 ^ (places + 1) : Nat) := by
  rcases nameOf_cases raw with ⟨kind, rfl, shown⟩ | shown
  · have short := (length_name kind).2
    have low : 0 ≤ kind.ordinal.toInt := Int32.le_iff_toInt_le.mp (ordinal_bounds kind).1
    have high : kind.ordinal.toInt ≤ 18 := Int32.le_iff_toInt_le.mp (ordinal_bounds kind).2
    have hundred : 10 ^ 2 ≤ 10 ^ places := Nat.pow_le_pow_right (by omega) wide
    have wider : 10 ^ places ≤ 10 ^ (places + 1) := Nat.pow_le_pow_right (by omega) (by omega)
    rw [shown]
    omega
  · rw [shown, length_message, ← Decimal.length_toString_le_iff (by omega)]
    omega

/-- **All views of a raw value agree.** The two ways of reading it accept the ordinals, which are
the numbers from zero to eighteen, and nothing else. The failure tells the value, and the diagnostic
name is the name of the kind that was read or the text of the failure. It is never empty, it is
printable ASCII, and it takes at most 26 bytes; just the numbers of ten digits below zero take that
many. -/
theorem raw_views_agree (raw : Int32) :
    (∀ kind : Kind, ofOrdinal? raw = some kind ↔ kind.ordinal = raw) ∧
    (ofOrdinal? raw = none ↔ raw < 0 ∨ 18 < raw) ∧
    (∀ kind : Kind, ofRaw raw = .ok kind ↔ kind.ordinal = raw) ∧
    (∀ unnamed : Unnamed, ofRaw raw = .error unnamed ↔
      (∀ kind : Kind, kind.ordinal ≠ raw) ∧ unnamed = ⟨raw⟩) ∧
    (match ofRaw raw with
      | .ok kind => kind.name = nameOf raw
      | .error unnamed => unnamed.message = nameOf raw) ∧
    nameOf raw ≠ "" ∧
    (∀ c ∈ (nameOf raw).toList, 0x20 ≤ c.toNat ∧ c.toNat ≤ 0x7E) ∧
    (Utf8.encode (nameOf raw)).length ≤ 26 ∧
    ((Utf8.encode (nameOf raw)).length = 26 ↔ raw.toInt ≤ -1000000000) := by
  have low := raw.le_toInt
  have high := raw.toInt_lt
  have graphic := graphic_nameOf raw
  have bytes : (Utf8.encode (nameOf raw)).length = (nameOf raw).length := by
    rw [Utf8.length_encode, graphic.size_eq, String.length_toList]
  have within := length_nameOf_le_iff 10 (by omega) raw
  have shorter := length_nameOf_le_iff 9 (by omega) raw
  refine ⟨fun kind => ofOrdinal?_eq_some_iff, ofOrdinal?_eq_none_iff, fun kind => ofRaw_eq_ok_iff,
    fun unnamed => ofRaw_eq_error_iff, ?_, ?_, graphic, ?_, ?_⟩
  · have shown := nameOf_eq raw
    split
    · rename_i kind read
      rw [shown, read]
    · rename_i unnamed read
      rw [shown, read]
  · intro empty
    have pos := length_nameOf_pos raw
    rw [empty] at pos
    exact absurd pos (Nat.lt_irrefl 0)
  · rw [bytes, within]
    omega
  · rw [bytes]
    omega

end Kind

end Lexicon
