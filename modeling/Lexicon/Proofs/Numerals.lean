import Lexicon.Proofs.Checks
import Lexicon.Text.Decimal

/-!
# Numerals

What a decimal number is, said without the reader: a sign or none, and then digits. The reader works
from the left and gives up as soon as the number leaves the 64-bit range; since digits only lead
away from zero, it gives up on no numeral of a number inside that range.

* `Decimal.Denotes` — a text is a numeral of a number;
* `Decimal.readWord_eq_ok_iff` — the reader of words accepts exactly the numerals of words;
* `Decimal.readInt32_eq_ok_iff` — the reader of 32-bit numbers accepts exactly their numerals;
* `Decimal.toList_toString`, `Decimal.denotes_toString` — the printed form of a number, which is a
  numeral of it.
-/

namespace Lexicon.Decimal

/-- Some characters are digits, and there is one. -/
def IsDigits (text : List Char) : Prop :=
  text ≠ [] ∧ ∀ c ∈ text, c.isDigit = true

/-- `Denotes text value`: the text is an optional single sign and then digits, and this is the
number they stand for. -/
inductive Denotes : List Char → Int → Prop where
  | unsigned {digits : List Char} (h : IsDigits digits) :
      Denotes digits (Nat.ofDigitChars 10 digits 0)
  | plus {digits : List Char} (h : IsDigits digits) :
      Denotes ('+' :: digits) (Nat.ofDigitChars 10 digits 0)
  | minus {digits : List Char} (h : IsDigits digits) :
      Denotes ('-' :: digits) (-(Nat.ofDigitChars 10 digits 0 : Nat))

/-- A number lies within 64 bits. -/
def IsWord (value : Int) : Prop :=
  -wordBound ≤ value ∧ value < wordBound

/-- A numeral holds digits and signs only. -/
theorem Denotes.of_mem {text : List Char} {value : Int} (numeral : Denotes text value) {c : Char}
    (member : c ∈ text) : c.isDigit = true ∨ c = '+' ∨ c = '-' := by
  cases numeral with
  | unsigned h => exact .inl (h.2 c member)
  | plus h =>
    rcases List.mem_cons.mp member with rfl | member
    · exact .inr (.inl rfl)
    · exact .inl (h.2 c member)
  | minus h =>
    rcases List.mem_cons.mp member with rfl | member
    · exact .inr (.inr rfl)
    · exact .inl (h.2 c member)

/-! ### Reading digits -/

/-- A magnitude on one side of zero. -/
def Sign.apply (sign : Sign) (magnitude : Nat) : Int :=
  match sign with
  | .plus => magnitude
  | .minus => -magnitude

theorem Sign.push_apply (sign : Sign) (magnitude digit : Nat) :
    sign.push (sign.apply magnitude) digit = sign.apply (10 * magnitude + digit) := by
  cases sign <;> simp only [push, apply] <;> omega

/-- Between zero and a word there are words only. -/
theorem IsWord.of_le {sign : Sign} {a b : Nat} (le : a ≤ b) (h : IsWord (sign.apply b)) :
    IsWord (sign.apply a) := by
  cases sign <;> simp only [IsWord, Sign.apply, wordBound] at h ⊢ <;> omega

theorem le_ofDigitChars (digits : List Char) (value : Nat) :
    value ≤ Nat.ofDigitChars 10 digits value := by
  rw [Nat.ofDigitChars_eq_ofDigitChars_zero]
  have := Nat.le_mul_of_pos_left value (Nat.pow_pos (n := digits.length) (show 0 < 10 by omega))
  omega

theorem readDigit_eq_ok_iff {sign : Sign} {value next : Int} {c : Char} :
    readDigit sign value c = .ok next ↔
      c.isDigit = true ∧ sign.push value (c.toNat - '0'.toNat) = next ∧ IsWord next := by
  unfold readDigit
  split
  · rename_i digit
    simp only [digit, true_and]
    generalize sign.push value (c.toNat - '0'.toNat) = pushed
    split
    · constructor
      · intro h
        cases h
      · rintro ⟨rfl, -, below⟩
        omega
    split
    · constructor
      · intro h
        cases h
      · rintro ⟨rfl, above, -⟩
        omega
    · constructor
      · rintro ⟨⟩
        exact ⟨rfl, by omega, by omega⟩
      · rintro ⟨rfl, -⟩
        rfl
  · rename_i other
    simp [other]

/-- Digits are read to the end exactly if they are digits and the number they lead to is a word:
the numbers on the way are words too. -/
theorem foldlM_readDigit_eq_ok_iff {sign : Sign} {magnitude : Nat}
    (start : IsWord (sign.apply magnitude)) (digits : List Char) (value : Int) :
    digits.foldlM (readDigit sign) (sign.apply magnitude) = .ok value ↔
      (∀ c ∈ digits, c.isDigit = true) ∧
        sign.apply (Nat.ofDigitChars 10 digits magnitude) = value ∧ IsWord value := by
  induction digits generalizing magnitude with
  | nil =>
    simp only [List.foldlM_nil, List.not_mem_nil, false_imp_iff, implies_true, true_and,
      Nat.ofDigitChars_nil]
    constructor
    · rintro ⟨⟩
      exact ⟨rfl, start⟩
    · rintro ⟨rfl, -⟩
      rfl
  | cons c digits ih =>
    simp only [List.foldlM_cons, Check.bind_eq_ok_iff, readDigit_eq_ok_iff, Sign.push_apply,
      List.forall_mem_cons, Nat.ofDigitChars_cons]
    constructor
    · rintro ⟨_, ⟨digit, rfl, next⟩, rest⟩
      obtain ⟨others, same, word⟩ := (ih next).mp rest
      exact ⟨⟨digit, others⟩, same, word⟩
    · rintro ⟨⟨digit, others⟩, rfl, word⟩
      have next := word.of_le (le_ofDigitChars digits _)
      exact ⟨_, ⟨digit, rfl, next⟩, (ih next).mpr ⟨others, rfl, word⟩⟩

theorem isWord_zero (sign : Sign) : IsWord (sign.apply 0) := by
  cases sign <;> simp [IsWord, Sign.apply, wordBound]

theorem readDigits_eq_ok_iff {sign : Sign} {digits : List Char} {value : Int} :
    readDigits sign digits = .ok value ↔
      IsDigits digits ∧ sign.apply (Nat.ofDigitChars 10 digits 0) = value ∧ IsWord value := by
  have zero : sign.apply 0 = 0 := by cases sign <;> rfl
  have read := foldlM_readDigit_eq_ok_iff (isWord_zero sign) digits value
  rw [zero] at read
  unfold readDigits IsDigits
  split
  · rename_i empty
    simp [empty]
  · rename_i nonempty
    rw [read, and_iff_right nonempty]

/-! ### Reading numerals -/

theorem not_isDigits_sign {c : Char} {digits : List Char} (sign : c.isDigit = false) :
    ¬ IsDigits (c :: digits) := by
  rintro ⟨-, all⟩
  simp [all c List.mem_cons_self] at sign

/-- The reader of words accepts exactly the numerals of words. -/
theorem readWord_eq_ok_iff {text : List Char} {value : Int} :
    readWord text = .ok value ↔ Denotes text value ∧ IsWord value := by
  cases text with
  | nil =>
    simp only [readWord, reduceCtorEq, false_iff, not_and]
    rintro (⟨⟨empty, -⟩⟩)
    exact absurd rfl empty
  | cons c digits =>
    rw [readWord]
    split
    · subst c
      rw [readDigits_eq_ok_iff]
      constructor
      · rintro ⟨all, rfl, word⟩
        exact ⟨.minus all, word⟩
      · rintro ⟨⟨all⟩ | _ | ⟨all⟩, word⟩
        · exact absurd all (not_isDigits_sign rfl)
        · exact ⟨all, rfl, word⟩
    split
    · subst c
      rw [readDigits_eq_ok_iff]
      constructor
      · rintro ⟨all, rfl, word⟩
        exact ⟨.plus all, word⟩
      · rintro ⟨⟨all⟩ | ⟨all⟩ | _, word⟩
        · exact absurd all (not_isDigits_sign rfl)
        · exact ⟨all, rfl, word⟩
    · rename_i notMinus notPlus
      rw [readDigits_eq_ok_iff]
      constructor
      · rintro ⟨all, rfl, word⟩
        exact ⟨.unsigned all, word⟩
      · rintro ⟨numeral, word⟩
        cases numeral with
        | unsigned all => exact ⟨all, rfl, word⟩
        | plus all => exact absurd rfl notPlus
        | minus all => exact absurd rfl notMinus

/-- The reader of 32-bit numbers accepts exactly their numerals. -/
theorem readInt32_eq_ok_iff {text : String} {value : Int32} :
    readInt32 text = .ok value ↔ Denotes text.toList value.toInt := by
  have low := value.le_toInt
  have high := value.toInt_lt
  unfold readInt32
  rw [Check.bind_eq_ok_iff]
  constructor
  · rintro ⟨number, read, fits⟩
    rw [readWord_eq_ok_iff] at read
    split at fits
    · rename_i bounds
      obtain rfl := Except.ok.inj fits
      simp only [int32Bound] at bounds
      rw [Int32.toInt_ofInt_of_le (by omega) (by omega)]
      exact read.1
    · cases fits
  · intro numeral
    refine ⟨value.toInt, readWord_eq_ok_iff.mpr ⟨numeral, ?_⟩, ?_⟩
    · simp only [IsWord, wordBound]
      omega
    · rw [if_pos (by simp only [int32Bound]; omega), Int32.ofInt_toInt]

/-! ### Printing numerals -/

theorem isDigits_toDigits (n : Nat) : IsDigits (Nat.toDigits 10 n) :=
  ⟨Nat.toDigits_ne_nil, fun _ h => Nat.isDigit_of_mem_toDigits (by decide) (by decide) h⟩

/-- A number is printed as its magnitude, behind a minus sign if it lies below zero. -/
theorem toList_toString (value : Int) :
    (toString value).toList =
      (if value < 0 then ['-'] else []) ++ Nat.toDigits 10 value.natAbs := by
  rw [← Nat.toList_repr]
  cases value with
  | ofNat n =>
    have above : ¬ Int.ofNat n < 0 := Int.not_lt.mpr (Int.natCast_nonneg n)
    rw [if_neg above]
    rfl
  | negSucc n =>
    rw [if_pos (Int.negSucc_lt_zero n)]
    exact String.toList_append

/-- The printed form of a number is a numeral of it. -/
theorem denotes_toString (value : Int) : Denotes (toString value).toList value := by
  have digits := isDigits_toDigits value.natAbs
  rw [toList_toString]
  split
  · rename_i below
    have numeral := Denotes.minus digits
    rw [Nat.ofDigitChars_ten_toDigits, Int.ofNat_natAbs_of_nonpos (by omega),
      Int.neg_neg] at numeral
    exact numeral
  · rename_i above
    have numeral := Denotes.unsigned digits
    rw [Nat.ofDigitChars_ten_toDigits, Int.natAbs_of_nonneg (by omega)] at numeral
    exact numeral

/-- Neither a digit nor a sign, so not in the printed form of a number. -/
theorem not_mem_toString {c : Char} (other : c.isDigit = false ∧ c ≠ '+' ∧ c ≠ '-')
    (value : Int) : c ∉ (toString value).toList := by
  intro member
  rcases (denotes_toString value).of_mem member with digit | plus | minus
  · simp [digit] at other
  · exact other.2.1 plus
  · exact other.2.2 minus

/-- Reading what was printed gives the number back. -/
theorem readInt32_toString (value : Int32) : readInt32 (toString value.toInt) = .ok value :=
  readInt32_eq_ok_iff.mpr (denotes_toString value.toInt)

end Lexicon.Decimal
