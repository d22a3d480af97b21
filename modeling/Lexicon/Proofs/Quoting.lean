import Lexicon.Text.Quoted

/-!
# Reading quoted text

Quoting is uniquely decodable: what stands for a character tells where it ends, so that the reader
takes the characters back one by one. And nothing in a quoted text is a control character, whatever
the text.

* `Quoted.decodeFrom_toDigits` — the digits of a number are read as that number;
* `Quoted.decodeFrom_escape` — what stands for a character is read as that character;
* `Quoted.decode?_encode` — the reader undoes quoting;
* `Quoted.mem_escape` — what stands for a character is made of marks, or is the character itself;
* `Quoted.not_isControl_of_mem_encode` — a quoted text is free of control characters.
-/

namespace Lexicon

/-- The control characters are U+0000..U+001F and U+007F..U+009F. -/
def Printable.IsControl (c : Char) : Prop :=
  c.toNat ≤ 0x1F ∨ 0x7F ≤ c.toNat ∧ c.toNat ≤ 0x9F

instance (c : Char) : Decidable (Printable.IsControl c) :=
  inferInstanceAs (Decidable (_ ∨ _))

theorem Printable.not_isControl_of_isPrintable {c : Char} (printable : isPrintable c = true) :
    ¬ IsControl c := by
  intro control
  unfold IsControl at control
  have excluded : isPrintable c = false := not_isPrintable_control (by omega)
  simp [excluded] at printable

namespace Quoted

/-! ### Code points -/

theorem digitChar_ne_brace {digit : Nat} (small : digit < 16) :
    digit.digitChar ≠ Char.ofNat 0x7D := by
  have all : ∀ d < 16, Nat.digitChar d ≠ Char.ofNat 0x7D := by decide
  exact all digit small

/-- The characters that escapes are made of. -/
def marks : List Char :=
  ['\\', 't', 'r', 'n', '"', 'u', Char.ofNat 0x7B, Char.ofNat 0x7D, '0', '1', '2', '3', '4', '5',
    '6', '7', '8', '9', 'a', 'b', 'c', 'd', 'e', 'f']

theorem digitChar_mem_marks {digit : Nat} (small : digit < 16) : digit.digitChar ∈ marks := by
  have all : ∀ d < 16, Nat.digitChar d ∈ marks := by decide
  exact all digit small

/-- One more digit is read behind a value so far. -/
theorem decodeFrom_digitChar {digit : Nat} (small : digit < 16) (value : Nat) (rest : List Char) :
    decodeFrom (.digits value) (digit.digitChar :: rest) =
      decodeFrom (.digits (value * 16 + digit)) rest := by
  rw [decodeFrom, if_neg (digitChar_ne_brace small), Hex.digit?_digitChar small, Option.bind_some]

/-- The digits of a number are read as that number. -/
theorem decodeFrom_toDigits (value : Nat) (rest : List Char) :
    decodeFrom (.digits 0) (Nat.toDigits 16 value ++ rest) = decodeFrom (.digits value) rest := by
  induction value using Nat.strongRecOn generalizing rest with
  | ind value ih =>
    by_cases small : value < 16
    · rw [Nat.toDigits_of_lt_base small, List.singleton_append, decodeFrom_digitChar small,
        Nat.zero_mul, Nat.zero_add]
    · -- The last digit is read behind the value of those before it.
      have last : value % 16 < 16 := Nat.mod_lt _ (by decide)
      rw [Nat.toDigits_of_base_le (by decide) (by omega), List.append_assoc,
        ih (value / 16) (by omega), List.singleton_append, decodeFrom_digitChar last,
        Nat.div_add_mod']

theorem mem_marks_of_mem_toDigits {c : Char} {value : Nat} (member : c ∈ Nat.toDigits 16 value) :
    c ∈ marks := by
  induction value using Nat.strongRecOn with
  | ind value ih =>
    by_cases small : value < 16
    · rw [Nat.toDigits_of_lt_base small, List.mem_singleton] at member
      exact member ▸ digitChar_mem_marks small
    · rw [Nat.toDigits_of_base_le (by decide) (by omega), List.mem_append,
        List.mem_singleton] at member
      rcases member with member | rfl
      · exact ih (value / 16) (by omega) member
      · exact digitChar_mem_marks (Nat.mod_lt _ (by decide))

/-! ### Characters -/

/-- `Short c mark`: the character is written as a backslash and a mark. -/
inductive Short : Char → Char → Prop where
  | tab : Short '\t' 't'
  | carriageReturn : Short '\r' 'r'
  | lineFeed : Short '\n' 'n'
  | null : Short '\x00' '0'
  | quotationMark : Short '"' '"'
  | backslash : Short '\\' '\\'

/-- What stands for a character: a short escape, its code point, or the character itself, if it is
printable and has no part in quoting. -/
theorem escape_cases (c : Char) :
    (∃ mark, Short c mark ∧ escape c = ['\\', mark]) ∨
      escape c = codePoint c ∨
      (escape c = [c] ∧ c ≠ '"' ∧ c ≠ '\\' ∧ Printable.isPrintable c = true) := by
  unfold escape
  by_cases tab : c = '\t'
  · exact .inl ⟨'t', tab ▸ .tab, if_pos tab⟩
  rw [if_neg tab]
  by_cases carriageReturn : c = '\r'
  · exact .inl ⟨'r', carriageReturn ▸ .carriageReturn, if_pos carriageReturn⟩
  rw [if_neg carriageReturn]
  by_cases lineFeed : c = '\n'
  · exact .inl ⟨'n', lineFeed ▸ .lineFeed, if_pos lineFeed⟩
  rw [if_neg lineFeed]
  by_cases null : c = '\x00'
  · exact .inl ⟨'0', null ▸ .null, if_pos null⟩
  rw [if_neg null]
  by_cases quotationMark : c = '"'
  · exact .inl ⟨'"', quotationMark ▸ .quotationMark, if_pos quotationMark⟩
  rw [if_neg quotationMark]
  by_cases backslash : c = '\\'
  · exact .inl ⟨'\\', backslash ▸ .backslash, if_pos backslash⟩
  rw [if_neg backslash]
  refine .inr ?_
  by_cases hidden : (Combining.isCombining c || !Printable.isPrintable c) = true
  · exact .inl (if_pos hidden)
  · refine .inr ⟨if_neg hidden, quotationMark, backslash, ?_⟩
    simp only [Bool.not_eq_true, Bool.or_eq_false_iff, Bool.not_eq_false'] at hidden
    exact hidden.2

theorem decodeFrom_short {c mark : Char} (short : Short c mark) (rest : List Char) :
    decodeFrom .plain ('\\' :: mark :: rest) = (decodeFrom .plain rest).map (c :: ·) := by
  cases short <;> simp [decodeFrom]

theorem decodeFrom_codePoint (c : Char) (rest : List Char) :
    decodeFrom .plain (codePoint c ++ rest) = (decodeFrom .plain rest).map (c :: ·) := by
  calc decodeFrom .plain (codePoint c ++ rest)
      = decodeFrom (.digits 0) (Nat.toDigits 16 c.toNat ++ Char.ofNat 0x7D :: rest) := by
        simp [codePoint, hex, decodeFrom]
    _ = decodeFrom (.digits c.toNat) (Char.ofNat 0x7D :: rest) := decodeFrom_toDigits _ _
    _ = (decodeFrom .plain rest).map (c :: ·) := by simp [decodeFrom]

/-- What stands for a character is read as that character, whatever follows. -/
theorem decodeFrom_escape (c : Char) (rest : List Char) :
    decodeFrom .plain (escape c ++ rest) = (decodeFrom .plain rest).map (c :: ·) := by
  rcases escape_cases c with ⟨mark, short, shown⟩ | shown | ⟨shown, notMark, notBackslash, -⟩
  · rw [shown]
    exact decodeFrom_short short rest
  · rw [shown]
    exact decodeFrom_codePoint c rest
  · rw [shown, List.singleton_append, decodeFrom, if_neg notBackslash, if_neg notMark]
    exact fun mark _ => notMark mark

theorem decodeFrom_flatMap_escape (chars : List Char) :
    decodeFrom .plain (chars.flatMap escape ++ ['"']) = some chars := by
  induction chars with
  | nil => rfl
  | cons c chars ih =>
    rw [List.flatMap_cons, List.append_assoc, decodeFrom_escape, ih, Option.map_some]

/-- **The reader undoes quoting.** -/
theorem decode?_encode (text : String) : decode? (encode text) = some text := by
  rw [decode?, encode, String.toList_ofList]
  simp only [List.cons_append, decodeFrom_flatMap_escape, Option.map_some, String.ofList_toList]

/-! ### What a quoted text holds -/

/-- What stands for a character is made of marks, or is the character itself. -/
theorem mem_escape {c d : Char} (member : d ∈ escape c) :
    d ∈ marks ∨ d = c ∧ Printable.isPrintable c = true := by
  rcases escape_cases c with ⟨mark, short, shown⟩ | shown | ⟨shown, -, -, printable⟩
  · left
    rw [shown] at member
    rcases List.mem_cons.mp member with rfl | member
    · decide
    · rw [List.mem_singleton.mp member]
      cases short <;> decide
  · left
    rw [shown, codePoint, List.mem_append, List.mem_append] at member
    rcases member with (opening | digit) | closing
    · simp only [List.mem_cons, List.not_mem_nil, or_false] at opening
      rcases opening with rfl | rfl | rfl <;> decide
    · exact mem_marks_of_mem_toDigits digit
    · rw [List.mem_singleton.mp closing]
      decide
  · right
    rw [shown, List.mem_singleton] at member
    exact ⟨member, printable⟩

theorem not_isControl_of_mem_escape {c d : Char} (member : d ∈ escape c) :
    ¬ Printable.IsControl d := by
  rcases mem_escape member with mark | ⟨rfl, printable⟩
  · have all : marks.all fun d => ¬ Printable.IsControl d := by decide
    simpa using List.all_eq_true.mp all d mark
  · exact Printable.not_isControl_of_isPrintable printable

/-- A quoted text holds no control character. -/
theorem not_isControl_of_mem_encode {text : String} {c : Char} (member : c ∈ (encode text).toList) :
    ¬ Printable.IsControl c := by
  rw [encode, String.toList_ofList, List.mem_append, List.mem_cons, List.mem_singleton,
    List.mem_flatMap] at member
  rcases member with (rfl | ⟨d, -, member⟩) | rfl
  · decide
  · exact not_isControl_of_mem_escape member
  · decide

end Quoted

end Lexicon
