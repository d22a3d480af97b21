import Lexicon.Text.Utf8

/-!
# Exact decoding

`Utf8.decode_encode` says that decoding undoes encoding. The other direction is about arbitrary
bytes: whatever is read without a gap is the encoding of the text that was read, so a well-formed
byte string has one reading and a text has one well-formed byte string.

* `Utf8.Lead`, `Utf8.start_cases` — what a byte can begin;
* `Utf8.resume_cases` — what a byte can do to a character that has begun;
* `Utf8.eq_encode_of_decodeFrom` — a character that was read stands there in its own bytes;
* `Utf8.decode?_eq_some_iff` — the text read from bytes is the text whose encoding they are.
-/

namespace Lexicon.Utf8

/-! ### What a byte can begin -/

/-- `Lead byte begun`: the byte begins a character of two, three or four bytes. The bounds on the
second byte are as narrow as they must be to keep out overlong forms, surrogates and values beyond
U+10FFFF. -/
inductive Lead (byte : Nat) : Begun → Prop where
  | two : 0xC2 ≤ byte → byte < 0xE0 → Lead byte { value := byte - 0xC0, due := 1 }
  | three {low high : Nat} : 0xE0 ≤ byte → byte < 0xF0 → 0x80 ≤ low → high ≤ 0xBF →
      (byte = 0xE0 → 0xA0 ≤ low) → (byte = 0xED → high ≤ 0x9F) →
      Lead byte { value := byte - 0xE0, due := 2, low, high }
  | four {low high : Nat} : 0xF0 ≤ byte → byte ≤ 0xF4 → 0x80 ≤ low → high ≤ 0xBF →
      (byte = 0xF0 → 0x90 ≤ low) → (byte = 0xF4 → high ≤ 0x8F) →
      Lead byte { value := byte - 0xF0, due := 3, low, high }

/-- A byte is a character, a gap, or the first byte of a longer character. -/
theorem start_cases (byte : Nat) :
    (byte < 0x80 ∧ start byte = ([some (Char.ofNat byte)], none)) ∨
      start byte = ([none], none) ∨
      ∃ begun, start byte = ([], some begun) ∧ Lead byte begun := by
  unfold start
  by_cases ascii : byte < 0x80
  · exact .inl ⟨ascii, if_pos ascii⟩
  rw [if_neg ascii]
  by_cases stray : byte < 0xC2
  · exact .inr (.inl (if_pos stray))
  rw [if_neg stray]
  refine .inr ?_
  by_cases two : byte < 0xE0
  · exact .inr ⟨_, if_pos two, by apply Lead.two <;> omega⟩
  rw [if_neg two]
  by_cases overlong : byte = 0xE0
  · exact .inr ⟨_, if_pos overlong, by subst byte; apply Lead.three <;> omega⟩
  rw [if_neg overlong]
  by_cases surrogate : byte = 0xED
  · exact .inr ⟨_, if_pos surrogate, by subst byte; apply Lead.three <;> omega⟩
  rw [if_neg surrogate]
  by_cases three : byte < 0xF0
  · exact .inr ⟨_, if_pos three, by apply Lead.three <;> omega⟩
  rw [if_neg three]
  by_cases overlong : byte = 0xF0
  · exact .inr ⟨_, if_pos overlong, by subst byte; apply Lead.four <;> omega⟩
  rw [if_neg overlong]
  by_cases four : byte < 0xF4
  · exact .inr ⟨_, if_pos four, by apply Lead.four <;> omega⟩
  rw [if_neg four]
  by_cases beyond : byte = 0xF4
  · exact .inr ⟨_, if_pos beyond, by subst byte; apply Lead.four <;> omega⟩
  · exact .inl (if_neg beyond)

/-! ### What follows a first byte -/

/-- If a character that has begun is completed, then by a byte within its bounds, which is its last
or leaves one byte less to come. -/
theorem resume_cases {begun : Begun} {bytes : Bytes} {c : Char} {items : List (Option Char)}
    (read : decodeFrom (some begun) bytes = some c :: items) :
    ∃ byte rest, bytes = byte :: rest ∧ begun.low ≤ byte.toNat ∧ byte.toNat ≤ begun.high ∧
      if begun.due ≤ 1 then
        Char.ofNat (begun.value * 64 + (byte.toNat - 0x80)) = c ∧ decodeFrom none rest = items
      else
        decodeFrom (some { value := begun.value * 64 + (byte.toNat - 0x80), due := begun.due - 1 })
          rest = some c :: items := by
  cases bytes with
  | nil => simp [decodeFrom] at read
  | cons byte rest =>
    refine ⟨byte, rest, rfl, ?_⟩
    simp only [decodeFrom, step, resume] at read
    split at read
    · rename_i bounds
      refine ⟨bounds.1, bounds.2, ?_⟩
      split at read <;> rename_i due
      · simpa [due] using read
      · simpa [due] using read
    · simp at read

/-! ### The bytes of a character -/

theorem toNat_val_ofNat {v : Nat} (valid : v.isValidChar) : (Char.ofNat v).val.toNat = v := by
  rw [Char.ofNat, dif_pos valid]
  rfl

theorem ofNat_eq_of_toNat (byte : UInt8) {n : Nat} (h : n = byte.toNat) : UInt8.ofNat n = byte := by
  rw [h, UInt8.ofNat_toNat]

theorem utf8EncodeChar_two {a b : UInt8} (ha : 0xC2 ≤ a.toNat) (ha' : a.toNat < 0xE0)
    (hb : 0x80 ≤ b.toNat) (hb' : b.toNat ≤ 0xBF) :
    String.utf8EncodeChar (Char.ofNat ((a.toNat - 0xC0) * 64 + (b.toNat - 0x80))) = [a, b] := by
  generalize hv : (a.toNat - 0xC0) * 64 + (b.toNat - 0x80) = v
  have valid : v.isValidChar := .inl (by omega)
  simp only [String.utf8EncodeChar, toNat_val_ofNat valid]
  rw [if_neg (by omega), if_pos (by omega), ofNat_eq_of_toNat a (by omega),
    ofNat_eq_of_toNat b (by omega)]

theorem utf8EncodeChar_three {a b c : UInt8} (ha : 0xE0 ≤ a.toNat) (ha' : a.toNat < 0xF0)
    (hb : 0x80 ≤ b.toNat) (hb' : b.toNat ≤ 0xBF) (hc : 0x80 ≤ c.toNat) (hc' : c.toNat ≤ 0xBF)
    (overlong : a.toNat = 0xE0 → 0xA0 ≤ b.toNat) (surrogate : a.toNat = 0xED → b.toNat ≤ 0x9F) :
    String.utf8EncodeChar (Char.ofNat
      (((a.toNat - 0xE0) * 64 + (b.toNat - 0x80)) * 64 + (c.toNat - 0x80))) = [a, b, c] := by
  generalize hv : ((a.toNat - 0xE0) * 64 + (b.toNat - 0x80)) * 64 + (c.toNat - 0x80) = v
  have valid : v.isValidChar := by simp only [Nat.isValidChar]; omega
  simp only [String.utf8EncodeChar, toNat_val_ofNat valid]
  rw [if_neg (by omega), if_neg (by omega), if_pos (by omega),
    ofNat_eq_of_toNat a (by omega), ofNat_eq_of_toNat b (by omega),
    ofNat_eq_of_toNat c (by omega)]

theorem utf8EncodeChar_four {a b c d : UInt8} (ha : 0xF0 ≤ a.toNat) (ha' : a.toNat ≤ 0xF4)
    (hb : 0x80 ≤ b.toNat) (hb' : b.toNat ≤ 0xBF) (hc : 0x80 ≤ c.toNat) (hc' : c.toNat ≤ 0xBF)
    (hd : 0x80 ≤ d.toNat) (hd' : d.toNat ≤ 0xBF) (overlong : a.toNat = 0xF0 → 0x90 ≤ b.toNat)
    (beyond : a.toNat = 0xF4 → b.toNat ≤ 0x8F) :
    String.utf8EncodeChar (Char.ofNat
      ((((a.toNat - 0xF0) * 64 + (b.toNat - 0x80)) * 64 + (c.toNat - 0x80)) * 64
        + (d.toNat - 0x80))) = [a, b, c, d] := by
  generalize hv : (((a.toNat - 0xF0) * 64 + (b.toNat - 0x80)) * 64 + (c.toNat - 0x80)) * 64
    + (d.toNat - 0x80) = v
  have valid : v.isValidChar := by simp only [Nat.isValidChar]; omega
  simp only [String.utf8EncodeChar, toNat_val_ofNat valid]
  rw [if_neg (by omega), if_neg (by omega), if_neg (by omega),
    ofNat_eq_of_toNat a (by omega), ofNat_eq_of_toNat b (by omega),
    ofNat_eq_of_toNat c (by omega), ofNat_eq_of_toNat d (by omega)]

/-- An ASCII character is one byte. -/
theorem encode_cons_of_ascii {c : Char} (ascii : c.toNat < 128) (chars : List Char) :
    encode (String.ofList (c :: chars)) = UInt8.ofNat c.toNat :: encode (String.ofList chars) := by
  have single : String.utf8EncodeChar c = [UInt8.ofNat c.toNat] := by
    have bound : c.val.toNat < 128 := ascii
    simp only [String.utf8EncodeChar]
    rw [if_pos (by omega)]
    rfl
  simp [encode, single]

/-! ### Encoding undoes decoding -/

/-- A character read after a first byte stands there in its own bytes. -/
theorem eq_encode_of_lead {a : UInt8} {begun : Begun} (lead : Lead a.toNat begun) {bytes : Bytes}
    {c : Char} {items : List (Option Char)}
    (read : decodeFrom (some begun) bytes = some c :: items) :
    ∃ rest, a :: bytes = String.utf8EncodeChar c ++ rest ∧ decodeFrom none rest = items := by
  obtain ⟨b, rest, rfl, low, high, read⟩ := resume_cases read
  cases lead with
  | two ha ha' =>
    obtain ⟨rfl, rfl⟩ := read
    exact ⟨rest, by rw [utf8EncodeChar_two ha ha' low high]; rfl, rfl⟩
  | three ha ha' hlow hhigh overlong surrogate =>
    obtain ⟨c, rest, rfl, hc, hc', rfl, rfl⟩ := resume_cases read
    dsimp only at low high
    have bytes := utf8EncodeChar_three (b := b) ha ha' (by omega) (by omega) hc hc'
      (fun h => Nat.le_trans (overlong h) low) (fun h => Nat.le_trans high (surrogate h))
    exact ⟨rest, by rw [bytes]; rfl, rfl⟩
  | four ha ha' hlow hhigh overlong beyond =>
    obtain ⟨c, rest, rfl, hc, hc', read⟩ := resume_cases read
    obtain ⟨d, rest, rfl, hd, hd', rfl, rfl⟩ := resume_cases read
    dsimp only at low high
    have bytes := utf8EncodeChar_four (b := b) ha ha' (by omega) (by omega) hc hc' hd hd'
      (fun h => Nat.le_trans (overlong h) low) (fun h => Nat.le_trans high (beyond h))
    exact ⟨rest, by rw [bytes]; rfl, rfl⟩

/-- A character read stands there in its own bytes. -/
theorem eq_encode_of_decodeFrom {bytes : Bytes} {c : Char} {items : List (Option Char)}
    (read : decodeFrom none bytes = some c :: items) :
    ∃ rest, bytes = String.utf8EncodeChar c ++ rest ∧ decodeFrom none rest = items := by
  cases bytes with
  | nil => simp [decodeFrom] at read
  | cons a bytes =>
    simp only [decodeFrom, step] at read
    rcases start_cases a.toNat with ⟨ascii, begins⟩ | gap | ⟨begun, begins, lead⟩
    · simp only [begins, List.singleton_append, List.cons.injEq, Option.some.injEq] at read
      obtain ⟨rfl, rfl⟩ := read
      refine ⟨bytes, ?_, rfl⟩
      have valid : a.toNat.isValidChar := .inl (by omega)
      simp only [String.utf8EncodeChar, toNat_val_ofNat valid]
      rw [if_pos (by omega), UInt8.ofNat_toNat, List.singleton_append]
    · simp [gap] at read
    · simp only [begins, List.nil_append] at read
      exact eq_encode_of_lead lead read

/-- A character that has begun is read as a character or as a gap. -/
theorem decodeFrom_begun_ne_nil (begun : Begun) (bytes : Bytes) :
    decodeFrom (some begun) bytes ≠ [] := by
  induction bytes generalizing begun with
  | nil => simp [decodeFrom]
  | cons byte bytes ih =>
    simp only [decodeFrom, step, resume]
    split
    · split
      · simp
      · simpa using ih _
    · simp

/-- Only where there are no bytes is nothing read. -/
theorem eq_nil_of_decodeFrom {bytes : Bytes} (read : decodeFrom none bytes = []) : bytes = [] := by
  cases bytes with
  | nil => rfl
  | cons a bytes =>
    simp only [decodeFrom, step] at read
    rcases start_cases a.toNat with ⟨-, begins⟩ | gap | ⟨begun, begins, -⟩
    · simp [begins] at read
    · simp [gap] at read
    · rw [begins, List.nil_append] at read
      exact absurd read (decodeFrom_begun_ne_nil begun bytes)

/-- Bytes read without a gap are the bytes of the characters read. -/
theorem eq_flatMap_of_decodeFrom {chars : List Char} {bytes : Bytes}
    (read : decodeFrom none bytes = chars.map some) :
    bytes = chars.flatMap String.utf8EncodeChar := by
  induction chars generalizing bytes with
  | nil => exact eq_nil_of_decodeFrom read
  | cons c chars ih =>
    obtain ⟨rest, rfl, more⟩ := eq_encode_of_decodeFrom read
    rw [List.flatMap_cons, ← ih more]

/-- **Well-formed bytes are the encoding of their text.** -/
theorem decode?_eq_some_iff {bytes : Bytes} {text : String} :
    decode? bytes = some text ↔ bytes = encode text := by
  constructor
  · intro h
    obtain ⟨chars, hchars, rfl⟩ := Option.map_eq_some_iff.mp h
    rw [encode, String.toList_ofList]
    exact eq_flatMap_of_decodeFrom (eq_map_some_of_mapM_id hchars)
  · rintro rfl
    exact decode?_encode text

end Lexicon.Utf8
