/-!
# Text as bytes

Command-line arguments, environment values and written output are bytes; everything else is text.
This module holds the encoding between the two and the three ways back:

* `Utf8.encode` — the bytes of a text, `Utf8.size` their number;
* `Utf8.decode` — the characters of a byte string, with one gap for every ill-formed stretch, where
  a stretch is the longest start of a character that the bytes allow, or a single byte;
* `Utf8.decode?` — the text, if there is no gap;
* `Utf8.lossy` — the text with U+FFFD in every gap.

Main statements: `Utf8.decode_encode` (decoding what was encoded leaves no gap and loses nothing)
and `Utf8.lossy_eq_of_decode?` (the lossy reading of well-formed bytes is the exact one).
-/

namespace Lexicon

/-- A byte string, as the system hands over arguments and takes output. -/
abbrev Bytes := List UInt8

namespace Utf8

def encode (text : String) : Bytes :=
  text.toList.flatMap String.utf8EncodeChar

/-- How many bytes some characters take. -/
def size : List Char → Nat
  | [] => 0
  | c :: rest => c.utf8Size + size rest

/-- A character that has begun: its value so far, how many bytes are due, and between which
bounds the next of them has to lie. -/
structure Begun where
  value : Nat
  due : Nat
  low : Nat := 0x80
  high : Nat := 0xBF
deriving DecidableEq, Repr

/-- What one byte adds to the characters read, and the character left open after it. -/
abbrev Advance := List (Option Char) × Option Begun

/-- Reads a byte where a character may begin. The bounds on the second byte keep out overlong
forms, surrogates and values beyond U+10FFFF. -/
def start (byte : Nat) : Advance :=
  if byte < 0x80 then ([some (Char.ofNat byte)], none)
  else if byte < 0xC2 then ([none], none)
  else if byte < 0xE0 then ([], some { value := byte - 0xC0, due := 1 })
  else if byte = 0xE0 then ([], some { value := 0, due := 2, low := 0xA0 })
  else if byte = 0xED then ([], some { value := 0xD, due := 2, high := 0x9F })
  else if byte < 0xF0 then ([], some { value := byte - 0xE0, due := 2 })
  else if byte = 0xF0 then ([], some { value := 0, due := 3, low := 0x90 })
  else if byte < 0xF4 then ([], some { value := byte - 0xF0, due := 3 })
  else if byte = 0xF4 then ([], some { value := 4, due := 3, high := 0x8F })
  else ([none], none)

/-- Reads a byte after a begun character. A byte out of bounds closes the stretch with a gap and
is then read afresh. -/
def resume (begun : Begun) (byte : Nat) : Advance :=
  if begun.low ≤ byte ∧ byte ≤ begun.high then
    let value := begun.value * 64 + (byte - 0x80)
    if begun.due ≤ 1 then ([some (Char.ofNat value)], none)
    else ([], some { value, due := begun.due - 1 })
  else (none :: (start byte).1, (start byte).2)

def step (state : Option Begun) (byte : UInt8) : Advance :=
  match state with
  | none => start byte.toNat
  | some begun => resume begun byte.toNat

/-- Reads bytes to the end; a character still open there is a gap. -/
def decodeFrom : Option Begun → Bytes → List (Option Char)
  | none, [] => []
  | some _, [] => [none]
  | state, byte :: rest => (step state byte).1 ++ decodeFrom (step state byte).2 rest

def decode (bytes : Bytes) : List (Option Char) :=
  decodeFrom none bytes

def decode? (bytes : Bytes) : Option String :=
  ((decode bytes).mapM id).map String.ofList

/-- The character that stands in for a gap. -/
def replacement : Char := '\uFFFD'

/-- The text of any byte string, with a replacement character in every gap. -/
def lossy (bytes : Bytes) : String :=
  String.ofList ((decode bytes).map fun item => item.getD replacement)

/-! ### Encoding -/

@[simp] theorem encode_empty : encode "" = [] := rfl

@[simp] theorem encode_append (a b : String) : encode (a ++ b) = encode a ++ encode b := by
  simp [encode]

/-- A text has as many bytes as its characters take. -/
theorem length_encode (text : String) : (encode text).length = size text.toList := by
  unfold encode
  induction text.toList with
  | nil => rfl
  | cons c rest ih =>
    rw [List.flatMap_cons, List.length_append, String.length_utf8EncodeChar, ih, size]

/-! ### Decoding undoes encoding -/

/-- A byte that begins a character of several bytes leaves it open. -/
theorem decodeFrom_lead {byte : Nat} {begun : Begun} (small : byte < 256)
    (leads : start byte = ([], some begun)) (rest : Bytes) :
    decodeFrom none (UInt8.ofNat byte :: rest) = decodeFrom (some begun) rest := by
  rw [decodeFrom, step, UInt8.toNat_ofNat_of_lt' small, leads, List.nil_append]

/-- A byte within the bounds adds six bits to a character of which more than one byte is due. -/
theorem decodeFrom_more {value due low high bits : Nat} (small : bits < 64)
    (above : low ≤ bits + 128) (below : bits + 128 ≤ high) (rest : Bytes) :
    decodeFrom (some { value, due := due + 2, low, high }) (UInt8.ofNat (bits + 128) :: rest) =
      decodeFrom (some { value := value * 64 + bits, due := due + 1 }) rest := by
  have added : resume { value, due := due + 2, low, high } (bits + 128) =
      ([], some { value := value * 64 + bits, due := due + 1 }) := by
    rw [resume, if_pos ⟨above, below⟩, Nat.add_sub_cancel, if_neg (by simp)]
    rfl
  have byte : bits + 128 < 256 := by omega
  rw [decodeFrom, step, UInt8.toNat_ofNat_of_lt' byte, added, List.nil_append]

/-- The last byte that is due closes the character. -/
theorem decodeFrom_last {value bits : Nat} (small : bits < 64) (rest : Bytes) :
    decodeFrom (some { value, due := 1 }) (UInt8.ofNat (bits + 128) :: rest) =
      some (Char.ofNat (value * 64 + bits)) :: decodeFrom none rest := by
  have closed : resume { value, due := 1 } (bits + 128) =
      ([some (Char.ofNat (value * 64 + bits))], none) := by
    rw [resume, if_pos ⟨by simp, by simp; omega⟩, Nat.add_sub_cancel, if_pos (Nat.le_refl 1)]
  have byte : bits + 128 < 256 := by omega
  rw [decodeFrom, step, UInt8.toNat_ofNat_of_lt' byte, closed, List.singleton_append]

theorem start_two {v : Nat} (low : 0x80 ≤ v) (high : v < 0x800) :
    start (v / 64 + 0xC0) = ([], some { value := v / 64, due := 1 }) := by
  rw [start, if_neg (by omega), if_neg (by omega), if_pos (by omega), Nat.add_sub_cancel]

/-- The lead of three bytes admits the second byte, as long as the value is not a surrogate. -/
theorem start_three {v : Nat} (low : 0x800 ≤ v) (high : v < 0x10000)
    (valid : v < 0xD800 ∨ 0xE000 ≤ v) :
    ∃ least most, start (v / 4096 + 0xE0) =
      ([], some { value := v / 4096, due := 2, low := least, high := most }) ∧
      least ≤ v / 64 % 64 + 128 ∧ v / 64 % 64 + 128 ≤ most := by
  unfold start
  rw [if_neg (by omega), if_neg (by omega), if_neg (by omega)]
  split
  · exact ⟨0xA0, 0xBF, by simp; omega, by omega, by omega⟩
  split
  · exact ⟨0x80, 0x9F, by simp; omega, by omega, by omega⟩
  · rw [if_pos (by omega), Nat.add_sub_cancel]
    exact ⟨0x80, 0xBF, rfl, by omega, by omega⟩

/-- The lead of four bytes admits the second byte, as long as the value is in range. -/
theorem start_four {v : Nat} (low : 0x10000 ≤ v) (high : v < 0x110000) :
    ∃ least most, start (v / 262144 + 0xF0) =
      ([], some { value := v / 262144, due := 3, low := least, high := most }) ∧
      least ≤ v / 4096 % 64 + 128 ∧ v / 4096 % 64 + 128 ≤ most := by
  unfold start
  rw [if_neg (by omega), if_neg (by omega), if_neg (by omega), if_neg (by omega),
    if_neg (by omega), if_neg (by omega)]
  split
  · exact ⟨0x90, 0xBF, by simp; omega, by omega, by omega⟩
  split
  · rw [Nat.add_sub_cancel]
    exact ⟨0x80, 0xBF, rfl, by omega, by omega⟩
  · rw [if_pos (by omega)]
    exact ⟨0x80, 0x8F, by simp; omega, by omega, by omega⟩

section Lengths

variable {v : Nat} (rest : Bytes)

theorem decodeFrom_one (high : v < 0x80) :
    decodeFrom none (UInt8.ofNat v :: rest) = some (Char.ofNat v) :: decodeFrom none rest := by
  have byte : v < 256 := by omega
  rw [decodeFrom, step, UInt8.toNat_ofNat_of_lt' byte, start, if_pos high, List.singleton_append]

theorem decodeFrom_two (low : 0x80 ≤ v) (high : v < 0x800) :
    decodeFrom none
        (UInt8.ofNat (v / 64 + 0xC0) :: UInt8.ofNat (v % 64 + 128) :: rest) =
      some (Char.ofNat v) :: decodeFrom none rest := by
  have whole : v / 64 * 64 + v % 64 = v := by omega
  rw [decodeFrom_lead (by omega) (start_two low high), decodeFrom_last (by omega), whole]

theorem decodeFrom_three (low : 0x800 ≤ v) (high : v < 0x10000)
    (valid : v < 0xD800 ∨ 0xE000 ≤ v) :
    decodeFrom none
        (UInt8.ofNat (v / 4096 + 0xE0) :: UInt8.ofNat (v / 64 % 64 + 128) ::
          UInt8.ofNat (v % 64 + 128) :: rest) =
      some (Char.ofNat v) :: decodeFrom none rest := by
  obtain ⟨least, most, leads, above, below⟩ := start_three low high valid
  have whole : (v / 4096 * 64 + v / 64 % 64) * 64 + v % 64 = v := by omega
  rw [decodeFrom_lead (by omega) leads, decodeFrom_more (by omega) above below,
    decodeFrom_last (by omega), whole]

theorem decodeFrom_four (low : 0x10000 ≤ v) (high : v < 0x110000) :
    decodeFrom none
        (UInt8.ofNat (v / 262144 + 0xF0) :: UInt8.ofNat (v / 4096 % 64 + 128) ::
          UInt8.ofNat (v / 64 % 64 + 128) :: UInt8.ofNat (v % 64 + 128) :: rest) =
      some (Char.ofNat v) :: decodeFrom none rest := by
  obtain ⟨least, most, leads, above, below⟩ := start_four low high
  have whole : ((v / 262144 * 64 + v / 4096 % 64) * 64 + v / 64 % 64) * 64 + v % 64 = v := by omega
  rw [decodeFrom_lead (by omega) leads, decodeFrom_more (by omega) above below,
    decodeFrom_more (by omega) (by omega) (by omega), decodeFrom_last (by omega), whole]

end Lengths

/-- A character's own bytes are read as that character, whatever follows. -/
theorem decodeFrom_utf8EncodeChar (c : Char) (rest : Bytes) :
    decodeFrom none (String.utf8EncodeChar c ++ rest) = some c :: decodeFrom none rest := by
  have value : Char.ofNat c.val.toNat = c := Char.ofNat_toNat c
  have valid := c.valid
  simp only [UInt32.isValidChar, Nat.isValidChar] at valid
  simp only [String.utf8EncodeChar]
  generalize c.val.toNat = v at value valid
  rw [← value]
  split
  · exact decodeFrom_one rest (by omega)
  split
  · have lead : v / 64 % 32 = v / 64 := by omega
    rw [lead]
    exact decodeFrom_two rest (by omega) (by omega)
  split
  · have lead : v / 4096 % 16 = v / 4096 := by omega
    rw [lead]
    exact decodeFrom_three rest (by omega) (by omega) (by omega)
  · have lead : v / 262144 % 8 = v / 262144 := by omega
    rw [lead]
    exact decodeFrom_four rest (by omega) (by omega)

/-- Decoding the bytes of a text gives its characters and no gap. -/
theorem decode_encode (text : String) : decode (encode text) = text.toList.map some := by
  unfold decode encode
  induction text.toList with
  | nil => rfl
  | cons c rest ih => simp [List.flatMap_cons, decodeFrom_utf8EncodeChar, ih]

theorem mapM_id_map_some {α : Type} (items : List α) : (items.map some).mapM id = some items := by
  induction items with
  | nil => rfl
  | cons a rest ih => simp [ih]

@[simp] theorem decode?_encode (text : String) : decode? (encode text) = some text := by
  rw [decode?, decode_encode, mapM_id_map_some, Option.map_some, String.ofList_toList]

/-! ### The lossy reading -/

theorem eq_map_some_of_mapM_id {α : Type} {items : List (Option α)} {values : List α}
    (h : items.mapM id = some values) : items = values.map some := by
  induction items generalizing values with
  | nil => simp_all
  | cons item rest ih =>
    cases item with
    | none => simp at h
    | some a =>
      simp only [List.mapM_cons, id_eq, Option.bind_eq_bind, Option.bind_some] at h
      cases hr : rest.mapM id with
      | none => simp [hr] at h
      | some tail =>
        simp [hr] at h
        subst h
        simp [ih hr]

/-- The lossy reading of bytes without gaps is the exact reading. -/
theorem lossy_eq_of_decode? {bytes : Bytes} {text : String} (h : decode? bytes = some text) :
    lossy bytes = text := by
  unfold decode? at h
  cases hm : (decode bytes).mapM id with
  | none => simp [hm] at h
  | some values =>
    simp only [hm, Option.map_some, Option.some.injEq] at h
    subst h
    simp [lossy, eq_map_some_of_mapM_id hm, Function.comp_def]

end Utf8

end Lexicon
