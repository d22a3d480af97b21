import Lexicon.Text.Combining

/-!
# Columns

How wide a text is on a terminal with characters of fixed width. Most characters take one column;
those of East Asia that are drawn wide take two, and combining marks, control characters and
characters that show nothing take none. An escape sequence takes no columns as a whole.

* `Columns.ofChar` — the columns of a character that stands outside escape sequences;
* `Columns.State` — how far the reading is inside an escape sequence;
* `Columns.count` — the columns of a text; `Columns.count_eq_length` says that printable ASCII
  takes one column to a character.
-/

namespace Lexicon.Columns

/-- Code points that take no column and are no combining marks: control and format characters,
fillers, the vowels and final consonants that complete a Hangul syllable, and signs that are drawn
upon their neighbour. -/
def invisible : Ranges :=
  [ (0x0, 0x1F), (0x7F, 0x9F), (0xAD, 0xAD), (0x605, 0x605), (0x61C, 0x61C), (0x70F, 0x70F),
    (0x890, 0x891), (0x8E2, 0x8E2), (0xD4E, 0xD4E), (0x1160, 0x11FF), (0x180E, 0x180E),
    (0x200B, 0x200F), (0x202A, 0x202E), (0x2060, 0x206F), (0x3164, 0x3164), (0xA8FA, 0xA8FA),
    (0xD7B0, 0xD7C6), (0xD7CB, 0xD7FB), (0xFEFF, 0xFEFF), (0xFF9E, 0xFFA0), (0xFFF0, 0xFFF8),
    (0x111C2, 0x111C3), (0x113D1, 0x113D1), (0x1193F, 0x1193F), (0x11941, 0x11941),
    (0x11A3A, 0x11A3A), (0x11A84, 0x11A89), (0x11D46, 0x11D46), (0x11F02, 0x11F02),
    (0x1BCA0, 0x1BCA3), (0x1D173, 0x1D17A), (0xE0000, 0xE00FF), (0xE01F0, 0xE0FFF)]

/-- Marks that terminals know and that are of later date than the table of `Combining`. -/
def recentMarks : Ranges :=
  [ (0x5C9, 0x5C9), (0xB53, 0xB54), (0x1ADE, 0x1ADF), (0x1AEC, 0x1AF0), (0x10ECC, 0x10ECF),
    (0x10EF0, 0x10EF9), (0x11DF0, 0x11DF0), (0x1D128, 0x1D128), (0x1D250, 0x1D252)]

/-- Code points that take two columns. -/
def wide : Ranges :=
  [ (0x1100, 0x115F), (0x17A4, 0x17A4), (0x231A, 0x231B), (0x2329, 0x232A), (0x23E9, 0x23EC),
    (0x23F0, 0x23F0), (0x23F3, 0x23F3), (0x25FD, 0x25FE), (0x2614, 0x2615), (0x2630, 0x2637),
    (0x2648, 0x2653), (0x267F, 0x267F), (0x268A, 0x268F), (0x2693, 0x2693), (0x26A1, 0x26A1),
    (0x26AA, 0x26AB), (0x26BD, 0x26BE), (0x26C4, 0x26C5), (0x26CE, 0x26CE), (0x26D4, 0x26D4),
    (0x26EA, 0x26EA), (0x26F2, 0x26F3), (0x26F5, 0x26F5), (0x26FA, 0x26FA), (0x26FD, 0x26FD),
    (0x2705, 0x2705), (0x270A, 0x270B), (0x2728, 0x2728), (0x274C, 0x274C), (0x274E, 0x274E),
    (0x2753, 0x2755), (0x2757, 0x2757), (0x2795, 0x2797), (0x27B0, 0x27B0), (0x27BF, 0x27BF),
    (0x2B1B, 0x2B1C), (0x2B50, 0x2B50), (0x2B55, 0x2B55), (0x2E80, 0x2E99), (0x2E9B, 0x2EF3),
    (0x2F00, 0x2FD5), (0x2FF0, 0x3029), (0x3030, 0x303E), (0x3041, 0x3096), (0x309B, 0x30FF),
    (0x3105, 0x312F), (0x3131, 0x3163), (0x3165, 0x318E), (0x3190, 0x31E5), (0x31EF, 0x321E),
    (0x3220, 0x3247), (0x3250, 0xA48C), (0xA490, 0xA4C6), (0xA960, 0xA97C), (0xAC00, 0xD7A3),
    (0xF900, 0xFAFF), (0xFE10, 0xFE19), (0xFE30, 0xFE52), (0xFE54, 0xFE66), (0xFE68, 0xFE6B),
    (0xFF01, 0xFF60), (0xFFE0, 0xFFE6), (0x16FE0, 0x16FE3), (0x16FF2, 0x16FF6), (0x17000, 0x18CD5),
    (0x18CFF, 0x18D1E), (0x18D80, 0x18DF2), (0x1AFF0, 0x1AFF3), (0x1AFF5, 0x1AFFB),
    (0x1AFFD, 0x1AFFE), (0x1B000, 0x1B122), (0x1B132, 0x1B132), (0x1B150, 0x1B152),
    (0x1B155, 0x1B155), (0x1B164, 0x1B167), (0x1B170, 0x1B2FB), (0x1D300, 0x1D356),
    (0x1D360, 0x1D376), (0x1F004, 0x1F004), (0x1F0CF, 0x1F0CF), (0x1F18E, 0x1F18E),
    (0x1F191, 0x1F19A), (0x1F200, 0x1F202), (0x1F210, 0x1F23B), (0x1F240, 0x1F248),
    (0x1F250, 0x1F251), (0x1F260, 0x1F265), (0x1F300, 0x1F320), (0x1F32D, 0x1F335),
    (0x1F337, 0x1F37C), (0x1F37E, 0x1F393), (0x1F3A0, 0x1F3CA), (0x1F3CF, 0x1F3D3),
    (0x1F3E0, 0x1F3F0), (0x1F3F4, 0x1F3F4), (0x1F3F8, 0x1F43E), (0x1F440, 0x1F440),
    (0x1F442, 0x1F4FC), (0x1F4FF, 0x1F53D), (0x1F54B, 0x1F54E), (0x1F550, 0x1F567),
    (0x1F57A, 0x1F57A), (0x1F595, 0x1F596), (0x1F5A4, 0x1F5A4), (0x1F5FB, 0x1F64F),
    (0x1F680, 0x1F6C5), (0x1F6CC, 0x1F6CC), (0x1F6D0, 0x1F6D2), (0x1F6D5, 0x1F6D8),
    (0x1F6DC, 0x1F6DF), (0x1F6EB, 0x1F6EC), (0x1F6F4, 0x1F6FC), (0x1F7E0, 0x1F7EB),
    (0x1F7F0, 0x1F7F0), (0x1F90C, 0x1F93A), (0x1F93C, 0x1F945), (0x1F947, 0x1F9FF),
    (0x1FA70, 0x1FA7C), (0x1FA80, 0x1FA8A), (0x1FA8E, 0x1FAC6), (0x1FAC8, 0x1FAC8),
    (0x1FACD, 0x1FADC), (0x1FADF, 0x1FAEA), (0x1FAEF, 0x1FAF8), (0x20000, 0x2FFFD),
    (0x30000, 0x3FFFD)]

/-- The columns that a character takes. Of the characters beyond ASCII, the joiner of Tifinagh is a
mark that shows by itself, and a sign of Khmer stands for a whole word. -/
def ofChar (c : Char) : Nat :=
  if c.toNat < 0x7F then if c.toNat < 0x20 then 0 else 1
  else if c = '\u2D7F' then 1
  else if c = '\u17D8' then 3
  else if Combining.isCombining c || recentMarks.contains c || invisible.contains c then 0
  else if wide.contains c then 2
  else 1

/-- How far the reading is inside an escape sequence. -/
inductive State where
  /-- Outside of any. -/
  | text
  /-- Behind an escape character. -/
  | escape
  /-- In a control sequence, which a character of U+0040..U+007E ends. -/
  | control
  /-- In a command, which a bell ends. -/
  | command
  /-- In a command behind an escape character, where a backslash ends it as well. -/
  | commandEscape
deriving DecidableEq, Repr

namespace State

def next (state : State) (c : Char) : State :=
  match state with
  | .text => if c = '\x1b' then .escape else .text
  | .escape => if c = '[' then .control else if c = ']' then .command else .text
  | .control => if 0x40 ≤ c.toNat ∧ c.toNat ≤ 0x7E then .text else .control
  | .command =>
    if c = '\x07' then .text else if c = '\x1b' then .commandEscape else .command
  | .commandEscape =>
    if c = '\x07' ∨ c = '\\' then .text
    else if c = '\x1b' then .commandEscape
    else .command

/-- The columns of a character that is read in a state. -/
def columns (state : State) (c : Char) : Nat :=
  if state = .text ∧ c ≠ '\x1b' then ofChar c else 0

end State

/-- The columns of the characters that are read from a state on. -/
def countFrom : State → List Char → Nat
  | _, [] => 0
  | state, c :: rest => state.columns c + countFrom (state.next c) rest

def count (text : List Char) : Nat :=
  countFrom .text text

/-! ### Bounds -/

theorem ofChar_le (c : Char) : ofChar c ≤ 3 := by
  unfold ofChar
  repeat' split
  all_goals omega

theorem ofChar_of_ascii {c : Char} (hlow : 0x20 ≤ c.toNat) (hhigh : c.toNat < 0x7F) :
    ofChar c = 1 := by
  rw [ofChar, if_pos hhigh, if_neg (Nat.not_lt.2 hlow)]

theorem State.columns_le (state : State) (c : Char) : state.columns c ≤ 3 := by
  unfold State.columns
  split
  · exact ofChar_le c
  · omega

/-- Only a character outside escape sequences takes columns, and it leaves the reading there. -/
theorem State.eq_text_of_columns_pos {state : State} {c : Char} (h : 0 < state.columns c) :
    state = .text ∧ state.next c = .text := by
  unfold State.columns at h
  split at h
  · rename_i hstate
    obtain ⟨rfl, hc⟩ := hstate
    exact ⟨rfl, if_neg hc⟩
  · omega

/-- Printable ASCII takes one column to a character. -/
theorem count_eq_length {text : List Char}
    (h : ∀ c ∈ text, 0x20 ≤ c.toNat ∧ c.toNat < 0x7F) : count text = text.length := by
  unfold count
  induction text with
  | nil => rfl
  | cons c rest ih =>
    have hc := h c List.mem_cons_self
    have hescape : c ≠ '\x1b' := by
      rintro rfl
      exact absurd hc.1 (by decide)
    have hnext : State.text.next c = .text := if_neg hescape
    have hcolumns : State.text.columns c = 1 := by
      rw [State.columns, if_pos ⟨rfl, hescape⟩, ofChar_of_ascii hc.1 hc.2]
    rw [countFrom, hnext, hcolumns, ih fun c hmem => h c (List.mem_cons_of_mem _ hmem),
      List.length_cons, Nat.add_comm]

end Lexicon.Columns
