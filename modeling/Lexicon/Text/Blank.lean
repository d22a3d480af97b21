import Lexicon.Text.Ranges

/-!
# Blank characters

The characters with the property White_Space, and trimming by them. The zero-width space U+200B
and the byte-order mark U+FEFF are not blank.

* `Blank.trim`, `Blank.trimEnd` — a text without its blank ends, or without its blank end;
* `Blank.trimEnd_append_blanks` — what is trimmed is exactly the blank tail.
-/

namespace Lexicon.Blank

/-- The code points with the property White_Space. -/
def whiteSpace : Ranges :=
  [ (0x9, 0xD), (0x20, 0x20), (0x85, 0x85), (0xA0, 0xA0), (0x1680, 0x1680), (0x2000, 0x200A),
    (0x2028, 0x2029), (0x202F, 0x202F), (0x205F, 0x205F), (0x3000, 0x3000) ]

def isBlank (c : Char) : Bool :=
  whiteSpace.contains c

/-- Drops the blank characters at the end. -/
def trimEnd (text : List Char) : List Char :=
  (text.reverse.dropWhile isBlank).reverse

/-- Drops the blank characters at both ends. -/
def trim (text : List Char) : List Char :=
  trimEnd (text.dropWhile isBlank)

/-- Blank characters at the end do not survive, whatever stands before them. -/
theorem trimEnd_append_blanks {text blanks : List Char} (h : ∀ c ∈ blanks, isBlank c = true) :
    trimEnd (text ++ blanks) = trimEnd text := by
  unfold trimEnd
  rw [List.reverse_append, List.dropWhile_append_of_pos]
  simpa using h

end Lexicon.Blank
