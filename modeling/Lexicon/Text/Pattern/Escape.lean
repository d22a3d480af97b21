import Lexicon.Text.Hex
import Lexicon.Text.Pattern
import Lexicon.Text.Pattern.Flags

/-!
# Characters behind a backslash

A backslash takes the meaning from a character that has one, or gives one to a letter: a control
character, a character by its number, a set of characters, or a condition on a place.

* `Escape.read` — reads what stands behind a backslash.
-/

namespace Lexicon.Pattern

/-- What stands behind a backslash. -/
inductive Escape where
  | char (c : Char)
  | set (members : CharSet)
  | check (look : Look)
deriving DecidableEq, Repr

namespace Escape

/-- The letters that stand for control characters. -/
def controls : List (Char × Char) :=
  [ ('a', '\x07'), ('t', '\t'), ('n', '\n'), ('v', '\x0b'), ('f', '\x0c'), ('r', '\r') ]

/-- The letters that announce the number of a character, with how many digits it has. -/
def numbered : List (Char × Nat) :=
  [ ('x', 2), ('u', 4), ('U', 8) ]

/-- The letters for sets of characters. -/
def sets : List (Char × CharSet) :=
  [ ('d', .digits), ('s', .blanks), ('w', .wordChars) ]

/-- The letters for the ends of the text. -/
def edges : List (Char × Look) :=
  [ ('A', .start), ('z', .finish) ]

/-- The characters for the ends of words. -/
def boundaries : List (Char × Look) :=
  [ ('b', .boundary), ('B', .interior), ('<', .wordStart), ('>', .wordEnd) ]

/-- Reads hexadecimal digits, perhaps with blanks before each, into a number that has begun. -/
def hex (flags : Flags) : (digits value : Nat) → Reader Nat
  | 0, value => return value
  | digits + 1, value => do
    flags.skip
    let some digit := Hex.digit? (← Reader.next) | failure
    hex flags digits (value * 16 + digit)

/-- Reads a character by its number. Two digits are a byte, which is a character by itself only in
ASCII. -/
def numberedChar (flags : Flags) (digits : Nat) : Reader Escape := do
  let value ← hex flags digits 0
  guard (decide value.isValidChar)
  guard (flags.unicode || digits != 2 || value < 0x80)
  return .char (Char.ofNat value)

/-- What a single character behind a backslash stands for. Sets of characters and the ends of words
are known for ASCII only; a character of ASCII that is no letter or digit stands for itself. -/
def ofChar? (flags : Flags) (c : Char) : Option Escape :=
  match controls.lookup c, edges.lookup c, sets.lookup c, boundaries.lookup c with
  | some control, _, _, _ => some (.char control)
  | _, some look, _, _ => some (.check look)
  | _, _, some members, _ => if flags.unicode then none else some (.set members)
  | _, _, _, some look => if flags.unicode then none else some (.check look)
  | _, _, _, _ => if c.toNat < 0x80 && !c.isAlphanum then some (.char c) else none

def read (flags : Flags) : Reader Escape := do
  let c ← Reader.next
  match numbered.lookup c with
  | some digits => numberedChar flags digits
  | none => liftM (ofChar? flags c)

end Escape

end Lexicon.Pattern
