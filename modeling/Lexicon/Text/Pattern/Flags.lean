import Lexicon.Text.Blank
import Lexicon.Text.Reader

/-!
# Flags of written patterns

How the characters of a written pattern are read. Flags are letters; those behind a dash are turned
off. Three of them (`m`, `s` and `R`) concern line breaks and change nothing here, because patterns
are for texts of one line.

* `Flags.set?` — the flags after some letters;
* `Flags.knowsCases` — whether characters can be told from others at all;
* `Flags.skip` — passes over blanks and comments where these have no meaning.
-/

namespace Lexicon.Pattern

/-- How a written pattern is read. -/
structure Flags where
  /-- Letters count in either case. -/
  caseless : Bool := false
  /-- Repetitions are reluctant, and those with one more question mark are not. -/
  reluctant : Bool := false
  /-- Characters are those of all scripts, and not only those of ASCII. -/
  unicode : Bool := true
  /-- Blanks and comments have no meaning. -/
  spaced : Bool := false
deriving DecidableEq, Repr

namespace Flags

/-- Whether letters are flags: each stands there once, and so does the dash, which is not last. -/
def areFlags (letters : List Char) : Bool :=
  letters.all "imsURux-".toList.contains && decide letters.Nodup && letters.getLast? != some '-'

/-- The value of a flag after some letters. -/
def value (letters : List Char) (letter : Char) (flag : Bool) : Bool :=
  if (letters.takeWhile (· != '-')).contains letter then true
  else if letters.contains letter then false
  else flag

def set? (flags : Flags) (letters : List Char) : Option Flags :=
  if areFlags letters then
    some {
      caseless := value letters 'i' flags.caseless
      reluctant := value letters 'U' flags.reluctant
      unicode := value letters 'u' flags.unicode
      spaced := value letters 'x' flags.spaced }
  else none

/-- Whether the case of letters is known: there is no table of cases for all scripts. -/
def knowsCases (flags : Flags) : Bool :=
  !(flags.caseless && flags.unicode)

/-- A text behind blanks and comments. A comment goes from a number sign to the end of the line. -/
def afterBlanks (comment : Bool) : List Char → List Char
  | [] => []
  | c :: rest =>
    if comment then afterBlanks (c != '\n') rest
    else if Blank.isBlank c then afterBlanks false rest
    else if c = '#' then afterBlanks true rest
    else c :: rest

/-- Passes over blanks and comments where these have no meaning. -/
def skip (flags : Flags) : Reader Unit := do
  if flags.spaced then modify (afterBlanks false)

end Flags

end Lexicon.Pattern
