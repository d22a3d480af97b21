import Lexicon.Text.CharSet

/-!
# Patterns

Regular expressions. A pattern may match a text in several ways, and it prefers one to another: the
match that begins first; of two alternatives the left one; and of a repetition as many rounds as
there are, or as few if it is reluctant.

* `Pattern` — the expressions;
* `Look.holds` — when a condition on a place in a text holds;
* `Pattern.nullable` — whether a pattern may match without taking a character.
-/

namespace Lexicon

/-- A condition on a place in a text, which takes no character. -/
inductive Look where
  | start
  | finish
  /-- A word begins or ends at the place. -/
  | boundary
  /-- No word begins or ends at the place. -/
  | interior
  | wordStart
  | wordEnd
deriving DecidableEq, Repr

namespace Look

/-- Whether a condition holds between two characters, which are missing at the ends of the text. -/
def holds (before after : Option Char) : Look → Bool
  | .start => before.isNone
  | .finish => after.isNone
  | .boundary => before.any CharSet.wordChars.contains != after.any CharSet.wordChars.contains
  | .interior => before.any CharSet.wordChars.contains == after.any CharSet.wordChars.contains
  | .wordStart => !before.any CharSet.wordChars.contains && after.any CharSet.wordChars.contains
  | .wordEnd => before.any CharSet.wordChars.contains && !after.any CharSet.wordChars.contains

/-- Whether a condition holds behind a character, whatever follows. -/
def holdsBehind (before : Option Char) (look : Look) : Bool :=
  look == .start && before.isNone

end Look

/-- How often a pattern is repeated. -/
inductive Times where
  | optional
  | star
  | plus
deriving DecidableEq, Repr

/-- Regular expressions. -/
inductive Pattern where
  /-- Matches the empty text. -/
  | empty
  /-- Matches one character of a set. -/
  | one (set : CharSet)
  /-- Matches the empty text where a condition holds. -/
  | check (look : Look)
  /-- Matches one pattern and then another. -/
  | both (first second : Pattern)
  /-- Matches one of two patterns. -/
  | either (preferred other : Pattern)
  /-- Matches a pattern a number of times, as often as it can if it is `eager`. -/
  | repeated (times : Times) (eager : Bool) (body : Pattern)
deriving DecidableEq, Repr

namespace Pattern

/-- The pattern of a list of patterns one after the other. -/
def sequence : List Pattern → Pattern
  | [] => .empty
  | [pattern] => pattern
  | pattern :: rest => .both pattern (sequence rest)

/-- The pattern of a list of alternatives, preferred first. -/
def choice : List Pattern → Pattern
  | [] => .empty
  | [pattern] => pattern
  | pattern :: rest => .either pattern (choice rest)

/-- Whether a pattern may match without taking a character, if its conditions hold. -/
def nullable : Pattern → Bool
  | .empty | .check _ => true
  | .one _ => false
  | .both first second => nullable first && nullable second
  | .either preferred other => nullable preferred || nullable other
  | .repeated .plus _ body => nullable body
  | .repeated _ _ _ => true

end Pattern

end Lexicon
