import Lexicon.Log
import Lexicon.Text.Alphanumeric
import Lexicon.Text.Decimal
import Lexicon.Text.Pattern.Graph
import Lexicon.Text.Pattern.Parse
import Lexicon.Text.Split
import Lexicon.Text.Utf8

/-!
# Directives of log filters

A directive sets how much may be said. It names a target, which is the beginning of an area's path,
a span, or a field of a span or an event, perhaps with a value; what it leaves out may be anything.
In full it is written `target[span{field=value}]=level`.

* `Directive.parse` — a directive from its text, `none` if it is malformed;
* `ValueTest.accepts` — whether the value of a field is the one that a directive asks for.
-/

namespace Lexicon

/-- A test on the value of a field. -/
inductive ValueTest where
  /-- The field holds this number. -/
  | number (value : Nat)
  /-- A number that no field can hold. -/
  | unmet
  /-- The field holds a word in which the match of a pattern goes to the end. The pattern is kept in
  its written form as well. -/
  | pattern (source : String) (pattern : Pattern)
deriving DecidableEq, Repr

namespace ValueTest

/-- The first number above the 64-bit range without a sign. -/
def bound : Nat := 18446744073709551616

/-- Reads a number of the 64-bit range, with or without a plus sign. -/
def number? (text : List Char) : Option Nat :=
  (Decimal.natural? text).filter (· < bound)

/-- A text without a sign in front. -/
def unsigned (text : List Char) : List Char :=
  if text.head? = some '+' ∨ text.head? = some '-' then text.drop 1 else text

/-- Whether a text is the exponent of a number, or nothing. -/
def isExponent : List Char → Bool
  | [] => true
  | c :: rest =>
    let digits := unsigned rest
    (c == 'e' || c == 'E') && !digits.isEmpty && digits.all Char.isDigit

/-- Whether a text without a sign is a decimal fraction, perhaps with an exponent. -/
def isFraction (text : List Char) : Bool :=
  let whole := text.takeWhile Char.isDigit
  match text.dropWhile Char.isDigit with
  | '.' :: rest =>
    !(whole ++ rest.takeWhile Char.isDigit).isEmpty && isExponent (rest.dropWhile Char.isDigit)
  | rest => !whole.isEmpty && isExponent rest

/-- Whether a text is a number that is not counted with: a fraction, one with a minus sign or beyond
the 64-bit range, or one of the words for what is no finite number. -/
def isReal (text : List Char) : Bool :=
  let body := unsigned text
  isFraction body
    || ["inf", "infinity", "nan"].contains (String.ofList (body.map Char.toLower))

/-- Reads a test. What is no number is a pattern. -/
def parse (text : List Char) : Option ValueTest :=
  match number? text with
  | some value => some (.number value)
  | none =>
    if isReal text then some .unmet
    else (Pattern.parse text).map (.pattern (String.ofList text))

def accepts : ValueTest → FieldValue → Bool
  | .number expected, .number value => value == expected
  | .pattern _ expected, .word text => expected.accepts text.toList
  | _, _ => false

end ValueTest

/-- What a directive asks of a field: its name, and perhaps its value. -/
structure FieldTest where
  name : String
  value : Option ValueTest := none
deriving DecidableEq, Repr

/-- Reads what stands between braces: a name, and a value behind an equals sign. What follows a
second equals sign is passed over. -/
def FieldTest.parse (text : List Char) : Option FieldTest :=
  match Split.pieces '=' text with
  | name :: value :: _ => do return { name := String.ofList name, value := ← ValueTest.parse value }
  | _ => some { name := String.ofList text }

/-- How much may be said about a subject: everything down to a level, or nothing. -/
structure Directive where
  /-- The beginning of the paths that are meant. -/
  target : String := ""
  span : Option String := none
  field : Option FieldTest := none
  ceiling : Option Level
deriving DecidableEq, Repr

namespace Directive

/-- The words for a ceiling, in lower case. -/
def ceilingNames : List (String × Option Level) :=
  [ ("off", none), ("error", some .error), ("warn", some .warn), ("info", some .info),
    ("debug", some .debug), ("trace", some .trace) ]

/-- The numbers for a ceiling. -/
def ceilingOfNumber? : Nat → Option (Option Level)
  | 0 => some none
  | 1 => some (some .error)
  | 2 => some (some .warn)
  | 3 => some (some .info)
  | 4 => some (some .debug)
  | 5 => some (some .trace)
  | _ => none

/-- Reads a ceiling: a word in any case, or a number with or without a plus sign. -/
def ceiling? (text : List Char) : Option (Option Level) :=
  match Decimal.natural? text with
  | some number => ceilingOfNumber? number
  | none => ceilingNames.lookup (String.ofList (text.map Char.toLower))

/-- Reads what stands behind the equals sign of a directive: a ceiling, or nothing, which permits
everything. -/
def lastPart? (text : List Char) : Option (Option Level) :=
  if text.isEmpty then some (some .trace) else ceiling? text

/-- Whether a directive may begin with a character. -/
def isOpening (c : Char) : Bool :=
  c == '-' || c == ':' || c == '_' || c == '[' || Alphanumeric.isAlphanumeric c

/-- The part of a text between two positions, if none of them lies within a character. -/
def part? (text : Bytes) (start stop : Nat) : Option String :=
  Utf8.decode? ((text.take stop).drop start)

/-- Completes a directive whose brackets have been read. `rest` is what is left of it, up to the
blanks at its end, from a position on. -/
def complete (text : Bytes) (rest : List Char) (position : Nat) (directive : Directive) :
    Option Directive :=
  match rest with
  | [] => some directive
  | '=' :: _ => do
    let last ← part? text (position + 1) text.length
    return { directive with ceiling := ← lastPart? last.toList }
  | _ => none

/-- Reads the brackets of a directive. `rest` is what is left of it behind the opening bracket, up
to the blanks at its end, from a position on. -/
def parseSpan (text : Bytes) (rest : List Char) (position : Nat) (target : String) :
    Option Directive := do
  let name := rest.takeWhile fun c => c != ']' && c != '\x7b'
  let behind := position + Utf8.size name
  let named ← part? text position behind
  let directive : Directive := { target, ceiling := some .trace }
  match rest.drop name.length with
  | ']' :: rest => complete text rest (behind + 1) { directive with span := some named }
  | _ :: rest =>
    let content := rest.takeWhile (· != '\x7d')
    let closing := behind + 1 + Utf8.size content
    guard !content.isEmpty
    let field ← FieldTest.parse (← part? text (behind + 1) closing).toList
    let span := if named.isEmpty then none else some named
    match rest.drop content.length with
    | _ :: ']' :: rest =>
      complete text rest (closing + 2) { directive with span, field := some field }
    | _ => none
  | [] => none

/-- Reads a directive. A ceiling may stand alone; a target alone, or with nothing behind the equals
sign, may say everything. The parts are found by their positions in the directive without the
blanks around it, counted in bytes, but they are cut from the text with them, so that a directive
behind blanks is read amiss. -/
def parse (text : List Char) : Option Directive := do
  let body := Blank.trim text
  guard (body.head?.any isOpening)
  let head := body.takeWhile fun c => c != '=' && c != '['
  let position := Utf8.size head
  let bytes := Utf8.encode (String.ofList text)
  match body.drop head.length with
  | [] =>
    match ceiling? text with
    | some ceiling => some { ceiling }
    | none => some { target := String.ofList text, ceiling := some .trace }
  | '[' :: rest => parseSpan bytes rest (position + 1) (← part? bytes 0 position)
  | rest =>
    let target ← part? bytes 0 position
    complete bytes rest position { target, ceiling := some .trace }

/-- A directive's ceiling as a rank, which is 0 if nothing may be said. -/
def reach (directive : Directive) : Nat :=
  directive.ceiling.elim 0 Level.rank

/-- Whether two directives have the same subject. -/
def sameSubject (a b : Directive) : Bool :=
  a.target == b.target && a.span == b.span && a.field == b.field

end Directive

end Lexicon
