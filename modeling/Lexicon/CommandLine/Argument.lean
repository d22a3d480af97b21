import Lexicon.CommandLine.Flag
import Lexicon.Text.Utf8

/-!
# Arguments

An argument is a byte string. Its first bytes decide what it can be: the separator `--`, a long
flag with or without an attached value, a cluster of short flags, or a word. A single dash is a
word.

* `Argument.shape` — which of these an argument is;
* `Argument.isNumeral` — whether what follows a dash looks like a number.
-/

namespace Lexicon.Argument

/-- What an argument looks like. -/
inductive Shape where
  /-- The argument `--`: all that follows are values. -/
  | separator
  /-- Two dashes and a name, and the value after the first `=` if there is one. -/
  | long (name : Bytes) (value : Option Bytes)
  /-- One dash and at least one byte. -/
  | short (body : Bytes)
  /-- Anything else. -/
  | word
deriving DecidableEq, Repr

def dash : UInt8 := 0x2D

def equalsSign : UInt8 := 0x3D

/-- A long flag after its dashes: its name, and the value after the first equals sign. -/
def longShape (body : Bytes) : Shape :=
  .long (body.takeWhile (· != equalsSign))
    (match body.dropWhile (· != equalsSign) with
      | [] => none
      | _ :: value => some value)

/-- What an argument looks like. -/
def shape : Bytes → Shape
  | first :: second :: rest =>
    if first = dash then
      if second = dash then if rest = [] then .separator else longShape rest
      else .short (second :: rest)
    else .word
  | _ => .word

def flag? (topic : Topic) (name : Bytes) : Option Flag :=
  topic.flags.find? fun flag => Utf8.encode flag.word == name

/-- A long flag that is not understood, as it is shown. -/
def shownLong (name : Bytes) : String :=
  "--" ++ Utf8.lossy name

/-- The first of a cluster of short flags; a cluster that begins ill-formed has none. -/
def firstShort? (body : Bytes) : Option Char :=
  ((Utf8.decode body).head?).bind id

/-- A short flag that is not understood, as it is shown: the first of its cluster, or the whole
cluster if that begins ill-formed. -/
def shownShort (body : Bytes) : String :=
  match firstShort? body with
  | some c => "-" ++ String.singleton c
  | none => "-" ++ Utf8.lossy body

def isExponentMark (c : Char) : Bool :=
  c == 'e' || c == 'E'

/-- Whether a text looks like a number: digits with at most one point, which is not first, and
then perhaps an exponent of digits. -/
def isNumeralText (text : List Char) : Bool :=
  let mantissa := text.takeWhile fun c => !isExponentMark c
  let exponent := text.dropWhile fun c => !isExponentMark c
  (mantissa.head?.any Char.isDigit)
    && mantissa.all (fun c => c.isDigit || c == '.')
    && mantissa.count '.' ≤ 1
    && match exponent with
      | [] => true
      | _ :: digits => !digits.isEmpty && digits.all Char.isDigit

/-- Whether what follows a dash looks like a number, so that the argument is a negative value. -/
def isNumeral (body : Bytes) : Bool :=
  (Utf8.decode? body).any fun text => isNumeralText text.toList

end Lexicon.Argument
