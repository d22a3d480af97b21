/-!
# Decimal numbers

Reading a whole number that has to fit a word: an optional sign and decimal digits, read from the
left. The first fault met is the one reported, so a bad digit that comes after the number has
already outgrown the word is not.

* `Decimal.natural?` — a number without a minus sign, of any size;
* `Decimal.readWord` — a number within 64 bits;
* `Decimal.readInt32` — a number within 32 bits;
* `Decimal.Fault.message` — the wording of each fault.
-/

namespace Lexicon.Decimal

/-- Reads digits with or without a plus sign in front. -/
def natural? (text : List Char) : Option Nat :=
  let digits := if text.head? = some '+' then text.drop 1 else text
  if digits ≠ [] ∧ digits.all Char.isDigit then some (Nat.ofDigitChars 10 digits 0) else none

/-- Why a text is no number of the wanted range. -/
inductive Fault where
  /-- There is nothing to read. -/
  | empty
  /-- A character is no digit, or a sign stands alone. -/
  | digit
  /-- The number lies above the 64-bit range. -/
  | tooLarge
  /-- The number lies below the 64-bit range. -/
  | tooSmall
  /-- The number was read but lies outside the 32-bit range. -/
  | outside (value : Int)
deriving DecidableEq, Repr

def Fault.message : Fault → String
  | .empty => "cannot parse integer from empty string"
  | .digit => "invalid digit found in string"
  | .tooLarge => "number too large to fit in target type"
  | .tooSmall => "number too small to fit in target type"
  | .outside value => toString value ++ " is not in -2147483648..=2147483647"

/-- The side of zero that the digits count towards. -/
inductive Sign where
  | plus
  | minus
deriving DecidableEq, Repr

/-- The number that a value becomes when one more digit follows it. -/
def Sign.push (sign : Sign) (value : Int) (digit : Nat) : Int :=
  match sign with
  | .plus => value * 10 + digit
  | .minus => value * 10 - digit

/-- The first number above the 64-bit range; its negative is the last one inside. -/
def wordBound : Int := 9223372036854775808

/-- The first number above the 32-bit range; its negative is the last one inside. -/
def int32Bound : Int := 2147483648

/-- Takes one more digit, as long as the number stays within 64 bits. -/
def readDigit (sign : Sign) (value : Int) (c : Char) : Except Fault Int :=
  if c.isDigit then
    let next := sign.push value (c.toNat - '0'.toNat)
    if wordBound ≤ next then .error .tooLarge
    else if next < -wordBound then .error .tooSmall
    else .ok next
  else .error .digit

/-- Reads the digits after the sign; there has to be one. -/
def readDigits (sign : Sign) (digits : List Char) : Except Fault Int :=
  if digits = [] then .error .digit
  else digits.foldlM (readDigit sign) 0

/-- Reads a number of the 64-bit range. -/
def readWord : List Char → Except Fault Int
  | [] => .error .empty
  | c :: digits =>
    if c = '-' then readDigits .minus digits
    else if c = '+' then readDigits .plus digits
    else readDigits .plus (c :: digits)

/-- Reads a number of the 32-bit range. -/
def readInt32 (text : String) : Except Fault Int32 := do
  let value ← readWord text.toList
  if -int32Bound ≤ value ∧ value < int32Bound then .ok (Int32.ofInt value)
  else .error (.outside value)

end Lexicon.Decimal
