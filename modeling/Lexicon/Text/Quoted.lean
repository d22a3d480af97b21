import Lexicon.Text.Combining
import Lexicon.Text.Hex
import Lexicon.Text.Printable

/-!
# Quoted text

A text between quotation marks, on one line and with nothing invisible in it: tab, line ends, NUL,
the quotation mark and the backslash have short escapes, and every other character that is not
printable or that would combine with its neighbour is written as its code point in braces.

* `Quoted.encode` — the quoted form;
* `Quoted.decode?` — the text of a quoted form.
-/

namespace Lexicon.Quoted

/-- The lower-case hexadecimal digits of a code point, without padding. -/
def hex (c : Char) : List Char :=
  Nat.toDigits 16 c.toNat

/-- A character written by its code point. -/
def codePoint (c : Char) : List Char :=
  ['\\', 'u', Char.ofNat 0x7B] ++ hex c ++ [Char.ofNat 0x7D]

/-- A character as it stands between the quotation marks. -/
def escape (c : Char) : List Char :=
  if c = '\t' then ['\\', 't']
  else if c = '\r' then ['\\', 'r']
  else if c = '\n' then ['\\', 'n']
  else if c = '\x00' then ['\\', '0']
  else if c = '"' then ['\\', '"']
  else if c = '\\' then ['\\', '\\']
  else if Combining.isCombining c || !Printable.isPrintable c then codePoint c
  else [c]

def encode (text : String) : String :=
  String.ofList ('"' :: text.toList.flatMap escape ++ ['"'])

/-- What the characters just read have begun. -/
inductive Reading where
  /-- Nothing. -/
  | plain
  /-- An escape, of which the backslash was read. -/
  | escaped
  /-- A code point, of which the brace has yet to come. -/
  | braced
  /-- A code point, of which digits of this value were read. -/
  | digits (value : Nat)
deriving DecidableEq, Repr

/-- Reads what stands between the quotation marks, up to the closing one, which has to be last. -/
def decodeFrom : Reading → List Char → Option (List Char)
  | .plain, ['"'] => some []
  | .plain, c :: rest =>
    if c = '\\' then decodeFrom .escaped rest
    else if c = '"' then none
    else (decodeFrom .plain rest).map (c :: ·)
  | .escaped, c :: rest =>
    if c = 't' then (decodeFrom .plain rest).map ('\t' :: ·)
    else if c = 'r' then (decodeFrom .plain rest).map ('\r' :: ·)
    else if c = 'n' then (decodeFrom .plain rest).map ('\n' :: ·)
    else if c = '0' then (decodeFrom .plain rest).map ('\x00' :: ·)
    else if c = '"' then (decodeFrom .plain rest).map ('"' :: ·)
    else if c = '\\' then (decodeFrom .plain rest).map ('\\' :: ·)
    else if c = 'u' then decodeFrom .braced rest
    else none
  | .braced, c :: rest => if c = Char.ofNat 0x7B then decodeFrom (.digits 0) rest else none
  | .digits value, c :: rest =>
    if c = Char.ofNat 0x7D then (decodeFrom .plain rest).map (Char.ofNat value :: ·)
    else (Hex.digit? c).bind fun digit => decodeFrom (.digits (value * 16 + digit)) rest
  | _, [] => none

def decode? (quoted : String) : Option String :=
  match quoted.toList with
  | '"' :: rest => (decodeFrom .plain rest).map String.ofList
  | _ => none

end Lexicon.Quoted
