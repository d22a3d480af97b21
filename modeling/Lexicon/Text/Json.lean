/-!
# JSON documents

JSON values and their indented form: two spaces to a level, one element or member to a line, and
nothing between the brackets of an empty array or object.

* `Json` — a value; numbers are whole, and members keep the order they are given in;
* `Json.pretty` — the indented form of a value.
-/

namespace Lexicon

inductive Json where
  | null
  | number (value : Int)
  | string (value : String)
  | array (elements : List Json)
  | object (members : List (String × Json))

namespace Json

/-- The four lower-case hexadecimal digits of a control character. -/
def hex4 (c : Char) : List Char :=
  (Nat.toDigits 16 c.toNat).leftpad 4 '0'

/-- A character as it stands inside a string. -/
def escape (c : Char) : List Char :=
  if c = '"' then ['\\', '"']
  else if c = '\\' then ['\\', '\\']
  else if c = '\x08' then ['\\', 'b']
  else if c = '\x0c' then ['\\', 'f']
  else if c = '\n' then ['\\', 'n']
  else if c = '\r' then ['\\', 'r']
  else if c = '\t' then ['\\', 't']
  else if c.toNat < 0x20 then ['\\', 'u'] ++ hex4 c
  else [c]

def quote (text : String) : List Char :=
  '"' :: text.toList.flatMap escape ++ ['"']

/-- A new line, indented to a level. -/
def newLine (level : Nat) : List Char :=
  '\n' :: List.replicate (2 * level) ' '

mutual

/-- The indented form of a value that begins at a level. -/
def write (level : Nat) : Json → List Char
  | .null => "null".toList
  | .number value => (toString value).toList
  | .string value => quote value
  | .array [] => "[]".toList
  | .array (first :: rest) =>
    '[' :: newLine (level + 1) ++ write (level + 1) first ++ writeElements (level + 1) rest
      ++ newLine level ++ [']']
  | .object [] => [Char.ofNat 0x7B, Char.ofNat 0x7D]
  | .object (first :: rest) =>
    Char.ofNat 0x7B :: newLine (level + 1) ++ writeMember (level + 1) first
      ++ writeMembers (level + 1) rest ++ newLine level ++ [Char.ofNat 0x7D]

/-- The elements of an array after its first. -/
def writeElements (level : Nat) : List Json → List Char
  | [] => []
  | first :: rest => ',' :: newLine level ++ write level first ++ writeElements level rest

/-- A member of an object: its key and its value. -/
def writeMember (level : Nat) : String × Json → List Char
  | (key, value) => quote key ++ [':', ' '] ++ write level value

/-- The members of an object after its first. -/
def writeMembers (level : Nat) : List (String × Json) → List Char
  | [] => []
  | first :: rest => ',' :: newLine level ++ writeMember level first ++ writeMembers level rest

end

def pretty (value : Json) : String :=
  String.ofList (write 0 value)

end Json

end Lexicon
