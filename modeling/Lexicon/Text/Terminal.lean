/-!
# Text for a terminal

Text from outside that is shown in a message must not steer the terminal: control sequences are
taken out whole, and of the single control characters only the four that move through text stay
(tab, line feed, form feed and carriage return). Inside a sequence that is made of ASCII characters
any other character is passed over.

* `Terminal.visible` — what is left of a text that is at hand as a whole: a spacing character that
  is shown gives up the sequence that it stands in;
* `Terminal.streamed` — what is left of a text that is written to a stream: a spacing character is
  shown together with the text behind it, and then its sequence goes on.
-/

namespace Lexicon.Terminal

/-- What the characters just read have begun. -/
inductive State where
  /-- Nothing: characters are shown. -/
  | text
  /-- An escape character was read. -/
  | escape
  /-- An escape sequence that takes further characters before its last one. -/
  | sequence
  /-- A control sequence with its parameters. -/
  | control
  /-- The head of a string for a device, of which nothing was read. -/
  | device
  /-- The head of a string for a device, in its parameters. -/
  | deviceParameters
  /-- The head of a string for a device, behind its parameters. -/
  | deviceMarks
  /-- A string, which a terminator ends. -/
  | string
  /-- A command string, which a bell ends. -/
  | command
deriving DecidableEq, Repr

/-- Whether a control character moves through text and may be shown. -/
def isSpacing (c : Char) : Bool :=
  c == '\t' || c == '\n' || c == '\x0c' || c == '\r'

/-- Whether a character is shown outside of sequences. -/
def isShown (c : Char) : Bool :=
  isSpacing c || 0x20 ≤ c.toNat && c != '\x7f'

/-- The byte that ends a string. -/
def terminator : UInt8 := 0x9C

/-- Whether a character holds the byte that ends a string. -/
def isTerminating (c : Char) : Bool :=
  (String.utf8EncodeChar c).contains terminator

namespace State

/-- What the character after an escape character begins. -/
def afterEscape (c : Char) : State :=
  if c.toNat < 0x30 then .sequence
  else if c == '[' then .control
  else if c == ']' then .command
  else if c == 'P' then .device
  else if c == 'X' || c == '^' || c == '_' then .string
  else .text

/-- What a printable ASCII character leads to in a sequence that is made of such characters. -/
def advance (state : State) (c : Char) : State :=
  match state with
  | .escape => afterEscape c
  | .sequence => if c.toNat < 0x30 then .sequence else .text
  | .control => if c.toNat < 0x40 then .control else .text
  | .device =>
    if c.toNat < 0x30 then .deviceMarks
    else if c.toNat < 0x40 then .deviceParameters
    else .string
  | .deviceParameters =>
    if c.toNat < 0x30 then .deviceMarks
    else if c.toNat < 0x3C then .deviceParameters
    else .string
  | .deviceMarks => if c.toNat < 0x30 then .deviceMarks else .string
  | state => state

def next (state : State) (c : Char) : State :=
  if c == '\x1b' then .escape
  else if c == '\x18' || c == '\x1a' then .text
  else match state with
    | .command => if c == '\x07' then .text else .command
    | .string => if isTerminating c then .text else .string
    | state => if c.toNat < 0x20 || 0x7F ≤ c.toNat then state else state.advance c

/-- Whether a character that is read in a state is shown. -/
def shows (state : State) (c : Char) : Bool :=
  match state with
  | .text => isShown c
  | .escape | .sequence | .control => isSpacing c
  | _ => false

end State

/-- The characters of a text that are shown, from a state on. -/
def visibleFrom : State → List Char → List Char
  | _, [] => []
  | state, c :: rest =>
    if state.shows c then c :: visibleFrom .text rest else visibleFrom (state.next c) rest

/-- A text without control characters and sequences. -/
def visible (text : String) : String :=
  String.ofList (visibleFrom .text text.toList)

/-- The characters of a stream that are shown, from a state on. `running` says that the character
before was shown: then the next one is shown as if no sequence were open, and one beyond ASCII gives
up the sequence that is. -/
def streamedFrom (running : Bool) : State → List Char → List Char
  | _, [] => []
  | state, c :: rest =>
    if running && isShown c || state.shows c then
      c :: streamedFrom true (if c.toNat < 0x80 then state else .text) rest
    else streamedFrom false (state.next c) rest

/-- A text on a stream without control characters and sequences. -/
def streamed (text : String) : String :=
  String.ofList (streamedFrom false .text text.toList)

end Lexicon.Terminal
