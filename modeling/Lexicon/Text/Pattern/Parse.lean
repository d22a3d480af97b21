import Lexicon.Text.Alphanumeric
import Lexicon.Text.Pattern.Bracket

/-!
# Reading patterns

The written form of patterns. Most characters stand for themselves; a point stands for any
character, brackets hold a set of characters, a circumflex and a dollar sign stand for the ends of
the text, a bar divides alternatives, parentheses group, and `*`, `+` and `?` repeat what stands
before them, reluctantly if one more `?` follows. Flags in parentheses hold up to the end of the
group, or for the group that they open.

A repetition, a group, several alternatives and several parts are one level deeper than what they
hold, and a pattern may have 250 levels.

* `Pattern.step` — reads one part of a pattern;
* `Pattern.parse` — reads a pattern, `none` if the text is not one.
-/

namespace Lexicon.Pattern

/-- A part of an alternative. -/
structure Part extends Nested Pattern where
  /-- Whether it may be repeated. Flags may not. -/
  repeatable : Bool := true
deriving DecidableEq, Repr

/-- A group that is open. -/
structure Group where
  flags : Flags := {}
  /-- The alternatives that are complete, the latest first. -/
  alternatives : List (Nested Pattern) := []
  /-- The parts of the alternative that is not, the latest first. -/
  parts : List Part := []
deriving DecidableEq, Repr

namespace Group

def add (group : Group) (pattern : Pattern) (depth : Nat) : Group :=
  { group with parts := { value := pattern, depth } :: group.parts }

/-- Changes the flags for what follows. -/
def change (group : Group) (flags : Flags) : Group :=
  { group with flags, parts := { value := .empty, repeatable := false } :: group.parts }

/-- The alternative that is not complete. -/
def alternative (group : Group) : Nested Pattern :=
  { value := sequence (group.parts.reverse.map (·.value))
    depth := depthOf (group.parts.map (·.depth)) }

def divide (group : Group) : Group :=
  { group with alternatives := group.alternative :: group.alternatives, parts := [] }

def content (group : Group) : Nested Pattern :=
  let alternatives := group.divide.alternatives
  { value := choice (alternatives.reverse.map (·.value))
    depth := depthOf (alternatives.map (·.depth)) }

def repeat? (group : Group) (times : Times) (eager : Bool) : Option Group :=
  match group.parts with
  | [] => none
  | part :: parts =>
    if part.repeatable then
      let pattern := .repeated times (eager != group.flags.reluctant) part.value
      some ({ group with parts }.add pattern (part.depth + 1))
    else none

end Group

/-- How far a pattern is read. -/
structure Progress where
  /-- The groups around the open one, the innermost first. -/
  outer : List Group := []
  group : Group := {}
  names : List (List Char) := []
deriving DecidableEq, Repr

namespace Progress

def enter (progress : Progress) (flags : Flags) : Progress :=
  { progress with outer := progress.group :: progress.outer, group := { flags } }

/-- Goes on in a new group with a name, which no other group has. -/
def enterNamed? (progress : Progress) (name : List Char) : Option Progress :=
  if progress.names.contains name then none
  else some { progress.enter progress.group.flags with names := name :: progress.names }

/-- Goes on behind the open group. -/
def leave? (progress : Progress) : Option Progress :=
  match progress.outer with
  | [] => none
  | parent :: outer =>
    let content := progress.group.content
    some { progress with outer, group := parent.add content.value (content.depth + 1) }

def add (progress : Progress) (pattern : Pattern) (depth : Nat := 0) : Progress :=
  { progress with group := progress.group.add pattern depth }

end Progress

/-! ### Parts -/

/-- The pattern of a character that stands for itself. -/
def literal? (flags : Flags) (c : Char) : Option Pattern :=
  if flags.knowsCases then some (.one (Bracket.fold flags (.single c))) else none

/-- The pattern of what stands behind a backslash. -/
def escaped? (flags : Flags) : Escape → Option Pattern
  | .char c => literal? flags c
  | .set members => some (.one members)
  | .check look => some (.check look)

/-- The repetition that a character asks for. -/
def times? (c : Char) : Option Times :=
  if c = '*' then some .star
  else if c = '+' then some .plus
  else if c = '?' then some .optional
  else none

/-- The pattern of a character that is no bracket, parenthesis, bar, backslash or repetition. A
brace would open a count, which is not known, and a point takes characters of all scripts. -/
def ofChar? (flags : Flags) (c : Char) : Option Pattern :=
  if c = '.' then if flags.unicode then some (.one .all) else none
  else if c = '^' then some (.check .start)
  else if c = '$' then some (.check .finish)
  else if c = '\x7b' then none
  else literal? flags c

/-! ### Groups -/

/-- Whether a text is a name for a group. -/
def isName : List Char → Bool
  | [] => false
  | c :: rest =>
    (c == '_' || Alphanumeric.isLetter c)
      && rest.all fun c => "_.[]".toList.contains c || Alphanumeric.isAlphanumeric c

/-- Reads the name of a group up to an angle. -/
def groupName : Reader (List Char) := do
  let name ← Reader.takeWhile (· != '>')
  guard (isName name)
  guard (← Reader.takes ['>'])
  return name

/-- Reads flags up to a parenthesis, behind which they hold, or up to a colon, behind which a group
begins. -/
def remark (progress : Progress) : Reader Progress := do
  let letters ← Reader.takeWhile fun c => c != ')' && c != ':'
  let flags ← liftM (progress.group.flags.set? letters)
  if (← Reader.next) = ':' then return progress.enter flags
  else
    guard !letters.isEmpty
    return { progress with group := progress.group.change flags }

/-- Reads what stands behind an opening parenthesis. -/
def opening (progress : Progress) : Reader Progress := do
  progress.group.flags.skip
  if ← Reader.takes "?P<".toList then liftM (progress.enterNamed? (← groupName))
  else if ← Reader.takes "?<".toList then liftM (progress.enterNamed? (← groupName))
  else if ← Reader.takes ['?'] then remark progress
  else return progress.enter progress.group.flags

/-! ### Patterns -/

/-- Reads one part of a pattern, behind which it goes on, or the end of it. -/
def step (progress : Progress) : Reader (Progress ⊕ Nested Pattern) := do
  let flags := progress.group.flags
  flags.skip
  if (← Reader.peek).isNone then
    guard progress.outer.isEmpty
    return .inr progress.group.content
  let c ← Reader.next
  match times? c with
  | some times =>
    let reluctant ← Reader.takes ['?']
    return .inl { progress with group := ← liftM (progress.group.repeat? times !reluctant) }
  | none =>
    if c = '(' then return .inl (← opening progress)
    else if c = ')' then return .inl (← liftM progress.leave?)
    else if c = '|' then return .inl { progress with group := progress.group.divide }
    else if c = '[' then
      let set ← Bracket.read flags
      return .inl (progress.add (.one set.value) set.depth)
    else if c = '\\' then
      return .inl (progress.add (← liftM (escaped? flags (← Escape.read flags))))
    else return .inl (progress.add (← liftM (ofChar? flags c)))

/-- How many levels a pattern may have. -/
def depthLimit : Nat := 250

def parse (text : List Char) : Option Pattern := do
  let (pattern, _) ← Reader.loop step {} text
  guard (pattern.depth ≤ depthLimit)
  return pattern.value

end Lexicon.Pattern
