import Lexicon.Text.Pattern.Escape

/-!
# Sets in brackets

Brackets hold a set of characters: single ones, ranges, sets by name, and brackets again. A
circumflex behind the opening bracket takes the complement. Between the members may stand an
operator, whose operands are all members to the left of it and those up to the next operator.

A bracket is one level deeper than what it holds, and so are several members than one, and an
operator than its operands.

* `Bracket.read` — reads a set behind its opening bracket.
-/

namespace Lexicon.Pattern

/-- Something with how deep it is nested. -/
structure Nested (α : Type) where
  value : α
  depth : Nat := 0
deriving DecidableEq, Repr

/-- How deep parts are nested together: one by itself as deep as it is, and several one level deeper
than the deepest. -/
def depthOf : List Nat → Nat
  | [] => 0
  | [depth] => depth
  | depths => depths.foldl max 0 + 1

/-- The operators between sets of characters. -/
inductive SetOperator where
  | intersection
  | difference
  | symmetricDifference
deriving DecidableEq, Repr

namespace SetOperator

/-- The set that an operator makes of two. -/
def apply : SetOperator → CharSet → CharSet → CharSet
  | .intersection, a, b => .intersection a b
  | .difference, a, b => .difference a b
  | .symmetricDifference, a, b => .symmetricDifference a b

end SetOperator

/-- A bracket that is open. -/
structure Bracket where
  negated : Bool
  /-- Whether nothing but dashes was read. -/
  fresh : Bool := true
  /-- The members since the last operator, the latest first. -/
  members : List (Nested CharSet) := []
  /-- The last operator and what stands to the left of it. -/
  operation : Option (SetOperator × Nested CharSet) := none
deriving DecidableEq, Repr

namespace Bracket

/-- A set with both cases of its letters, if case does not count. -/
def fold (flags : Flags) (set : CharSet) : CharSet :=
  if flags.caseless then .caseless set else set

def add (bracket : Bracket) (member : Nested CharSet) : Bracket :=
  { bracket with fresh := false, members := member :: bracket.members }

/-- The members since the last operator, as one set. -/
def union (bracket : Bracket) : Nested CharSet :=
  { value := bracket.members.foldr (fun member set => .union set member.value) .empty
    depth := depthOf (bracket.members.map Nested.depth) }

/-- The set of a bracket, before any complement. -/
def content (flags : Flags) (bracket : Bracket) : Nested CharSet :=
  match bracket.operation with
  | none => bracket.union
  | some (operator, left) =>
    let right := bracket.union
    { value := operator.apply (fold flags left.value) (fold flags right.value)
      depth := max left.depth right.depth + 1 }

/-- Goes on behind an operator. -/
def operate (flags : Flags) (bracket : Bracket) (operator : SetOperator) : Bracket :=
  { bracket with
    fresh := false
    members := []
    operation := some (operator, bracket.content flags) }

/-- A set under some flags, or its complement. A set for ASCII must keep within it: made of
characters of ASCII, it holds either all or none of the others. -/
def closed? (flags : Flags) (negated : Bool) (set : CharSet) : Option CharSet :=
  let folded := fold flags set
  let result := if negated then .complement folded else folded
  if flags.unicode || !result.contains '\x80' then some result else none

/-- The set of a bracket that closes. -/
def close? (flags : Flags) (bracket : Bracket) : Option (Nested CharSet) := do
  let content := bracket.content flags
  return { value := ← closed? flags bracket.negated content.value, depth := content.depth + 1 }

/-! ### Members -/

/-- Whether a character may be a member under some flags. -/
def mayHold (flags : Flags) (c : Char) : Bool :=
  flags.knowsCases && (flags.unicode || c.toNat < 0x80)

/-- The set of the characters between two. -/
def range? (flags : Flags) (low high : Char) : Option CharSet :=
  if mayHold flags low && mayHold flags high && low ≤ high then
    some (.listed [(low.toNat, high.toNat)])
  else none

/-- Reads a character of a member, or what stands behind a backslash. -/
def element (flags : Flags) : Reader Escape := do
  let c ← Reader.next
  if c = '\\' then Escape.read flags else return .char c

/-- The character behind a dash that tells whether the dash makes a range. Blanks have no meaning
before it, and of a comment the number sign only. -/
def behindDash? (flags : Flags) (rest : List Char) : Option Char :=
  if flags.spaced then
    match rest.dropWhile Blank.isBlank with
    | '#' :: rest => (rest.dropWhile Blank.isBlank).head?
    | rest => rest.head?
  else rest.head?

/-- Whether a text goes on with the dash of a range. A dash before a closing bracket stands for
itself, and two dashes are an operator. -/
def isRange (flags : Flags) : List Char → Bool
  | '-' :: rest => behindDash? flags rest != some ']' && behindDash? flags rest != some '-'
  | _ => false

/-- Reads a member: a character, a set behind a backslash, or a range of characters. -/
def member (flags : Flags) : Reader CharSet := do
  let first ← element flags
  flags.skip
  if isRange flags (← get) then
    let _ ← Reader.next
    flags.skip
    match first, ← element flags with
    | .char low, .char high => liftM (range? flags low high)
    | _, _ => failure
  else match first with
    | .char c => liftM (range? flags c c)
    | .set members => return members
    | .check _ => failure

/-- Reads the name of a set between colons, behind a bracket and up to the next one. -/
def name : Reader (Bool × CharSet) := do
  guard (← Reader.takes [':'])
  let negated ← Reader.takes ['^']
  let name ← Reader.takeWhile (· != ':')
  guard (← Reader.takes [':', ']'])
  return (negated, ← liftM (CharSet.named? name))

/-! ### Brackets -/

/-- Reads the beginning of a bracket. -/
def opening (flags : Flags) : Reader Bracket := do
  flags.skip
  return { negated := ← Reader.takes ['^'] }

/-- Whether a character stands for itself because it is at the beginning of a bracket: a dash does,
and a closing bracket if nothing stands before it. -/
def isFirst (bracket : Bracket) (c : Char) : Bool :=
  bracket.fresh && (c == '-' || c == ']' && bracket.members.isEmpty)

/-- Reads a character that stands for itself at the beginning of a bracket only. -/
def first (flags : Flags) (bracket : Bracket) : Reader Bracket := do
  let c ← Reader.next
  let set ← liftM (range? flags c c)
  return { bracket.add { value := set } with fresh := c == '-' }

/-- Reads what stands behind a bracket inside of brackets: the name of a set, or a bracket. -/
def inner (flags : Flags) : Reader (Nested CharSet ⊕ Bracket) := do
  match ← (some <$> name) <|> return none with
  | some (negated, set) =>
    guard flags.knowsCases
    return .inl { value := ← liftM (closed? flags negated set) }
  | none => return .inr (← opening flags)

def operator? : Reader (Option SetOperator) := do
  if ← Reader.takes ['&', '&'] then return some .intersection
  else if ← Reader.takes ['-', '-'] then return some .difference
  else if ← Reader.takes ['~', '~'] then return some .symmetricDifference
  else return none

/-- Reads on in a bracket, which may stand in others, the innermost first. -/
def step (flags : Flags) (outer : List Bracket) (bracket : Bracket) :
    Reader ((List Bracket × Bracket) ⊕ Nested CharSet) := do
  flags.skip
  if (← Reader.peek).any bracket.isFirst then return .inl (outer, ← first flags bracket)
  else if ← Reader.takes [']'] then
    let set ← liftM (bracket.close? flags)
    match outer with
    | [] => return .inr set
    | parent :: outer => return .inl (outer, parent.add set)
  else if ← Reader.takes ['['] then
    match ← inner flags with
    | .inl set => return .inl (outer, bracket.add set)
    | .inr opened => return .inl (bracket :: outer, opened)
  else match ← operator? with
    | some operator => return .inl (outer, bracket.operate flags operator)
    | none => return .inl (outer, bracket.add { value := ← member flags })

/-- Reads a set behind its opening bracket. -/
def read (flags : Flags) : Reader (Nested CharSet) := do
  let bracket ← opening flags
  Reader.loop (fun (outer, bracket) => step flags outer bracket) ([], bracket)

end Bracket

end Lexicon.Pattern
