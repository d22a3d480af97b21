import Lexicon.Kind

/-!
# The registry of token kinds

One record per kind: its name, group, fixed spelling, description and provenance. The table is in
ordinal order, which is why `Kind.info` may look a kind up by its position.

* `Kind.info_kind` and `Kind.info_name` — the record found for a kind is that kind's own record;
* `Kind.ofName?`, `Kind.ofLexeme?` — the first record with a given name or fixed spelling.

Both look-ups compare exactly: case matters and nothing is trimmed.
-/

namespace Lexicon

/-- Broad groups of kinds, for documents and reports only. -/
inductive Group where
  | special
  | trivia
  | keyword
  | delimiter
  | separator
  | literal
deriving DecidableEq, Repr

def Group.label : Group → String
  | .special => "special"
  | .trivia => "trivia"
  | .keyword => "keyword"
  | .delimiter => "delimiter"
  | .separator => "separator"
  | .literal => "literal"

/-- Where a kind stands in its life cycle. -/
inductive Stability where
  | stable
  | draft
  | deprecated
deriving DecidableEq, Repr

def Stability.label : Stability → String
  | .stable => "stable"
  | .draft => "draft"
  | .deprecated => "deprecated"

/-- The first released version of the vocabulary. -/
def firstRelease : String := "0.1.0"

/-- What the registry records about a kind. -/
structure Info where
  kind : Kind
  name : String
  group : Group
  /-- Its fixed spelling in source text, if it has one. -/
  lexeme : Option String
  /-- One sentence on its meaning. -/
  description : String
  since : String := firstRelease
  stability : Stability := .stable
deriving DecidableEq, Repr

/-- The registry: one record per kind, in ordinal order. -/
def registry : List Info :=
  [ { kind := .eof, name := "EOF", group := .special, lexeme := none,
      description := "End of input." },
    { kind := .unknown, name := "UNKNOWN", group := .special, lexeme := none,
      description := "A character the scanner does not recognize." },
    { kind := .invalid, name := "INVALID", group := .special, lexeme := none,
      description := "A recognized but malformed lexeme." },
    { kind := .whitespace, name := "WHITESPACE", group := .trivia, lexeme := some " ",
      description := "A run of spaces." },
    { kind := .tab, name := "TAB", group := .trivia, lexeme := some "\t",
      description := "A tab character." },
    { kind := .newline, name := "NEWLINE", group := .trivia, lexeme := some "\n",
      description := "A line break; also terminates statements." },
    { kind := .var, name := "VAR", group := .keyword, lexeme := some "var",
      description := "Variable declaration keyword." },
    { kind := .fn, name := "FN", group := .keyword, lexeme := some "fn",
      description := "Function declaration keyword." },
    { kind := .lparen, name := "LPAREN", group := .delimiter, lexeme := some "(",
      description := "Opening parenthesis." },
    { kind := .rparen, name := "RPAREN", group := .delimiter, lexeme := some ")",
      description := "Closing parenthesis." },
    { kind := .lbrace, name := "LBRACE", group := .delimiter, lexeme := some "\x7b",
      description := "Opening brace." },
    { kind := .rbrace, name := "RBRACE", group := .delimiter, lexeme := some "\x7d",
      description := "Closing brace." },
    { kind := .semicolon, name := "SEMICOLON", group := .separator, lexeme := some ";",
      description := "Statement terminator." },
    { kind := .dot, name := "DOT", group := .separator, lexeme := some ".",
      description := "Member access." },
    { kind := .comma, name := "COMMA", group := .separator, lexeme := some ",",
      description := "List separator." },
    { kind := .colon, name := "COLON", group := .separator, lexeme := some ":",
      description := "Type annotation marker." },
    { kind := .equals, name := "EQUALS", group := .separator, lexeme := some "=",
      description := "Assignment." },
    { kind := .ident, name := "IDENT", group := .literal, lexeme := none,
      description := "An identifier." },
    { kind := .num, name := "NUM", group := .literal, lexeme := none,
      description := "A numeric literal." } ]

namespace Kind

/-- The place of a kind in the registry, counted from zero. -/
def position (kind : Kind) : Nat :=
  kind.ordinal.toInt.toNat

theorem position_lt (kind : Kind) : kind.position < registry.length := by
  cases kind <;> decide

def info (kind : Kind) : Info :=
  registry.get ⟨kind.position, kind.position_lt⟩

def group (kind : Kind) : Group :=
  kind.info.group

def lexeme (kind : Kind) : Option String :=
  kind.info.lexeme

/-- Whether a kind is a space, a tab or a line break. -/
def isTrivia (kind : Kind) : Bool :=
  kind.group == .trivia

/-- Whether a kind is a reserved word. -/
def isKeyword (kind : Kind) : Bool :=
  kind.group == .keyword

/-- Whether a kind is a parenthesis or a brace. -/
def isDelimiter (kind : Kind) : Bool :=
  kind.group == .delimiter

def ofName? (text : String) : Option Kind :=
  (registry.find? fun row => row.name == text).map Info.kind

def ofLexeme? (text : String) : Option Kind :=
  (registry.find? fun row => row.lexeme == some text).map Info.kind

/-! ### The table agrees with the kinds -/

@[simp] theorem info_kind (kind : Kind) : kind.info.kind = kind := by
  cases kind <;> rfl

@[simp] theorem info_name (kind : Kind) : kind.info.name = kind.name := by
  cases kind <;> rfl

theorem map_kind_registry : registry.map Info.kind = all := by
  decide

end Kind

end Lexicon
