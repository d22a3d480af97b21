/-!
# Token kinds

The closed vocabulary of token kinds, with the three views that never change between releases, each
written down for itself:

* `Kind.ordinal` — the stable number of a kind, a 32-bit signed integer;
* `Kind.name` — its canonical name, in capitals;
* `Kind.ofOrdinal?` — the kind that a number stands for, if there is one.

`Kind.ofOrdinal?_eq_some_iff` says that the last view inverts the first, so a number stands for at
most one kind and every other number stands for none.
-/

namespace Lexicon

/-- The kinds of token, in ordinal order. -/
inductive Kind where
  | eof
  | unknown
  | invalid
  | whitespace
  | tab
  | newline
  | var
  | fn
  | lparen
  | rparen
  | lbrace
  | rbrace
  | semicolon
  | dot
  | comma
  | colon
  | equals
  | ident
  | num
deriving DecidableEq, Repr

namespace Kind

/-- Every kind once, in ordinal order. -/
def all : List Kind :=
  [.eof, .unknown, .invalid, .whitespace, .tab, .newline, .var, .fn, .lparen, .rparen, .lbrace,
    .rbrace, .semicolon, .dot, .comma, .colon, .equals, .ident, .num]

/-- The stable number of a kind. Numbers are never reused. -/
def ordinal : Kind → Int32
  | .eof => 0
  | .unknown => 1
  | .invalid => 2
  | .whitespace => 3
  | .tab => 4
  | .newline => 5
  | .var => 6
  | .fn => 7
  | .lparen => 8
  | .rparen => 9
  | .lbrace => 10
  | .rbrace => 11
  | .semicolon => 12
  | .dot => 13
  | .comma => 14
  | .colon => 15
  | .equals => 16
  | .ident => 17
  | .num => 18

/-- The canonical name of a kind. -/
def name : Kind → String
  | .eof => "EOF"
  | .unknown => "UNKNOWN"
  | .invalid => "INVALID"
  | .whitespace => "WHITESPACE"
  | .tab => "TAB"
  | .newline => "NEWLINE"
  | .var => "VAR"
  | .fn => "FN"
  | .lparen => "LPAREN"
  | .rparen => "RPAREN"
  | .lbrace => "LBRACE"
  | .rbrace => "RBRACE"
  | .semicolon => "SEMICOLON"
  | .dot => "DOT"
  | .comma => "COMMA"
  | .colon => "COLON"
  | .equals => "EQUALS"
  | .ident => "IDENT"
  | .num => "NUM"

/-- The kind that a raw number stands for; numbers outside `0..18` stand for none. -/
def ofOrdinal? (raw : Int32) : Option Kind :=
  match raw.toInt with
  | 0 => some .eof
  | 1 => some .unknown
  | 2 => some .invalid
  | 3 => some .whitespace
  | 4 => some .tab
  | 5 => some .newline
  | 6 => some .var
  | 7 => some .fn
  | 8 => some .lparen
  | 9 => some .rparen
  | 10 => some .lbrace
  | 11 => some .rbrace
  | 12 => some .semicolon
  | 13 => some .dot
  | 14 => some .comma
  | 15 => some .colon
  | 16 => some .equals
  | 17 => some .ident
  | 18 => some .num
  | _ => none

/-! ### Laws of the views -/

theorem mem_all (kind : Kind) : kind ∈ all := by
  cases kind <;> decide

theorem name_injective {a b : Kind} (h : a.name = b.name) : a = b := by
  revert h
  cases a <;> cases b <;> decide

/-- Reading a kind's own number returns the kind. -/
@[simp] theorem ofOrdinal?_ordinal (kind : Kind) : ofOrdinal? kind.ordinal = some kind := by
  cases kind <;> decide

/-- Numbers are not shared, since reading one returns one kind. -/
theorem ordinal_injective {a b : Kind} (same : a.ordinal = b.ordinal) : a = b := by
  have read := ofOrdinal?_ordinal a
  rw [same, ofOrdinal?_ordinal] at read
  exact (Option.some.inj read).symm

/-- A number that is read as a kind is the kind's own number. -/
theorem ordinal_of_ofOrdinal? {raw : Int32} {kind : Kind} (found : ofOrdinal? raw = some kind) :
    kind.ordinal = raw := by
  rw [← Int32.toInt_inj]
  unfold ofOrdinal? at found
  -- One case for each number that has a kind, and one for all others, where nothing is found.
  split at found
  all_goals cases found
  all_goals
    rename_i number
    rw [number]
    rfl

/-- A number stands for a kind exactly when it is that kind's number. -/
theorem ofOrdinal?_eq_some_iff {raw : Int32} {kind : Kind} :
    ofOrdinal? raw = some kind ↔ kind.ordinal = raw := by
  constructor
  · exact ordinal_of_ofOrdinal?
  · rintro rfl
    exact ofOrdinal?_ordinal kind

end Kind

end Lexicon
