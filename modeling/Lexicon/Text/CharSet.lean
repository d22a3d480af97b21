import Lexicon.Text.Ranges

/-!
# Sets of characters

Sets of characters as expressions: ranges and what set algebra makes of them.

* `CharSet.contains` — whether a set holds a character;
* `CharSet.named?` — the sets that go by a name, all of them within ASCII.
-/

namespace Lexicon

inductive CharSet where
  /-- The characters of some ranges. -/
  | listed (ranges : Ranges)
  /-- The characters of a set, and of its ASCII letters the other case as well. -/
  | caseless (set : CharSet)
  /-- All characters but those of a set. -/
  | complement (set : CharSet)
  | union (a b : CharSet)
  | intersection (a b : CharSet)
  | difference (a b : CharSet)
  /-- The characters of one of two sets and not of both. -/
  | symmetricDifference (a b : CharSet)
deriving DecidableEq, Repr

namespace CharSet

def empty : CharSet := .listed []

def all : CharSet := .complement empty

def single (c : Char) : CharSet :=
  .listed [(c.toNat, c.toNat)]

def contains : CharSet → Char → Bool
  | .listed ranges, c => ranges.contains c
  | .caseless set, c => set.contains c || set.contains c.toLower || set.contains c.toUpper
  | .complement set, c => !set.contains c
  | .union a b, c => a.contains c || b.contains c
  | .intersection a b, c => a.contains c && b.contains c
  | .difference a b, c => a.contains c && !b.contains c
  | .symmetricDifference a b, c => a.contains c != b.contains c

/-! ### Named sets -/

def digits : CharSet := .listed [(0x30, 0x39)]

/-- The blanks of ASCII. -/
def blanks : CharSet := .listed [(0x9, 0xD), (0x20, 0x20)]

/-- The characters that words are made of. -/
def wordChars : CharSet := .listed [(0x30, 0x39), (0x41, 0x5A), (0x5F, 0x5F), (0x61, 0x7A)]

/-- The sets that go by a name. -/
def names : List (String × CharSet) :=
  [ ("alnum", .listed [(0x30, 0x39), (0x41, 0x5A), (0x61, 0x7A)]),
    ("alpha", .listed [(0x41, 0x5A), (0x61, 0x7A)]),
    ("ascii", .listed [(0x0, 0x7F)]),
    ("blank", .listed [(0x9, 0x9), (0x20, 0x20)]),
    ("cntrl", .listed [(0x0, 0x1F), (0x7F, 0x7F)]),
    ("digit", digits),
    ("graph", .listed [(0x21, 0x7E)]),
    ("lower", .listed [(0x61, 0x7A)]),
    ("print", .listed [(0x20, 0x7E)]),
    ("punct", .listed [(0x21, 0x2F), (0x3A, 0x40), (0x5B, 0x60), (0x7B, 0x7E)]),
    ("space", blanks),
    ("upper", .listed [(0x41, 0x5A)]),
    ("word", wordChars),
    ("xdigit", .listed [(0x30, 0x39), (0x41, 0x46), (0x61, 0x66)]) ]

def named? (name : List Char) : Option CharSet :=
  names.lookup (String.ofList name)

/-! ### Membership -/

@[simp] theorem contains_empty (c : Char) : empty.contains c = false := rfl

@[simp] theorem contains_all (c : Char) : all.contains c = true := rfl

@[simp] theorem contains_single (a c : Char) : (single a).contains c = (a == c) := by
  rw [Bool.eq_iff_iff]
  simp only [single, contains, Ranges.contains_eq_true_iff, List.mem_singleton, exists_eq_left,
    beq_iff_eq]
  exact ⟨fun h => Char.toNat_inj.1 (Nat.le_antisymm h.1 h.2), by rintro rfl; simp⟩

end CharSet

end Lexicon
