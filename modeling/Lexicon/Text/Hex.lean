/-!
# Hexadecimal digits

* `Hex.digit?` — the value of a digit, whose letters may be of either case;
* `Hex.digit?_digitChar` — the digits that numbers are printed with have their values.
-/

namespace Lexicon.Hex

def digit? (c : Char) : Option Nat :=
  if c.isDigit then some (c.toNat - '0'.toNat)
  else if 'a' ≤ c ∧ c ≤ 'f' then some (c.toNat - 'a'.toNat + 10)
  else if 'A' ≤ c ∧ c ≤ 'F' then some (c.toNat - 'A'.toNat + 10)
  else none

theorem digit?_digitChar {value : Nat} (small : value < 16) :
    digit? value.digitChar = some value := by
  have all : ∀ value < 16, digit? value.digitChar = some value := by decide
  exact all value small

end Lexicon.Hex
