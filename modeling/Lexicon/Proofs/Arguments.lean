import Lexicon.CommandLine.Argument
import Mathlib.Data.List.TakeWhile

/-!
# What arguments look like

`Argument.shape` sorts byte strings by their first bytes and, for long flags, by their first equals
sign. `Argument.shape_cases` says once what the four shapes are; the rest follows from it.

* `Argument.separator`, `Argument.shape_eq_separator_iff` — the argument `--` and no other;
* `Argument.shape_eq_word_iff` — what begins with a dash is no word, a single dash apart;
* `Argument.longArgument`, `Argument.eq_longArgument_of_shape` — a long flag is spelt by its name
  and its attached value in one way only.
-/

namespace Lexicon.Argument

/-- The argument behind which there are values only. -/
def separator : Bytes := Utf8.encode "--"

theorem separator_eq : separator = [dash, dash] := by
  decide

theorem shape_of_ne_dash {first : UInt8} (other : first ≠ dash) (rest : Bytes) :
    shape (first :: rest) = .word := by
  cases rest with
  | nil => rfl
  | cons second rest => simp [shape, other]

theorem shape_dash {second : UInt8} (other : second ≠ dash) (rest : Bytes) :
    shape (dash :: second :: rest) = .short (second :: rest) := by
  simp [shape, other]

/-- The four shapes of an argument. -/
theorem shape_cases (argument : Bytes) :
    (argument = separator ∧ shape argument = .separator) ∨
      (∃ body, argument = dash :: dash :: body ∧ shape argument = longShape body) ∨
      (∃ second rest, argument = dash :: second :: rest ∧
        shape argument = .short (second :: rest)) ∨
      ((argument.head? = some dash → argument = [dash]) ∧ shape argument = .word) := by
  rw [separator_eq]
  cases argument with
  | nil => exact .inr (.inr (.inr ⟨by simp, rfl⟩))
  | cons first rest =>
    by_cases hfirst : first = dash
    · subst hfirst
      cases rest with
      | nil => exact .inr (.inr (.inr ⟨by simp, rfl⟩))
      | cons second rest =>
        by_cases hsecond : second = dash
        · subst hsecond
          cases rest with
          | nil => exact .inl ⟨rfl, rfl⟩
          | cons third rest =>
            exact .inr (.inl ⟨third :: rest, rfl, by simp [shape]⟩)
        · exact .inr (.inr (.inl ⟨second, rest, rfl, shape_dash hsecond rest⟩))
    · exact .inr (.inr (.inr ⟨by simp [hfirst], shape_of_ne_dash hfirst rest⟩))

theorem shape_eq_separator_iff {argument : Bytes} :
    shape argument = .separator ↔ argument = separator := by
  constructor
  · intro separator
    rcases shape_cases argument with ⟨same, -⟩ | ⟨body, -, shape⟩ | ⟨second, rest, -, shape⟩ |
      ⟨-, shape⟩
    · exact same
    · cases shape.symm.trans separator
    · cases shape.symm.trans separator
    · cases shape.symm.trans separator
  · rintro rfl
    rfl

/-- A word does not begin with a dash, unless it is a single dash. -/
theorem shape_eq_word_iff {argument : Bytes} :
    shape argument = .word ↔ (argument.head? = some dash → argument = [dash]) := by
  rcases shape_cases argument with ⟨same, shape⟩ | ⟨body, rfl, shape⟩ |
    ⟨second, rest, rfl, shape⟩ | ⟨word, shape⟩
  · rw [shape, same, separator_eq]
    simp
  · simp [shape, longShape]
  · simp [shape]
  · exact iff_of_true shape word

/-! ### Long flags -/

/-- The argument that gives a long flag, with the value that is attached to it if there is one. -/
def longArgument (name : Bytes) : Option Bytes → Bytes
  | none => dash :: dash :: name
  | some value => dash :: dash :: (name ++ equalsSign :: value)

/-- The parts that a long flag is taken into, put together again, are the flag. -/
theorem eq_longArgument_of_longShape {body name : Bytes} {value : Option Bytes}
    (shape : longShape body = .long name value) :
    dash :: dash :: body = longArgument name value := by
  obtain ⟨rfl, rfl⟩ := Shape.long.inj shape
  have whole := List.takeWhile_append_dropWhile (p := (· != equalsSign)) (l := body)
  split
  · rename_i all
    rw [all, List.append_nil] at whole
    rw [longArgument, whole]
  · rename_i first value found
    have stops := List.head_dropWhile_not (p := (· != equalsSign)) (l := body) (by simp [found])
    obtain rfl : first = equalsSign := by simpa [found] using stops
    rw [found] at whole
    rw [longArgument, whole]

/-- A long flag is spelt by its name and its attached value in one way only. -/
theorem eq_longArgument_of_shape {argument name : Bytes} {value : Option Bytes}
    (long : shape argument = .long name value) : argument = longArgument name value := by
  rcases shape_cases argument with ⟨-, shape⟩ | ⟨body, rfl, shape⟩ |
    ⟨second, rest, -, shape⟩ | ⟨-, shape⟩
  · cases shape.symm.trans long
  · exact eq_longArgument_of_longShape (shape.symm.trans long)
  · cases shape.symm.trans long
  · cases shape.symm.trans long

/-- A topic finds a flag by its word. -/
theorem eq_encode_word_of_flag? {topic : Topic} {name : Bytes} {flag : Flag}
    (found : flag? topic name = some flag) : name = Utf8.encode flag.word := by
  have same := List.find?_some found
  rw [beq_iff_eq] at same
  exact same.symm

end Lexicon.Argument
