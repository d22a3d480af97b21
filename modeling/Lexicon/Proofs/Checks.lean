import Mathlib.Data.List.Forall2

/-!
# Checks that have passed

The readers of the program are chains of checks, each of which may fail. What is known when a chain
has passed is what each of its checks has found.

* `Check.bind_eq_ok_iff`, `Check.map_eq_ok_iff` — one check and what is done with its finding;
* `Check.mapM_eq_ok_iff` — one check made on every element of a list.
-/

namespace Lexicon.Check

variable {ε α β : Type}

theorem bind_eq_ok_iff {x : Except ε α} {f : α → Except ε β} {b : β} :
    x >>= f = .ok b ↔ ∃ a, x = .ok a ∧ f a = .ok b := by
  cases x with
  | error e => simp [bind, Except.bind]
  | ok a => simp [bind, Except.bind]

theorem map_eq_ok_iff {x : Except ε α} {f : α → β} {b : β} :
    x.map f = .ok b ↔ ∃ a, x = .ok a ∧ f a = b := by
  cases x with
  | error e => simp [Except.map]
  | ok a => simp [Except.map]

/-- A check on every element passes if it passes on each, and the findings are in order. -/
theorem mapM_eq_ok_iff {f : α → Except ε β} {items : List α} {found : List β} :
    items.mapM f = .ok found ↔ List.Forall₂ (fun item b => f item = .ok b) items found := by
  induction items generalizing found with
  | nil => cases found <;> simp [pure, Except.pure]
  | cons item items ih =>
    simp only [List.mapM_cons, bind_eq_ok_iff, ih, List.forall₂_cons_left_iff]
    constructor
    · rintro ⟨b, passed, rest, others, same⟩
      exact ⟨b, rest, passed, others, (Except.ok.inj same).symm⟩
    · rintro ⟨b, rest, passed, others, rfl⟩
      exact ⟨b, passed, rest, others, rfl⟩

end Lexicon.Check
