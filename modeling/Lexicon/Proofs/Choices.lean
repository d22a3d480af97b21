import Lexicon.CommandLine.Tokens
import Mathlib.Data.List.Nodup

/-!
# Choices of options

What a line of `tokens` can ask for, apart from how it is spelt. Choices are made one after the
other, each about an option of its own; the options that come out in the end do not depend on their
order.

* `Tokens.Choice.Describe` — the options that some choices amount to, said without the reader;
* `Tokens.Progress.take?` — one choice more, unless its option has been used;
* `Tokens.Choice.Made.of_take?`, `Tokens.Choice.Made.of_foldlM` — what is known after one choice and
  after many;
* `Tokens.Choice.Made.exists_foldlM` — choices about different options can all be made.
-/

namespace Lexicon.Tokens

/-- What a line of `tokens` can ask for. -/
inductive Choice where
  | noLexemes
  | noHeader
  | format (format : Format)
deriving DecidableEq, Repr

namespace Choice

/-- The option that a choice is about. -/
def flag : Choice → Flag
  | .noLexemes => .noLexemes
  | .noHeader => .noHeader
  | .format _ => .format

/-- The format that a choice gives, if it gives one. -/
def format? : Choice → Option Format
  | .format chosen => some chosen
  | _ => none

/-- `Describe choices options`: the options are what the choices say, and otherwise as they are
without any choice. -/
structure Describe (choices : List Choice) (options : TokensOptions) : Prop where
  format : ∀ chosen, options.format = some chosen ↔ .format chosen ∈ choices
  noLexemes : options.noLexemes = true ↔ .noLexemes ∈ choices
  noHeader : options.noHeader = true ↔ .noHeader ∈ choices

/-- Choices describe one record of options only. -/
theorem Describe.unique {choices : List Choice} {a b : TokensOptions} (first : Describe choices a)
    (second : Describe choices b) : a = b := by
  have format : a.format = b.format :=
    Option.ext fun chosen => (first.format chosen).trans (second.format chosen).symm
  have noLexemes : a.noLexemes = b.noLexemes :=
    Bool.eq_iff_iff.mpr (first.noLexemes.trans second.noLexemes.symm)
  have noHeader : a.noHeader = b.noHeader :=
    Bool.eq_iff_iff.mpr (first.noHeader.trans second.noHeader.symm)
  cases a
  cases b
  simp only [TokensOptions.mk.injEq]
  exact ⟨format, noLexemes, noHeader⟩

theorem Describe.of_perm {choices others : List Choice} (same : choices.Perm others)
    {options : TokensOptions} (described : Describe choices options) : Describe others options where
  format chosen := (described.format chosen).trans same.mem_iff
  noLexemes := described.noLexemes.trans same.mem_iff
  noHeader := described.noHeader.trans same.mem_iff

/-- The order of choices does not matter. -/
theorem describe_perm {choices others : List Choice} (same : choices.Perm others)
    {options : TokensOptions} : Describe choices options ↔ Describe others options :=
  ⟨.of_perm same, .of_perm same.symm⟩

/-- An option without a value is used by its choice only. -/
theorem flag_mem_map_iff (choice : Choice) (valueless : choice.format? = none)
    {choices : List Choice} : choice.flag ∈ choices.map flag ↔ choice ∈ choices := by
  constructor
  · intro used
    obtain ⟨other, member, same⟩ := List.mem_map.mp used
    obtain rfl : other = choice := by
      cases choice <;> cases other <;> simp_all [flag, format?]
    exact member
  · exact List.mem_map_of_mem

end Choice

/-! ### Making choices -/

/-- What has been read once a choice is made, unless one about the same option was made before. -/
def Progress.take? (progress : Progress) (choice : Choice) : Option Progress :=
  if choice.flag ∈ progress.used then none
  else some { progress with
    used := progress.used ++ [choice.flag]
    format := choice.format?.or progress.format }

variable {progress next final : Progress}

theorem pending_of_take? {choice : Choice} (taken : progress.take? choice = some next) :
    next.pending = progress.pending := by
  unfold Progress.take? at taken
  split at taken
  · cases taken
  · cases taken
    rfl

namespace Choice

/-- `Made choices progress`: exactly these choices have been made so far, each about an option of
its own. -/
structure Made (choices : List Choice) (progress : Progress) : Prop where
  used : progress.used = choices.map flag
  once : (choices.map flag).Nodup
  format : ∀ chosen, progress.format = some chosen ↔ .format chosen ∈ choices

theorem made_nil : Made [] {} :=
  ⟨rfl, List.nodup_nil, by simp⟩

/-- What one more choice leads to. -/
theorem Made.of_take? {choices : List Choice} {choice : Choice} (made : Made choices progress)
    (taken : progress.take? choice = some next) : Made (choices ++ [choice]) next := by
  unfold Progress.take? at taken
  split at taken
  · cases taken
  rename_i fresh
  rw [made.used] at fresh
  cases taken
  refine ⟨?_, ?_, ?_⟩
  · rw [List.map_append, made.used]
    rfl
  · rw [List.map_append, List.nodup_append]
    simpa [made.once] using fresh
  · intro chosen
    cases choice with
    | noLexemes => simpa [format?] using made.format chosen
    | noHeader => simpa [format?] using made.format chosen
    | format other =>
      -- There was no choice of a format before, so this one is the only one.
      have first : Choice.format chosen ∉ choices :=
        fun member => fresh (List.mem_map.mpr ⟨_, member, rfl⟩)
      simp [format?, first, eq_comm]

/-- What a list of choices leads to. -/
theorem Made.of_foldlM {before choices : List Choice} (made : Made before progress)
    (run : choices.foldlM Progress.take? progress = some final) :
    Made (before ++ choices) final := by
  induction choices generalizing before progress with
  | nil =>
    cases run
    simpa using made
  | cons choice choices ih =>
    rw [List.foldlM_cons, Option.bind_eq_bind, Option.bind_eq_some_iff] at run
    obtain ⟨next, taken, run⟩ := run
    simpa using ih (made.of_take? taken) run

/-- Choices about different options can be made one after the other. -/
theorem Made.exists_foldlM {before choices : List Choice} (made : Made before progress)
    (once : ((before ++ choices).map flag).Nodup) :
    ∃ final, choices.foldlM Progress.take? progress = some final := by
  induction choices generalizing before progress with
  | nil => exact ⟨progress, rfl⟩
  | cons choice choices ih =>
    have fresh : choice.flag ∉ progress.used := by
      rw [made.used]
      simp only [List.map_append, List.map_cons, List.nodup_append] at once
      exact fun member => once.2.2 _ member _ List.mem_cons_self rfl
    have taken : progress.take? choice = some _ := if_neg fresh
    obtain ⟨final, run⟩ := ih (made.of_take? taken) (by simpa using once)
    refine ⟨final, ?_⟩
    rw [List.foldlM_cons, taken]
    exact run

/-- The options that are read off are those that the choices describe. -/
theorem Made.describe {choices : List Choice} (made : Made choices progress) :
    Describe choices
      { format := progress.format
        noLexemes := progress.used.contains .noLexemes
        noHeader := progress.used.contains .noHeader } := by
  refine ⟨made.format, ?_, ?_⟩
  · rw [List.contains_iff_mem, made.used]
    exact flag_mem_map_iff .noLexemes rfl
  · rw [List.contains_iff_mem, made.used]
    exact flag_mem_map_iff .noHeader rfl

end Choice

end Lexicon.Tokens
