/-!
# Reading text

A reader takes something from the beginning of a text, or fails. Small readers are put together step
by step; `Reader.loop` repeats a step, which ends because the text does.

* `Reader.next`, `Reader.takes`, `Reader.takeWhile` — the small readers;
* `Reader.loop` — repetition, with `Reader.loopWithin_of_done` and `Reader.loopWithin_of_more`.
-/

namespace Lexicon

/-- Takes something from the beginning of a text, or fails. -/
abbrev Reader (α : Type) := StateT (List Char) Option α

namespace Reader

def next : Reader Char := do
  let c :: rest ← get | failure
  set rest
  return c

/-- The next character, if there is one; it is not taken. -/
def peek : Reader (Option Char) := do
  return (← get).head?

/-- Takes a word if the text begins with it, and says whether it does. -/
def takes (word : List Char) : Reader Bool := do
  let text ← get
  let found := word.isPrefixOf text
  if found then set (text.drop word.length)
  return found

/-- Takes the characters up to the first one that fails a test. -/
def takeWhile (test : Char → Bool) : Reader (List Char) := do
  let text ← get
  set (text.dropWhile test)
  return text.takeWhile test

/-- Repeats a step from a state on until it has a result, at most `limit` times. -/
def loopWithin {σ α : Type} (step : σ → Reader (σ ⊕ α)) : (limit : Nat) → σ → Reader α
  | 0, _ => failure
  | limit + 1, state => do
    match ← step state with
    | .inl state => loopWithin step limit state
    | .inr result => return result

/-- Repeats a step from a state on until it has a result. A step without a result takes at least one
character, so that there are no more such steps than characters. -/
def loop {σ α : Type} (step : σ → Reader (σ ⊕ α)) (state : σ) : Reader α := do
  loopWithin step ((← get).length + 1) state

section Loop

variable {σ α : Type} {step : σ → Reader (σ ⊕ α)} {state : σ} {text rest : List Char}

theorem loopWithin_of_done {result : α} (limit : Nat)
    (h : step state text = some (.inr result, rest)) :
    loopWithin step (limit + 1) state text = some (result, rest) := by
  simp [loopWithin, bind, StateT.bind, h]
  rfl

theorem loopWithin_of_more {state' : σ} (limit : Nat)
    (h : step state text = some (.inl state', rest)) :
    loopWithin step (limit + 1) state text = loopWithin step limit state' rest := by
  simp [loopWithin, bind, StateT.bind, h]

end Loop

end Reader

end Lexicon
