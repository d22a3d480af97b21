/-!
# Similar words

The Jaro similarity of two words, and the words of a list that are similar enough to a misspelt
one to be suggested in its place.

* `Similarity.jaro` — the similarity, between 0 and 1, as a rounded binary fraction;
* `Similarity.similar` — the similar words by rising similarity, equal ones in their given order;
* `Similarity.closest?` — the last of these.
-/

namespace Lexicon.Similarity

/-- A character of the second word, with its place and whether it has found its partner. -/
structure Mark where
  char : Char
  place : Nat
  taken : Bool := false
deriving DecidableEq, Repr

/-- The characters of a word with their places. -/
def marks (word : List Char) : List Mark :=
  word.zipIdx.map fun (char, place) => { char, place }

/-- Takes the first free equal character within reach of a place, if there is one. -/
def take (reach : Nat) (char : Char) (place : Nat) : List Mark → Option (List Mark)
  | [] => none
  | mark :: rest =>
    if !mark.taken && mark.char == char && place ≤ mark.place + reach && mark.place ≤ place + reach
    then some ({ mark with taken := true } :: rest)
    else (take reach char place rest).map (mark :: ·)

/-- Pairs the characters of the first word, from the left, with characters of the second. The
result is the characters that found a partner and the second word's marks. -/
def pair (reach : Nat) : List Mark → List Mark → List Char × List Mark
  | [], free => ([], free)
  | mark :: rest, free =>
    match take reach mark.char mark.place free with
    | none => pair reach rest free
    | some free =>
      let (paired, free) := pair reach rest free
      (mark.char :: paired, free)

/-- The Jaro similarity of two words: the mean of the paired share of each word and of the share
of pairs that keep their order. -/
def jaro (a b : List Char) : Float :=
  if a.isEmpty && b.isEmpty then 1
  else
    let (paired, free) := pair (max a.length b.length / 2 - 1) (marks a) (marks b)
    if paired.isEmpty then 0
    else
      let partners := (free.filter Mark.taken).map Mark.char
      let crossed := (paired.zip partners).countP (fun (x, y) => x != y) / 2
      let count := paired.length.toFloat
      (count / a.length.toFloat + count / b.length.toFloat
        + (paired.length - crossed).toFloat / count) / 3

/-- Puts a scored word behind all words that do not score higher. -/
def insert (entry : Float × String) : List (Float × String) → List (Float × String)
  | [] => [entry]
  | other :: rest =>
    if other.1 > entry.1 then entry :: other :: rest else other :: insert entry rest

/-- The words whose similarity to a misspelt word is above 0.7, by rising similarity. -/
def similar (misspelt : String) (words : List String) : List String :=
  let scored := words.map fun word => (jaro misspelt.toList word.toList, word)
  ((scored.filter fun entry => entry.1 > 0.7).foldl (fun sorted entry => insert entry sorted)
    []).map Prod.snd

/-- The most similar word, if any is similar. -/
def closest? (misspelt : String) (words : List String) : Option String :=
  (similar misspelt words).getLast?

end Lexicon.Similarity
