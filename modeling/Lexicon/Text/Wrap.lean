import Lexicon.Text.Columns
import Lexicon.Text.Split

/-!
# Wrapped text

First-fit wrapping to a number of columns. A line is broken only between words, where a word is a
run of other characters together with the spaces after it; a word that is wider than a line is
first cut into pieces that fit. Spaces at the end of a line are dropped, all other spaces stay. A
space inside an escape sequence ends no word.

* `Wrap.words` — the words of a line of text; `Wrap.text_words` says that nothing is lost;
* `Wrap.cut` — a word in pieces that fit; `Wrap.text_cut`, `Wrap.width_le_of_mem_cut`;
* `Wrap.fill` — words set into lines; `Wrap.flatten_fill`;
* `Wrap.paragraph` — all of it, with an indent for the first line and one for those after it.
-/

namespace Lexicon.Wrap

/-- A run of characters and the number of spaces after it. Only the first word of a line may have
no characters. -/
structure Word where
  chars : List Char
  spaces : Nat
deriving DecidableEq, Repr

namespace Word

/-- The columns of a word without the spaces after it. -/
def width (word : Word) : Nat :=
  Columns.count word.chars

/-- The columns that a word takes when another follows it. -/
def columns (word : Word) : Nat :=
  word.width + word.spaces

/-- A word with the spaces after it. -/
def text (word : Word) : List Char :=
  word.chars ++ List.replicate word.spaces ' '

end Word

/-- The words of a line of text that is read from a state on. -/
def wordsFrom : Columns.State → List Char → List Word
  | _, [] => []
  | state, c :: rest =>
    match wordsFrom (state.next c) rest with
    | [] => if c = ' ' then [⟨[], 1⟩] else [⟨[c], 0⟩]
    | word :: others =>
      if c ≠ ' ' then ⟨c :: word.chars, word.spaces⟩ :: others
      else if word.chars = [] then ⟨[], word.spaces + 1⟩ :: others
      else if state = .text then ⟨[], 1⟩ :: word :: others
      else ⟨c :: word.chars, word.spaces⟩ :: others

def words (text : List Char) : List Word :=
  wordsFrom .text text

/-- Puts a character before the first of some pieces. -/
def push (c : Char) : List (List Char) → List (List Char)
  | [] => [[c]]
  | piece :: rest => (c :: piece) :: rest

/-- Characters in pieces of at most `width` columns. The reading goes on from a state, and the open
piece has `used` columns already; a character that does not fit opens a new one. -/
def pieces (width : Nat) : Columns.State → Nat → List Char → List (List Char)
  | _, _, [] => [[]]
  | state, used, c :: rest =>
    if 0 < used ∧ width < used + state.columns c then
      [] :: push c (pieces width (state.next c) (state.columns c) rest)
    else push c (pieces width (state.next c) (used + state.columns c) rest)

/-- Pieces as words, with spaces after the last. -/
def spaced (spaces : Nat) : List (List Char) → List Word
  | [] => []
  | [piece] => [⟨piece, spaces⟩]
  | piece :: rest => ⟨piece, 0⟩ :: spaced spaces rest

/-- A word in pieces of at most `width` columns; the spaces stay with the last piece. -/
def cut (width : Nat) (word : Word) : List Word :=
  if word.width ≤ width then [word] else spaced word.spaces (pieces width .text 0 word.chars)

/-- Sets words into lines. `line` holds the words of the open line and `used` its columns; a word
that does not fit opens a new line. -/
def fill (width : Nat) (line : List Word) (used : Nat) : List Word → List (List Word)
  | [] => [line]
  | word :: rest =>
    if width < used + word.width then line :: fill width [word] word.columns rest
    else fill width (line ++ [word]) (used + word.columns) rest

/-- The text of a set line, without the spaces at its end. -/
def lineText : List Word → List Char
  | [] => []
  | [word] => word.chars
  | word :: rest => word.text ++ lineText rest

/-- Wraps a text without line feeds. -/
def wrapLine (width : Nat) (text : List Char) : List (List Char) :=
  (fill width [] 0 ((words text).flatMap (cut width))).map lineText

/-- Puts one indent before the first line and another before all others. -/
def indent (first later : List Char) : List (List Char) → List (List Char)
  | [] => []
  | line :: rest => (first ++ line) :: rest.map (later ++ ·)

/-- Wraps a text to `width` columns beside the indents. Each piece between line feeds is wrapped
on its own. -/
def paragraph (width : Nat) (first later : String) (text : String) : List String :=
  (indent first.toList later.toList
    ((Split.pieces '\n' text.toList).flatMap (wrapLine width))).map String.ofList

/-! ### Nothing is lost -/

theorem text_wordsFrom (state : Columns.State) (text : List Char) :
    (wordsFrom state text).flatMap Word.text = text := by
  induction text generalizing state with
  | nil => rfl
  | cons c rest ih =>
    have ih := ih (state.next c)
    unfold wordsFrom
    split
    · rename_i h
      rw [h] at ih
      simp only [List.flatMap_nil] at ih
      subst ih
      split <;> simp_all [Word.text]
    · rename_i word others h
      rw [h] at ih
      by_cases hc : c = ' '
      · subst hc
        by_cases hw : word.chars = []
        · simp_all [Word.text, List.replicate_succ]
        · by_cases hs : state = .text <;> simp_all [Word.text]
      · simp_all [Word.text]

theorem text_words (text : List Char) : (words text).flatMap Word.text = text :=
  text_wordsFrom .text text

theorem push_ne_nil (c : Char) (texts : List (List Char)) : push c texts ≠ [] := by
  cases texts <;> simp [push]

theorem flatten_push (c : Char) (texts : List (List Char)) :
    (push c texts).flatten = c :: texts.flatten := by
  cases texts <;> simp [push]

theorem pieces_ne_nil (width : Nat) (state : Columns.State) (used : Nat) (text : List Char) :
    pieces width state used text ≠ [] := by
  cases text with
  | nil => simp [pieces]
  | cons c rest =>
    unfold pieces
    split
    · simp
    · exact push_ne_nil _ _

theorem flatten_pieces (width : Nat) (state : Columns.State) (used : Nat) (text : List Char) :
    (pieces width state used text).flatten = text := by
  induction text generalizing state used with
  | nil => rfl
  | cons c rest ih =>
    unfold pieces
    split <;> simp [flatten_push, ih]

theorem text_spaced {texts : List (List Char)} (hne : texts ≠ []) (spaces : Nat) :
    (spaced spaces texts).flatMap Word.text = texts.flatten ++ List.replicate spaces ' ' := by
  induction texts with
  | nil => exact absurd rfl hne
  | cons piece rest ih =>
    cases rest with
    | nil => simp [spaced, Word.text]
    | cons next others =>
      rw [spaced, List.flatMap_cons, ih (List.cons_ne_nil _ _)]
      · simp [Word.text]
      · simp

theorem text_cut (width : Nat) (word : Word) :
    (cut width word).flatMap Word.text = word.text := by
  unfold cut
  split
  · simp
  · rw [text_spaced (pieces_ne_nil _ _ _ _), flatten_pieces, Word.text]

theorem flatten_fill (width : Nat) (line : List Word) (used : Nat) (rest : List Word) :
    (fill width line used rest).flatten = line ++ rest := by
  induction rest generalizing line used with
  | nil => simp [fill]
  | cons word rest ih =>
    unfold fill
    split <;> simp [ih]

/-! ### Pieces fit -/

/-- Of the pieces, the first fits beside what is used and the others fit alone. -/
theorem pieces_fit {width : Nat} (hwidth : 3 ≤ width) (text : List Char) :
    ∀ (state : Columns.State) (used : Nat), used ≤ width →
      ∃ first others, pieces width state used text = first :: others ∧
        used + Columns.countFrom state first ≤ width ∧
        ∀ piece ∈ others, Columns.count piece ≤ width := by
  induction text with
  | nil => exact fun state used hused => ⟨[], [], rfl, hused, by simp⟩
  | cons c rest ih =>
    intro state used hused
    have hcolumns := Columns.State.columns_le state c
    unfold pieces
    split
    · rename_i hfull
      obtain ⟨first, others, heq, hfirst, hothers⟩ :=
        ih (state.next c) (state.columns c) (by omega)
      have hpos : 0 < state.columns c := by omega
      obtain ⟨rfl, -⟩ := Columns.State.eq_text_of_columns_pos hpos
      refine ⟨[], (c :: first) :: others, by rw [heq, push], by simpa [Columns.countFrom], ?_⟩
      intro piece hmem
      rcases List.mem_cons.1 hmem with rfl | hmem
      · exact hfirst
      · exact hothers piece hmem
    · rename_i hfits
      have hroom : used + state.columns c ≤ width := by
        by_cases hzero : used = 0 <;> omega
      obtain ⟨first, others, heq, hfirst, hothers⟩ := ih (state.next c) _ hroom
      refine ⟨c :: first, others, by rw [heq, push], ?_, hothers⟩
      rw [Columns.countFrom]
      omega

theorem chars_mem_of_mem_spaced {spaces : Nat} {texts : List (List Char)} {word : Word}
    (h : word ∈ spaced spaces texts) : word.chars ∈ texts := by
  induction texts with
  | nil => simp [spaced] at h
  | cons piece rest ih =>
    cases rest with
    | nil =>
      obtain rfl : word = ⟨piece, spaces⟩ := by simpa [spaced] using h
      exact List.mem_cons_self
    | cons next others =>
      rw [spaced] at h
      · rcases List.mem_cons.1 h with rfl | h
        · exact List.mem_cons_self
        · exact List.mem_cons_of_mem _ (ih h)
      · simp

theorem width_le_of_mem_cut {width : Nat} (hwidth : 3 ≤ width) {word piece : Word}
    (h : piece ∈ cut width word) : piece.width ≤ width := by
  unfold cut at h
  split at h
  · rename_i hfits
    obtain rfl : piece = word := by simpa using h
    exact hfits
  · obtain ⟨first, others, heq, hfirst, hothers⟩ :=
      pieces_fit hwidth word.chars .text 0 (Nat.zero_le _)
    have hmem := chars_mem_of_mem_spaced h
    rw [heq] at hmem
    rcases List.mem_cons.1 hmem with hchars | hmem
    · rw [Word.width, hchars, Columns.count]
      omega
    · exact hothers _ hmem

end Lexicon.Wrap
