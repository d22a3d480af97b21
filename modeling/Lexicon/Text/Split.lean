/-!
# Pieces of a text

* `Split.pieces` — the pieces of a text between the places where a separator stands; there is
  always at least one;
* `Split.join_pieces` — the pieces, joined by the separator, are the text;
* `Split.pieces_append_separator`, `Split.pieces_intercalate` — a separator between texts separates
  their pieces;
* `Split.on` — the same for a separator of several characters, with `Split.on_join`.
-/

namespace Lexicon.Split

/-- The pieces of a text between its separators. -/
def pieces (separator : Char) : List Char → List (List Char)
  | [] => [[]]
  | c :: rest =>
    if c = separator then [] :: pieces separator rest
    else match pieces separator rest with
      | [] => [[c]]
      | piece :: others => (c :: piece) :: others

theorem pieces_ne_nil (separator : Char) (text : List Char) : pieces separator text ≠ [] := by
  cases text with
  | nil => simp [pieces]
  | cons c rest =>
    unfold pieces
    split
    · simp
    · split <;> simp

/-- Joining the pieces by the separator gives the text back. -/
theorem join_pieces (separator : Char) (text : List Char) :
    List.intercalate [separator] (pieces separator text) = text := by
  induction text with
  | nil => rfl
  | cons c rest ih =>
    unfold pieces
    cases h : pieces separator rest with
    | nil => exact absurd h (pieces_ne_nil separator rest)
    | cons piece others =>
      rw [h] at ih
      by_cases hc : c = separator
      · subst hc
        rw [← ih]
        simp [List.intercalate]
      · rw [if_neg hc, ← ih]
        cases others <;> simp [List.intercalate, List.intersperse]

theorem pieces_of_not_mem {separator : Char} {text : List Char} (absent : separator ∉ text) :
    pieces separator text = [text] := by
  induction text with
  | nil => rfl
  | cons c rest ih =>
    rw [List.mem_cons, not_or] at absent
    rw [pieces, if_neg (Ne.symm absent.1), ih absent.2]

theorem separator_not_mem_of_mem_pieces {separator : Char} {text : List Char} :
    ∀ piece ∈ pieces separator text, separator ∉ piece := by
  induction text with
  | nil => simp [pieces]
  | cons c rest ih =>
    unfold pieces
    split
    · exact List.forall_mem_cons.mpr ⟨List.not_mem_nil, ih⟩
    · rename_i other
      cases found : pieces separator rest with
      | nil => exact absurd found (pieces_ne_nil separator rest)
      | cons piece others =>
        rw [found] at ih
        obtain ⟨first, later⟩ := List.forall_mem_cons.mp ih
        refine List.forall_mem_cons.mpr ⟨?_, later⟩
        simp [Ne.symm other, first]

/-- A separator between two texts separates their pieces. -/
theorem pieces_append_separator (separator : Char) (text rest : List Char) :
    pieces separator (text ++ separator :: rest) =
      pieces separator text ++ pieces separator rest := by
  induction text with
  | nil => simp [pieces]
  | cons c text ih =>
    rw [List.cons_append, pieces, pieces, ih]
    split
    · rfl
    · cases found : pieces separator text with
      | nil => exact absurd found (pieces_ne_nil separator text)
      | cons piece others => rfl

theorem pieces_append_cons {separator : Char} {text : List Char} (absent : separator ∉ text)
    (rest : List Char) :
    pieces separator (text ++ separator :: rest) = text :: pieces separator rest := by
  rw [pieces_append_separator, pieces_of_not_mem absent, List.singleton_append]

/-- The pieces of joined texts are the pieces of each. -/
theorem pieces_intercalate {separator : Char} {texts : List (List Char)} (nonempty : texts ≠ []) :
    pieces separator (List.intercalate [separator] texts) =
      texts.flatMap (pieces separator) := by
  induction texts with
  | nil => exact absurd rfl nonempty
  | cons text rest ih =>
    cases rest with
    | nil => simp
    | cons next others =>
      rw [List.intercalate_cons_cons, List.append_assoc, List.singleton_append,
        pieces_append_separator, ih (List.cons_ne_nil _ _), ← List.flatMap_cons]

/-! ### Separators of several characters -/

/-- The pieces of a text between the places where a separating text stands, searched from the left.
Of a separator that was found, `skip` characters are still to be passed over. -/
def onFrom (separator : List Char) : Nat → List Char → List (List Char)
  | _, [] => [[]]
  | skip + 1, _ :: rest => onFrom separator skip rest
  | 0, c :: rest =>
    if separator <+: c :: rest then [] :: onFrom separator (separator.length - 1) rest
    else match onFrom separator 0 rest with
      | [] => [[c]]
      | piece :: others => (c :: piece) :: others

def on (separator text : List Char) : List (List Char) :=
  onFrom separator 0 text

theorem onFrom_length_append (separator passed rest : List Char) :
    onFrom separator passed.length (passed ++ rest) = on separator rest := by
  induction passed with
  | nil => rfl
  | cons c passed ih =>
    rw [List.cons_append, List.length_cons, onFrom]
    exact ih

/-- A separator at the beginning leaves an empty piece before it. -/
theorem on_separator_append {separator : List Char} (nonempty : separator ≠ []) (rest : List Char) :
    on separator (separator ++ rest) = [] :: on separator rest := by
  cases separator with
  | nil => exact absurd rfl nonempty
  | cons c passed =>
    rw [List.cons_append, on, onFrom, if_pos ⟨rest, rfl⟩]
    exact congrArg _ (onFrom_length_append _ passed rest)

/-- A character at which no separator begins belongs to the first piece. -/
theorem on_cons {separator : List Char} {c : Char} {rest : List Char}
    (other : ¬ separator <+: c :: rest) {piece : List Char} {others : List (List Char)}
    (split : on separator rest = piece :: others) :
    on separator (c :: rest) = (c :: piece) :: others := by
  rw [on, onFrom, if_neg other]
  rw [on] at split
  rw [split]

/-! ### Separating texts with a mark

A separator is found where it was put if it has a mark, a character that stands in none of the texts
and nowhere before its first place in the separator. -/

section Marked

variable {lead : List Char} {mark : Char}

/-- Between a text without the mark of a separator and the separator itself, there is no place where
another separator could begin. -/
theorem not_prefix_append (absent : mark ∉ lead) {text : List Char} (nonempty : text ≠ [])
    (plain : mark ∉ text) (trail rest : List Char) :
    ¬ lead ++ mark :: trail <+: text ++ (lead ++ mark :: rest) := by
  intro begins
  have marked : lead ++ [mark] <+: lead ++ mark :: trail := by
    rw [List.prefix_append_right_inj]
    exact ⟨trail, rfl⟩
  have early : lead ++ [mark] <+: text ++ lead := by
    refine List.prefix_of_prefix_length_le (marked.trans begins) ?_ ?_
    · rw [← List.append_assoc]
      exact List.prefix_append _ _
    · have := List.length_pos_iff.mpr nonempty
      simp only [List.length_append, List.length_singleton]
      omega
  have member : mark ∈ text ++ lead := early.subset (by simp)
  rcases List.mem_append.mp member with inside | inside
  · exact plain inside
  · exact absent inside

theorem on_append (absent : mark ∉ lead) {text : List Char} (plain : mark ∉ text)
    (trail rest : List Char) :
    on (lead ++ mark :: trail) (text ++ (lead ++ mark :: (trail ++ rest))) =
      text :: on (lead ++ mark :: trail) rest := by
  induction text with
  | nil =>
    have nonempty : lead ++ mark :: trail ≠ [] := by simp
    simpa using on_separator_append nonempty rest
  | cons c text ih =>
    have other := not_prefix_append absent (List.cons_ne_nil c text) plain trail (trail ++ rest)
    exact on_cons other (ih fun member => plain (List.mem_cons_of_mem _ member))

theorem on_of_not_mem {text : List Char} (plain : mark ∉ text) (trail : List Char) :
    on (lead ++ mark :: trail) text = [text] := by
  induction text with
  | nil => rfl
  | cons c text ih =>
    have other : ¬ lead ++ mark :: trail <+: c :: text :=
      fun begins => plain (begins.subset (by simp))
    exact on_cons other (ih fun member => plain (List.mem_cons_of_mem _ member))

/-- Texts without the mark of a separator, joined by it, are the pieces of the whole. -/
theorem on_join (absent : mark ∉ lead) {texts : List (List Char)} (nonempty : texts ≠ [])
    (plain : ∀ text ∈ texts, mark ∉ text) (trail : List Char) :
    on (lead ++ mark :: trail) (List.intercalate (lead ++ mark :: trail) texts) = texts := by
  induction texts with
  | nil => exact absurd rfl nonempty
  | cons text rest ih =>
    obtain ⟨first, others⟩ := List.forall_mem_cons.mp plain
    cases rest with
    | nil =>
      rw [List.intercalate_singleton]
      exact on_of_not_mem first trail
    | cons next rest =>
      have split := on_append absent first trail
        (List.intercalate (lead ++ mark :: trail) (next :: rest))
      rw [List.intercalate_cons_cons, List.append_assoc, List.append_assoc, List.cons_append, split,
        ih (List.cons_ne_nil _ _) others]

end Marked

end Lexicon.Split
