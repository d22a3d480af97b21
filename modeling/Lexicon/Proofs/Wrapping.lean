import Lexicon.Text.Wrap
import Mathlib.Data.List.Chain

/-!
# What wrapping keeps

A text is set into rows: each row shows some of it and drops the spaces that follow. What is shown
and what is dropped make up the whole text, no row is wider than it may be, and a row ends at spaces
unless the word at its end is too wide for any row. Escape sequences hide columns and spaces, so
that rows are only described for texts without escape characters.

* `Wrap.Row`, `Wrap.Wrapped` — rows, and what it means that a text is wrapped into them;
* `Wrap.mem_of_mem_wrapLine` — a line shows characters of the text only, whatever these are;
* `Wrap.forall_mem_fill` — what is kept while lines are filled, and `Wrap.fill_fits`, by which no
  line is too wide;
* `Wrap.cut_joint`, `Wrap.cuts_joint` — where the pieces of words meet;
* `Wrap.exists_wrapped` — every text is wrapped into its lines.
-/

namespace Lexicon

/-! ### Columns of texts put together -/

namespace Columns

variable {a : List Char}

theorem count_cons {c : Char} (plain : c ≠ '\x1b') (rest : List Char) :
    count (c :: rest) = ofChar c + count rest := by
  have next : State.text.next c = .text := if_neg plain
  have columns : State.text.columns c = ofChar c := if_pos ⟨rfl, plain⟩
  rw [count, countFrom, next, columns, count]

/-- Behind a text without escape characters, columns are counted as from the beginning. -/
theorem count_append (plain : '\x1b' ∉ a) (b : List Char) :
    count (a ++ b) = count a + count b := by
  induction a with
  | nil => exact (Nat.zero_add _).symm
  | cons c a ih =>
    obtain ⟨first, others⟩ := not_or.mp (List.mem_cons.not.mp plain)
    rw [List.cons_append, count_cons (Ne.symm first), count_cons (Ne.symm first), ih others]
    omega

theorem count_replicate_space (n : Nat) : count (List.replicate n ' ') = n := by
  rw [count_eq_length, List.length_replicate]
  intro c member
  rw [List.eq_of_mem_replicate member]
  decide

end Columns

namespace Wrap

/-! ### Rows -/

/-- A line of wrapped text, and the number of spaces that were dropped at its end. -/
structure Row where
  text : List Char
  dropped : Nat
deriving DecidableEq, Repr

/-- A row with the spaces dropped at its end. -/
def Row.whole (row : Row) : List Char :=
  row.text ++ List.replicate row.dropped ' '

/-- The place between two texts lies inside a run of more than `width` columns without a space. -/
def InsideWideWord (width : Nat) (before after : List Char) : Prop :=
  ∃ lead left right rest, before = lead ++ left ∧ after = right ++ rest ∧
    left ≠ [] ∧ right ≠ [] ∧ ' ' ∉ left ++ right ∧ width < Columns.count (left ++ right)

/-- `Wrapped width text rows`: the rows make up the text, they are at most `width` columns wide, and
each but the last ends where there are spaces in the text or inside a word that is too wide. -/
structure Wrapped (width : Nat) (text : List Char) (rows : List Row) : Prop where
  whole : rows.flatMap Row.whole = text
  fits : ∀ row ∈ rows, Columns.count row.text ≤ width
  breaks : ∀ front row next back, rows = front ++ row :: next :: back →
    0 < row.dropped ∨ InsideWideWord width ((front ++ [row]).flatMap Row.whole)
      ((next :: back).flatMap Row.whole)

/-- Deleting all spaces undoes the wrapping. -/
theorem Wrapped.filter_eq {width : Nat} {text : List Char} {rows : List Row}
    (wrapped : Wrapped width text rows) :
    (rows.flatMap Row.text).filter (· ≠ ' ') = text.filter (· ≠ ' ') := by
  rw [← wrapped.whole, List.filter_flatMap, List.filter_flatMap]
  congr 1
  funext row
  simp [Row.whole]

/-- The spaces behind the last word of a line. -/
def trailing : List Word → Nat
  | [] => 0
  | [word] => word.spaces
  | _ :: rest => trailing rest

/-- The row that a line of words makes. -/
def Row.ofLine (line : List Word) : Row where
  text := lineText line
  dropped := trailing line

theorem trailing_append_cons (line : List Word) (word : Word) (rest : List Word) :
    trailing (line ++ word :: rest) = trailing (word :: rest) := by
  induction line with
  | nil => rfl
  | cons first line ih =>
    rw [List.cons_append, ← ih]
    cases line <;> rfl

/-- Setting a line drops the spaces at its end and nothing else. -/
theorem Row.whole_ofLine (line : List Word) :
    (Row.ofLine line).whole = line.flatMap Word.text := by
  induction line with
  | nil => rfl
  | cons word rest ih =>
    cases rest with
    | nil => simp [whole, ofLine, lineText, trailing, Word.text]
    | cons next others =>
      rw [List.flatMap_cons, ← ih]
      simp [whole, ofLine, lineText, trailing]

theorem lineText_append_singleton (line : List Word) (word : Word) :
    lineText (line ++ [word]) = line.flatMap Word.text ++ word.chars := by
  induction line with
  | nil => rfl
  | cons first line ih =>
    rw [List.flatMap_cons, List.append_assoc, ← ih]
    cases line <;> rfl

/-- Rows make up what their lines are made of. -/
theorem Row.flatMap_whole (lines : List (List Word)) :
    (lines.map ofLine).flatMap whole = lines.flatten.flatMap Word.text := by
  induction lines with
  | nil => rfl
  | cons line lines ih =>
    rw [List.map_cons, List.flatMap_cons, ih, whole_ofLine, List.flatten_cons, List.flatMap_append]

/-! ### Nothing but the text -/

/-- Words that are cut to pieces still make up the text. -/
theorem text_cuts (width : Nat) (text : List Char) :
    ((words text).flatMap (cut width)).flatMap Word.text = text := by
  simp only [List.flatMap_assoc, text_cut, text_words]

/-- A line of wrapped text shows characters of the text. -/
theorem mem_of_mem_wrapLine {width : Nat} {text line : List Char} {c : Char}
    (set : line ∈ wrapLine width text) (shown : c ∈ line) : c ∈ text := by
  obtain ⟨words, filled, rfl⟩ := List.mem_map.mp set
  have whole : c ∈ (Row.ofLine words).whole := List.mem_append_left _ shown
  rw [Row.whole_ofLine] at whole
  obtain ⟨word, inLine, inWord⟩ := List.mem_flatMap.mp whole
  have cuts := List.mem_flatten_of_mem filled inLine
  rw [flatten_fill, List.nil_append] at cuts
  rw [← text_cuts width text]
  exact List.mem_flatMap.mpr ⟨word, cuts, inWord⟩

/-! ### Texts without escape characters -/

/-- A word without escape characters takes its columns and one for each space behind it. -/
theorem count_text {word : Word} (plain : '\x1b' ∉ word.chars) :
    Columns.count word.text = word.columns := by
  rw [Word.text, Columns.count_append plain, Columns.count_replicate_space, Word.columns,
    Word.width]

/-- Outside escape sequences, a character joins the word behind it, and a space the spaces behind
it; before a word, a space stands alone. -/
theorem words_cons {c : Char} (plain : c ≠ '\x1b') (rest : List Char) :
    words (c :: rest) = match words rest with
      | [] => if c = ' ' then [⟨[], 1⟩] else [⟨[c], 0⟩]
      | word :: others =>
        if c ≠ ' ' then ⟨c :: word.chars, word.spaces⟩ :: others
        else if word.chars = [] then ⟨[], word.spaces + 1⟩ :: others
        else ⟨[], 1⟩ :: word :: others := by
  have next : Columns.State.text.next c = .text := if_neg plain
  rw [words, wordsFrom, next]
  simp only [if_true]
  rfl

/-- Words as they stand in a text: no word has a space in it, and all but the last have spaces
behind them. -/
structure Separated (words : List Word) : Prop where
  spaceless : ∀ word ∈ words, ' ' ∉ word.chars
  followed : words.IsChain fun word _ => 0 < word.spaces

/-- A first word that has spaces behind it whenever there is another word. -/
theorem Separated.cons {word : Word} {words : List Word} (rest : Separated words)
    (spaceless : ' ' ∉ word.chars) (followed : words ≠ [] → 0 < word.spaces) :
    Separated (word :: words) := by
  refine ⟨List.forall_mem_cons.mpr ⟨spaceless, rest.spaceless⟩, ?_⟩
  cases words with
  | nil => exact .singleton _
  | cons next others => exact .cons_cons (followed (List.cons_ne_nil _ _)) rest.followed

theorem Separated.tail {word : Word} {words : List Word} (all : Separated (word :: words)) :
    Separated words :=
  ⟨fun _ member => all.spaceless _ (List.mem_cons_of_mem _ member), all.followed.tail⟩

theorem Separated.spaces_pos {word : Word} {words : List Word} (all : Separated (word :: words))
    (more : words ≠ []) : 0 < word.spaces := by
  obtain ⟨next, others, rfl⟩ := List.exists_cons_of_ne_nil more
  exact (List.isChain_cons_cons.mp all.followed).1

theorem separated_words {text : List Char} (plain : '\x1b' ∉ text) : Separated (words text) := by
  induction text with
  | nil => exact ⟨by simp [words, wordsFrom], .nil⟩
  | cons c rest ih =>
    obtain ⟨first, others⟩ := not_or.mp (List.mem_cons.not.mp plain)
    rw [words_cons (Ne.symm first)]
    have known := ih others
    cases split : words rest with
    | nil =>
      rw [split] at known
      by_cases space : c = ' '
      · simp only [space, if_true]
        exact known.cons (by simp) (by simp)
      · simp only [space, if_false]
        exact known.cons (by simp [Ne.symm space]) (by simp)
    | cons word others =>
      rw [split] at known
      have spaceless := known.spaceless word (List.mem_cons_self ..)
      by_cases space : c = ' '
      · by_cases empty : word.chars = []
        · simp only [space, empty, ne_eq, not_true_eq_false, if_true, if_false]
          exact known.tail.cons (by simp) fun _ => Nat.succ_pos _
        · simp only [space, empty, ne_eq, not_true_eq_false, if_false]
          exact known.cons (by simp) fun _ => Nat.one_pos
      · simp only [space, ne_eq, not_false_eq_true, if_true]
        refine known.tail.cons ?_ known.spaces_pos
        simp [spaceless, Ne.symm space]

/-! ### Lines of words -/

/-- A text has at least one line. -/
theorem fill_ne_nil (width : Nat) (line : List Word) (used : Nat) (rest : List Word) :
    fill width line used rest ≠ [] := by
  induction rest generalizing line used with
  | nil => exact List.cons_ne_nil _ _
  | cons word rest ih =>
    unfold fill
    split
    · exact List.cons_ne_nil _ _
    · exact ih _ _

/-- What holds of the open line and its columns at the beginning, of every line that is opened for a
word, and still when a word that fits is put behind a line, holds of all lines. -/
theorem forall_mem_fill {P : List Word → Nat → Prop} {width used : Nat} {line rest : List Word}
    (begun : P line used) (opened : ∀ word ∈ rest, P [word] word.columns)
    (extended : ∀ line used, ∀ word ∈ rest, P line used → used + word.width ≤ width →
      P (line ++ [word]) (used + word.columns)) :
    ∀ set ∈ fill width line used rest, ∃ columns, P set columns := by
  induction rest generalizing line used with
  | nil =>
    intro set member
    obtain rfl := List.mem_singleton.mp member
    exact ⟨used, begun⟩
  | cons word rest ih =>
    obtain ⟨first, others⟩ := List.forall_mem_cons.mp opened
    have later : ∀ line used, ∀ word ∈ rest, P line used → used + word.width ≤ width →
        P (line ++ [word]) (used + word.columns) :=
      fun line used word member => extended line used word (List.mem_cons_of_mem _ member)
    unfold fill
    split
    · exact List.forall_mem_cons.mpr ⟨⟨used, begun⟩, ih first others later⟩
    · rename_i room
      have longer := extended line used word (List.mem_cons_self ..) begun (Nat.not_lt.mp room)
      exact ih longer others later

/-- An open line: the columns used are those of the line with all of its spaces, and the line fits
once the spaces at its end are dropped. -/
structure Fitting (width : Nat) (line : List Word) (used : Nat) : Prop where
  plain : ∀ word ∈ line, '\x1b' ∉ word.chars
  filled : Columns.count (line.flatMap Word.text) = used
  fits : Columns.count (lineText line) ≤ width

theorem Fitting.nil (width : Nat) : Fitting width [] 0 :=
  ⟨by simp, rfl, Nat.zero_le width⟩

/-- The spaces behind words bring no escape character in. -/
theorem Fitting.plain_text {width used : Nat} {line : List Word}
    (fitting : Fitting width line used) : '\x1b' ∉ line.flatMap Word.text := by
  intro member
  obtain ⟨word, inside, found⟩ := List.mem_flatMap.mp member
  rcases List.mem_append.mp found with shown | space
  · exact fitting.plain word inside shown
  · exact absurd (List.eq_of_mem_replicate space) (by decide)

/-- A line with room for a word fits with this word. -/
theorem Fitting.append {width used : Nat} {line : List Word} (fitting : Fitting width line used)
    {word : Word} (plain : '\x1b' ∉ word.chars) (room : used + word.width ≤ width) :
    Fitting width (line ++ [word]) (used + word.columns) where
  plain := List.forall_mem_append.mpr ⟨fitting.plain, by simpa using plain⟩
  filled := by
    rw [List.flatMap_append, List.flatMap_singleton, Columns.count_append fitting.plain_text,
      fitting.filled, count_text plain]
  fits := by
    rw [lineText_append_singleton, Columns.count_append fitting.plain_text, fitting.filled]
    exact room

theorem Fitting.single {width : Nat} {word : Word} (plain : '\x1b' ∉ word.chars)
    (narrow : word.width ≤ width) : Fitting width [word] word.columns := by
  have fitting := (Fitting.nil width).append plain (by omega)
  rw [List.nil_append, Nat.zero_add] at fitting
  exact fitting

/-- Lines that are set from words that fit do fit. -/
theorem fill_fits {width : Nat} {words : List Word}
    (plain : ∀ word ∈ words, '\x1b' ∉ word.chars) (narrow : ∀ word ∈ words, word.width ≤ width) :
    ∀ set ∈ fill width [] 0 words, Columns.count (lineText set) ≤ width := by
  have lines : ∀ set ∈ fill width [] 0 words, ∃ used, Fitting width set used := by
    apply forall_mem_fill (Fitting.nil width)
    · intro word member
      exact .single (plain word member) (narrow word member)
    · intro line used word member fitting room
      exact fitting.append (plain word member) room
  intro set member
  obtain ⟨used, fitting⟩ := lines set member
  exact fitting.fits

/-- A first word that fits begins the first line, and any other line is opened for the word that it
begins with; so no line is empty. -/
theorem ne_nil_of_mem_fill {width : Nat} {words : List Word} (nonempty : words ≠ [])
    (narrow : ∀ word ∈ words, word.width ≤ width) :
    ∀ set ∈ fill width [] 0 words, set ≠ [] := by
  obtain ⟨first, rest, rfl⟩ := List.exists_cons_of_ne_nil nonempty
  have fits := narrow first (List.mem_cons_self ..)
  have lines : ∀ set ∈ fill width ([] ++ [first]) (0 + first.columns) rest,
      ∃ _ : Nat, set ≠ [] := by
    apply forall_mem_fill (P := fun line _ => line ≠ []) <;> simp
  rw [fill, if_neg (by omega)]
  intro set member
  obtain ⟨-, filled⟩ := lines set member
  exact filled

/-! ### Where words meet -/

/-- A place inside a wide word stays one when more text is put before it. -/
theorem InsideWideWord.append_left {width : Nat} {before after : List Char}
    (inside : InsideWideWord width before after) (more : List Char) :
    InsideWideWord width (more ++ before) after := by
  obtain ⟨lead, left, right, rest, rfl, rfl, facts⟩ := inside
  exact ⟨more ++ lead, left, right, rest, by rw [List.append_assoc], rfl, facts⟩

theorem push_eq (c : Char) (texts : List (List Char)) :
    push c texts = (c :: texts.headD []) :: texts.tail := by
  cases texts <;> rfl

/-- The pieces of a word behind the first begin with the character that did not fit before. -/
theorem ne_nil_of_mem_tail_pieces {width used : Nat} {state : Columns.State} {text : List Char} :
    ∀ piece ∈ (pieces width state used text).tail, piece ≠ [] := by
  induction text generalizing state used with
  | nil => simp [pieces]
  | cons c rest ih =>
    unfold pieces
    split
    · rw [List.tail_cons, push_eq]
      exact List.forall_mem_cons.mpr ⟨List.cons_ne_nil _ _, ih⟩
    · rw [push_eq]
      exact ih

/-- A word is not cut into empty pieces. -/
theorem ne_nil_of_mem_pieces {width : Nat} {text : List Char} (nonempty : text ≠ []) :
    ∀ piece ∈ pieces width .text 0 text, piece ≠ [] := by
  obtain ⟨c, rest, rfl⟩ := List.exists_cons_of_ne_nil nonempty
  rw [pieces, if_neg (by simp), push_eq]
  exact List.forall_mem_cons.mpr ⟨List.cons_ne_nil _ _, ne_nil_of_mem_tail_pieces⟩

/-- Pieces of which some come last: only the last of these has spaces behind it. -/
theorem exists_of_spaced_eq_append {spaces : Nat} {texts : List (List Char)}
    {front back : List Word} (split : spaced spaces texts = front ++ back) (nonempty : back ≠ []) :
    ∃ early late, texts = early ++ late ∧ late ≠ [] ∧ front = early.map (Word.mk · 0) ∧
      back = spaced spaces late := by
  induction front generalizing texts with
  | nil =>
    refine ⟨[], texts, rfl, ?_, rfl, split.symm⟩
    rintro rfl
    exact nonempty split.symm
  | cons word front ih =>
    cases texts with
    | nil => cases split
    | cons text rest =>
      cases rest with
      | nil =>
        have last := (List.cons.inj split).2
        exact absurd (List.append_eq_nil_iff.mp last.symm).2 nonempty
      | cons next others =>
        obtain ⟨same, behind⟩ := List.cons.inj split
        obtain ⟨early, late, pieces, more, rfl, ends⟩ := ih behind
        exact ⟨text :: early, late, by rw [pieces]; rfl, more, by rw [← same]; rfl, ends⟩

theorem trailing_spaced (spaces : Nat) {texts : List (List Char)} (nonempty : texts ≠ []) :
    trailing (spaced spaces texts) = spaces := by
  induction texts with
  | nil => exact absurd rfl nonempty
  | cons text rest ih =>
    cases rest with
    | nil => rfl
    | cons next others =>
      refine Eq.trans ?_ (ih (List.cons_ne_nil _ _))
      cases others <;> rfl

/-- The spaces behind a word stay with its last piece. -/
theorem trailing_cut (width : Nat) (word : Word) : trailing (cut width word) = word.spaces := by
  unfold cut
  split
  · rfl
  · exact trailing_spaced _ (pieces_ne_nil _ _ _ _)

/-- A place between two pieces of a word lies inside the word, and only a wide word has pieces. -/
theorem cut_joint {width : Nat} {word : Word} (spaceless : ' ' ∉ word.chars)
    {front back : List Word} (split : cut width word = front ++ back) (before : front ≠ [])
    (behind : back ≠ []) (rest : List Char) :
    InsideWideWord width (front.flatMap Word.text) (back.flatMap Word.text ++ rest) := by
  unfold cut at split
  split at split
  · have single := congrArg List.length split
    have left := List.length_pos_iff.mpr before
    have right := List.length_pos_iff.mpr behind
    rw [List.length_singleton, List.length_append] at single
    omega
  · rename_i wide
    obtain ⟨early, late, cuts, last, rfl, rfl⟩ := exists_of_spaced_eq_append split behind
    have letters : word.chars ≠ [] := by
      intro empty
      exact wide (by simp [Word.width, empty, Columns.count, Columns.countFrom])
    have filled : ∀ piece ∈ early ++ late, piece ≠ [] := cuts ▸ ne_nil_of_mem_pieces letters
    have whole : early.flatten ++ late.flatten = word.chars := by
      rw [← List.flatten_append, ← cuts, flatten_pieces]
    have shown : (early.map (Word.mk · 0)).flatMap Word.text = early.flatten := by
      simp only [List.flatMap_map, Word.text, List.replicate_zero, List.append_nil,
        List.flatMap_id']
    have joined {texts : List (List Char)} (nonempty : texts ≠ [])
        (part : ∀ piece ∈ texts, piece ∈ early ++ late) : texts.flatten ≠ [] := by
      obtain ⟨piece, member⟩ := List.exists_mem_of_ne_nil _ nonempty
      exact List.flatten_ne_nil_iff.mpr ⟨piece, member, filled piece (part piece member)⟩
    refine ⟨[], early.flatten, late.flatten, List.replicate word.spaces ' ' ++ rest, ?_, ?_, ?_, ?_,
      ?_, ?_⟩
    · rw [shown, List.nil_append]
    · rw [text_spaced last, List.append_assoc]
    · exact joined (by simpa using before) fun _ => List.mem_append_left _
    · exact joined last fun _ => List.mem_append_right _
    · rw [whole]
      exact spaceless
    · rw [whole]
      exact Nat.not_le.mp wide

/-- **Where two pieces of words meet,** either spaces stand between them, or they are pieces of one
wide word. -/
theorem cuts_joint {width : Nat} {words front back : List Word} (separated : Separated words)
    (split : words.flatMap (cut width) = front ++ back) (before : front ≠ []) (behind : back ≠ []) :
    0 < trailing front ∨
      InsideWideWord width (front.flatMap Word.text) (back.flatMap Word.text) := by
  induction words generalizing front with
  | nil =>
    exact absurd (List.append_eq_nil_iff.mp split.symm).1 before
  | cons word words ih =>
    have edge : words.flatMap (cut width) ≠ [] → 0 < trailing (cut width word) := by
      intro others
      rw [trailing_cut]
      refine separated.spaces_pos ?_
      rintro rfl
      exact others rfl
    rw [List.flatMap_cons, List.append_eq_append_iff] at split
    rcases split with ⟨middle, rfl, rest⟩ | ⟨middle, cuts, rfl⟩
    · -- The place lies behind the first word.
      cases middle with
      | nil =>
        rw [List.append_nil]
        rw [List.nil_append] at rest
        exact .inl (edge (rest ▸ behind))
      | cons first middle =>
        rw [trailing_append_cons, List.flatMap_append]
        rcases ih separated.tail rest (List.cons_ne_nil _ _) with spaces | inside
        · exact .inl spaces
        · exact .inr (inside.append_left _)
    · -- The place lies between pieces of the first word, or at its end.
      cases middle with
      | nil =>
        rw [List.append_nil] at cuts
        exact .inl (cuts ▸ edge behind)
      | cons first middle =>
        have spaceless := separated.spaceless word (List.mem_cons_self ..)
        rw [List.flatMap_append]
        exact .inr (cut_joint spaceless cuts before (List.cons_ne_nil _ _) _)

/-! ### Wrapping as a whole -/

/-- Lines of words that are separated and fit are broken at spaces or inside wide words. -/
theorem fill_breaks {width : Nat} {words : List Word} (separated : Separated words)
    (narrow : ∀ piece ∈ words.flatMap (cut width), piece.width ≤ width)
    {front back : List (List Word)} {line next : List Word}
    (split : fill width [] 0 (words.flatMap (cut width)) = front ++ line :: next :: back) :
    0 < trailing line ∨ InsideWideWord width ((front ++ [line]).flatten.flatMap Word.text)
      ((next :: back).flatten.flatMap Word.text) := by
  have nonempty : words.flatMap (cut width) ≠ [] := by
    intro empty
    have count := congrArg List.length split
    rw [empty] at count
    simp only [fill, List.length_append, List.length_cons, List.length_nil] at count
    omega
  have filled := ne_nil_of_mem_fill nonempty narrow
  rw [split] at filled
  have here : line ≠ [] := filled line (by simp)
  have there : (next :: back).flatten ≠ [] :=
    List.flatten_ne_nil_iff.mpr ⟨next, List.mem_cons_self .., filled next (by simp)⟩
  have whole : words.flatMap (cut width) =
      (front ++ [line]).flatten ++ (next :: back).flatten := by
    rw [← List.flatten_append, List.append_assoc, List.singleton_append, ← split, flatten_fill,
      List.nil_append]
  obtain ⟨word, rest, rfl⟩ := List.exists_cons_of_ne_nil here
  rw [List.flatten_concat] at whole ⊢
  rw [← trailing_append_cons front.flatten word rest]
  exact cuts_joint separated whole (by simp) there

/-- **A text without escape characters is wrapped into its lines.** -/
theorem exists_wrapped {width : Nat} (enough : 3 ≤ width) {text : List Char}
    (plain : '\x1b' ∉ text) :
    ∃ rows, wrapLine width text = rows.map Row.text ∧ Wrapped width text rows := by
  have narrow : ∀ piece ∈ (words text).flatMap (cut width), piece.width ≤ width := by
    intro piece member
    obtain ⟨word, -, cuts⟩ := List.mem_flatMap.mp member
    exact width_le_of_mem_cut enough cuts
  have unescaped : ∀ piece ∈ (words text).flatMap (cut width), '\x1b' ∉ piece.chars := by
    intro piece member shown
    rw [← text_cuts width text] at plain
    exact plain (List.mem_flatMap.mpr ⟨piece, member, List.mem_append_left _ shown⟩)
  refine ⟨(fill width [] 0 ((words text).flatMap (cut width))).map Row.ofLine, ?_, ?_, ?_, ?_⟩
  · rw [List.map_map]
    rfl
  · rw [Row.flatMap_whole, flatten_fill, List.nil_append, text_cuts]
  · intro row member
    obtain ⟨line, filled, rfl⟩ := List.mem_map.mp member
    exact fill_fits unescaped narrow line filled
  · intro front row next back split
    obtain ⟨lines, later, whole, rfl, shown⟩ := List.map_eq_append_iff.mp split
    obtain ⟨line, last, rfl, rfl, behind⟩ := List.map_eq_cons_iff.mp shown
    obtain ⟨line', others, rfl, rfl, rfl⟩ := List.map_eq_cons_iff.mp behind
    have breaks := fill_breaks (separated_words plain) narrow whole
    rw [← Row.flatMap_whole, ← Row.flatMap_whole, List.map_append] at breaks
    exact breaks

theorem count_le_of_mem_wrapLine {width : Nat} (enough : 3 ≤ width) {text line : List Char}
    (plain : '\x1b' ∉ text) (set : line ∈ wrapLine width text) : Columns.count line ≤ width := by
  obtain ⟨rows, lines, wrapped⟩ := exists_wrapped enough plain
  rw [lines] at set
  obtain ⟨row, member, rfl⟩ := List.mem_map.mp set
  exact wrapped.fits row member

end Wrap

end Lexicon
