import Lexicon.Proofs.LogLines
import Lexicon.Report.Markdown

/-!
# Cells of a Markdown table

A row can be taken apart again. The bar is the mark of the separator: it stands in no cell, so that
the spaces around it cannot be mistaken for spaces of a cell, even where a cell is empty. In the
cell of a fixed spelling tabs and line feeds are shown as escapes; where the spelling has no
backslash of its own, each escape tells the character that it stands for.

* `Markdown.on_joined` — a row split at its bars gives its cells;
* `Markdown.escape_cases` — what stands for a character of a spelling;
* `Markdown.flatMap_escape` — escaping is the replacement of tabs, followed by that of line feeds;
* `Markdown.unescape_flatMap_escape` — escapes are undone where there is no backslash;
* `Markdown.rows_decodable` — rows and spellings can be read back.
-/

namespace Lexicon.Markdown

/-! ### Rows -/

/-- A row split at its bars gives its cells, whatever spaces they have. -/
theorem on_joined {cells : List String} (nonempty : cells ≠ [])
    (plain : ∀ cell ∈ cells, '|' ∉ cell.toList) :
    Split.on " | ".toList (" | ".intercalate cells).toList = cells.map String.toList := by
  have texts : ∀ text ∈ cells.map String.toList, '|' ∉ text := by
    intro text member
    obtain ⟨cell, given, rfl⟩ := List.mem_map.mp member
    exact plain cell given
  have lead : '|' ∉ [' '] := by simp
  rw [String.toList_intercalate]
  exact Split.on_join lead (by simpa using nonempty) texts [' ']

/-- Cells that stand on one line are joined to one line. -/
theorem newline_not_mem_joined {cells : List String}
    (plain : ∀ cell ∈ cells, '\n' ∉ cell.toList) :
    '\n' ∉ (" | ".intercalate cells).toList := by
  refine intercalate_of_closed (P := fun text => '\n' ∉ text.toList) (by simp) ?_ (by simp) plain
  intro a b left right
  rw [String.toList_append, List.mem_append, not_or]
  exact ⟨left, right⟩

/-! ### Fixed spellings -/

/-- What stands for a character of a spelling: an escape, or the character itself. -/
theorem escape_cases (c : Char) :
    (c = '\t' ∧ escape c = ['\\', 't']) ∨ (c = '\n' ∧ escape c = ['\\', 'n']) ∨
      (c ≠ '\t' ∧ c ≠ '\n' ∧ escape c = [c]) := by
  unfold escape
  by_cases tab : c = '\t'
  · exact .inl ⟨tab, if_pos tab⟩
  rw [if_neg tab]
  by_cases lineFeed : c = '\n'
  · exact .inr (.inl ⟨lineFeed, if_pos lineFeed⟩)
  · exact .inr (.inr ⟨tab, lineFeed, if_neg lineFeed⟩)

theorem ne_of_mem_escape {c d : Char} (member : d ∈ escape c) : d ≠ '\t' ∧ d ≠ '\n' := by
  rcases escape_cases c with ⟨-, shown⟩ | ⟨-, shown⟩ | ⟨notTab, notLineFeed, shown⟩
  · rw [shown] at member
    rcases List.mem_pair.mp member with rfl | rfl <;> simp
  · rw [shown] at member
    rcases List.mem_pair.mp member with rfl | rfl <;> simp
  · rw [shown, List.mem_singleton] at member
    exact member ▸ ⟨notTab, notLineFeed⟩

theorem toList_lexeme (text : String) :
    (lexeme (some text)).toList = '`' :: (text.toList.flatMap escape ++ ['`']) := by
  simp [lexeme]

/-- The cell of a spelling holds neither a tab nor a line feed. -/
theorem ne_of_mem_lexeme {spelling : Option String} {d : Char}
    (member : d ∈ (lexeme spelling).toList) : d ≠ '\t' ∧ d ≠ '\n' := by
  cases spelling with
  | none => exact absurd member List.not_mem_nil
  | some text =>
    rw [toList_lexeme, List.mem_cons, List.mem_append, List.mem_flatMap,
      List.mem_singleton] at member
    rcases member with rfl | ⟨c, -, inside⟩ | rfl
    · simp
    · exact ne_of_mem_escape inside
    · simp

theorem lexeme_eq_empty_iff {spelling : Option String} :
    lexeme spelling = "" ↔ spelling = none := by
  cases spelling with
  | none => exact iff_of_true rfl rfl
  | some text =>
    refine iff_of_false ?_ nofun
    intro empty
    have chars := congrArg String.toList empty
    rw [toList_lexeme] at chars
    cases chars

/-- Puts a text in place of every occurrence of a character. -/
def replace (c : Char) (shown text : List Char) : List Char :=
  text.flatMap fun d => if d = c then shown else [d]

/-- Escaping replaces the tabs and then the line feeds. -/
theorem flatMap_escape (text : List Char) :
    text.flatMap escape = replace '\n' ['\\', 'n'] (replace '\t' ['\\', 't'] text) := by
  unfold replace
  rw [List.flatMap_assoc]
  congr 1
  funext c
  rcases escape_cases c with ⟨rfl, shown⟩ | ⟨rfl, shown⟩ | ⟨notTab, notLineFeed, shown⟩
  · rw [shown]
    rfl
  · rw [shown]
    rfl
  · simp [shown, notTab, notLineFeed]

/-- Reads an escape as the character that it stands for. -/
def unescape : List Char → List Char
  | '\\' :: 't' :: rest => '\t' :: unescape rest
  | '\\' :: 'n' :: rest => '\n' :: unescape rest
  | c :: rest => c :: unescape rest
  | [] => []

theorem unescape_cons {c : Char} (other : c ≠ '\\') (rest : List Char) :
    unescape (c :: rest) = c :: unescape rest := by
  rw [unescape]
  · rintro rest rfl
    exact absurd rfl other
  · rintro rest rfl
    exact absurd rfl other

/-- Where there is no backslash, every backslash of the cell begins an escape. -/
theorem unescape_flatMap_escape {text : List Char} (plain : '\\' ∉ text) :
    unescape (text.flatMap escape) = text := by
  induction text with
  | nil => rfl
  | cons c text ih =>
    rw [List.mem_cons, not_or] at plain
    obtain ⟨other, plain⟩ := plain
    rw [List.flatMap_cons]
    rcases escape_cases c with ⟨rfl, shown⟩ | ⟨rfl, shown⟩ | ⟨-, -, shown⟩
    · rw [shown, List.cons_append, List.singleton_append, unescape, ih plain]
    · rw [shown, List.cons_append, List.singleton_append, unescape, ih plain]
    · rw [shown, List.singleton_append, unescape_cons (Ne.symm other), ih plain]

/-- A fixed spelling, if there is one, holds no backslash. -/
def Unslashed (spelling : Option String) : Prop :=
  ∀ text ∈ spelling, '\\' ∉ text.toList

/-- The cell tells the spelling. -/
theorem lexeme_injective {a b : Option String} (left : Unslashed a) (right : Unslashed b)
    (same : lexeme a = lexeme b) : a = b := by
  cases a with
  | none => exact (lexeme_eq_empty_iff.mp same.symm).symm
  | some text =>
    cases b with
    | none => exact lexeme_eq_empty_iff.mp same
    | some other =>
      have chars := congrArg String.toList same
      rw [toList_lexeme, toList_lexeme, List.cons.injEq, List.append_cancel_right_eq] at chars
      have read := congrArg unescape chars.2
      rw [unescape_flatMap_escape (left text rfl),
        unescape_flatMap_escape (right other rfl)] at read
      rw [String.toList_inj.mp read]

theorem unslashed_of_mem_registry : ∀ info ∈ registry, Unslashed info.lexeme := by
  unfold Unslashed
  decide

/-- **Rows and spellings can be read back.** A row of cells without bars and line feeds is one line,
and what stands between its outer bars, split at the inner ones, are the cells. The cell of a
spelling stays on its line and is empty only if there is none; inside its backticks the escapes of
tabs and line feeds are undone, if the spelling has no backslash, as none in the registry has. -/
theorem rows_decodable :
    (∀ (out : String) (cells : List String), cells ≠ [] →
      (∀ cell ∈ cells, '|' ∉ cell.toList ∧ '\n' ∉ cell.toList) →
      ∃ line body : String, out ++ row cells = out ++ line ++ "\n" ∧ '\n' ∉ line.toList ∧
        line = "| " ++ body ++ " |" ∧
        (Split.on " | ".toList body.toList).map String.ofList = cells) ∧
    (∀ info : Info, '\t' ∉ (lexeme info.lexeme).toList ∧ '\n' ∉ (lexeme info.lexeme).toList ∧
      (lexeme info.lexeme = "" ↔ info.lexeme = none)) ∧
    (∀ (info : Info) (text : String), info.lexeme = some text →
      ∃ shown : String, lexeme info.lexeme = "`" ++ shown ++ "`" ∧
        shown.toList = replace '\n' ['\\', 'n'] (replace '\t' ['\\', 't'] text.toList) ∧
        ('\\' ∉ text.toList → unescape shown.toList = text.toList)) ∧
    (∀ info ∈ registry, Unslashed info.lexeme) ∧
    ∀ a b : Info, Unslashed a.lexeme → Unslashed b.lexeme →
      lexeme a.lexeme = lexeme b.lexeme → a.lexeme = b.lexeme := by
  refine ⟨?_, ?_, ?_, unslashed_of_mem_registry, ?_⟩
  · intro out cells nonempty plain
    have split := on_joined nonempty fun cell given => (plain cell given).1
    have joined := newline_not_mem_joined fun cell given => (plain cell given).2
    refine ⟨"| " ++ " | ".intercalate cells ++ " |", " | ".intercalate cells, ?_, ?_, rfl, ?_⟩
    · simp only [row, String.append_assoc]
      rfl
    · simpa using joined
    · rw [split, List.map_map]
      simp
  · intro info
    refine ⟨?_, ?_, lexeme_eq_empty_iff⟩
    · intro member
      exact (ne_of_mem_lexeme member).1 rfl
    · intro member
      exact (ne_of_mem_lexeme member).2 rfl
  · intro info text given
    rw [given]
    refine ⟨String.ofList (text.toList.flatMap escape), rfl, ?_, ?_⟩
    · rw [String.toList_ofList, flatMap_escape]
    · intro plain
      rw [String.toList_ofList, unescape_flatMap_escape plain]
  · intro a b left right
    exact lexeme_injective left right

end Lexicon.Markdown
