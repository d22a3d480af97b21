import Lexicon.Text.Blank

/-!
# Report formats

* `Format.ofName?` — the format with exactly a given name, as on the command line;
* `Format.parse` — the same without regard to blanks around the name and the case of ASCII letters,
  as in the environment.
-/

namespace Lexicon

/-- The forms a report can take. -/
inductive Format where
  | plain
  | markdown
  | json
deriving DecidableEq, Repr

namespace Format

/-- Every format, in the order they are listed to users. -/
def all : List Format :=
  [.plain, .markdown, .json]

/-- The name that selects a format. -/
def name : Format → String
  | .plain => "plain"
  | .markdown => "markdown"
  | .json => "json"

/-- The word for a format in log lines. -/
def title : Format → String
  | .plain => "Plain"
  | .markdown => "Markdown"
  | .json => "Json"

/-- The format with exactly the given name. -/
def ofName? (text : String) : Option Format :=
  all.find? fun format => format.name == text

/-- Reads a format name, apart from blanks around it and from the case of ASCII letters. -/
def parse (text : String) : Option Format :=
  ofName? (String.ofList ((Blank.trim text.toList).map Char.toLower))

theorem mem_all (format : Format) : format ∈ all := by
  cases format <;> decide

@[simp] theorem ofName?_name (format : Format) : ofName? format.name = some format := by
  cases format <;> decide

/-- A text names a format exactly when it is that format's name. -/
theorem ofName?_eq_some_iff {text : String} {format : Format} :
    ofName? text = some format ↔ format.name = text := by
  constructor
  · intro h
    simpa using List.find?_some h
  · rintro rfl
    exact ofName?_name format

end Format

end Lexicon
