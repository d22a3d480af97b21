import Lexicon.Report.Plain

/-!
# Columns of the plain report

A line of the plain report loses the blank characters at its end, and with them the filling of all
columns behind the last field that is not empty. Since no field ends in a blank character, only
spaces of the filling are lost. So a line gives its fields back: cut at the places of the columns,
it shows in every piece a field and spaces, no matter how many spaces are put behind it again.

* `Blank.EndsVisible` — a text does not end in a blank character, as no trimmed text does;
* `Plain.SpaceEnded` — trimming takes off spaces only, as from every line with such fields;
* `Plain.fieldsOf` — the fields of a line, with `Plain.fieldsOf_append_spaces`;
* `Plain.fieldsOf_wide` — the fields of a line before it is trimmed;
* `Plain.row_columns` — a line gives its fields back.
-/

namespace Lexicon

/-! ### The end of a text -/

namespace Blank

/-- Some text does not end in a blank character. -/
def EndsVisible (text : List Char) : Prop :=
  ∀ c ∈ text.getLast?, isBlank c = false

theorem EndsVisible.nil : EndsVisible [] :=
  nofun

theorem EndsVisible.append {field : List Char} (visible : EndsVisible field) (nonempty : field ≠ [])
    (text : List Char) : EndsVisible (text ++ field) := by
  have ends : (text ++ field).getLast? = field.getLast? := by
    rw [List.getLast?_append, List.getLast?_eq_some_getLast nonempty, Option.some_or]
  unfold EndsVisible
  rw [ends]
  exact visible

/-- A text that does not end in a blank character stays as it is. -/
theorem trimEnd_of_endsVisible {text : List Char} (visible : EndsVisible text) :
    trimEnd text = text := by
  unfold EndsVisible at visible
  rw [List.getLast?_eq_head?_reverse] at visible
  have stays : text.reverse.dropWhile isBlank = text.reverse := by
    cases reversed : text.reverse with
    | nil => rfl
    | cons c rest =>
      have first : isBlank c = false := visible c (by rw [reversed]; rfl)
      rw [List.dropWhile_cons_of_neg (by simp [first])]
  rw [trimEnd, stays, List.reverse_reverse]

/-- A trimmed text does not end in a blank character. -/
theorem endsVisible_trimEnd (text : List Char) : EndsVisible (trimEnd text) := by
  intro c last
  rw [trimEnd, List.getLast?_reverse] at last
  have first := List.head?_dropWhile_not isBlank text.reverse
  rw [Option.mem_def.mp last] at first
  exact first

theorem trimEnd_append_spaces (text : List Char) (count : Nat) :
    trimEnd (text ++ List.replicate count ' ') = trimEnd text := by
  apply trimEnd_append_blanks
  intro c member
  rw [List.eq_of_mem_replicate member]
  rfl

end Blank

namespace Plain

open Blank

/-! ### What is lost at the end of a line -/

/-- Trimming a text takes off spaces and no other blank character. -/
def SpaceEnded (text : List Char) : Prop :=
  ∃ count, text = trimEnd text ++ List.replicate count ' '

namespace SpaceEnded

theorem of_endsVisible {text : List Char} (visible : EndsVisible text) : SpaceEnded text :=
  ⟨0, by rw [trimEnd_of_endsVisible visible, List.replicate_zero, List.append_nil]⟩

theorem append_spaces {text : List Char} (ended : SpaceEnded text) (count : Nat) :
    SpaceEnded (text ++ List.replicate count ' ') := by
  obtain ⟨lost, split⟩ := ended
  refine ⟨lost + count, ?_⟩
  rw [trimEnd_append_spaces, ← List.replicate_append_replicate, ← List.append_assoc, ← split]

/-- Behind an empty field the text ends as before, behind any other one it ends visibly. -/
theorem append_field {text field : List Char} (ended : SpaceEnded text)
    (visible : EndsVisible field) : SpaceEnded (text ++ field) := by
  by_cases empty : field = []
  · rw [empty, List.append_nil]
    exact ended
  · exact of_endsVisible (visible.append empty text)

theorem append_pad {text : List Char} {field : String} (ended : SpaceEnded text)
    (visible : EndsVisible field.toList) (width : Nat) :
    SpaceEnded (text ++ pad width field) := by
  rw [pad, List.rightpad, ← List.append_assoc]
  exact (ended.append_field visible).append_spaces _

end SpaceEnded

/-! ### Cutting a line -/

/-- The fields of a line; that of the fixed spelling is empty if there is none. -/
structure Fields where
  ordinal : String
  name : String
  group : String
  lexeme : String
deriving DecidableEq, Repr

/-- A piece of a line without the filling at its end. -/
def cut (start width : Nat) (line : List Char) : String :=
  String.ofList (trimEnd ((line.drop start).take width))

/-- The pieces of a line at the places of the columns; the last column is open to the right. -/
def fieldsOf (line : List Char) : Fields where
  ordinal := cut 0 7 line
  name := cut 9 10 line
  group := cut 21 9 line
  lexeme := String.ofList (trimEnd (line.drop 32))

/-- Spaces behind a text are spaces behind what is left of it when its beginning is dropped. -/
theorem exists_drop_append_spaces (start : Nat) (text : List Char) (count : Nat) :
    ∃ left, (text ++ List.replicate count ' ').drop start =
      text.drop start ++ List.replicate left ' ' :=
  ⟨count - (start - text.length), by rw [List.drop_append, List.drop_replicate]⟩

theorem cut_append_spaces (start width : Nat) (line : List Char) (count : Nat) :
    cut start width (line ++ List.replicate count ' ') = cut start width line := by
  obtain ⟨left, dropped⟩ := exists_drop_append_spaces start line count
  rw [cut, dropped, List.take_append, List.take_replicate, trimEnd_append_spaces, cut]

/-- Spaces behind a line do not change its fields. -/
theorem fieldsOf_append_spaces (line : List Char) (count : Nat) :
    fieldsOf (line ++ List.replicate count ' ') = fieldsOf line := by
  obtain ⟨left, dropped⟩ := exists_drop_append_spaces 32 line count
  simp only [fieldsOf, cut_append_spaces, dropped, trimEnd_append_spaces]

/-- The piece at the place of a text is the text. -/
theorem cut_append {start width : Nat} {before field : List Char} (place : before.length = start)
    (wide : field.length = width) (after : List Char) :
    cut start width (before ++ (field ++ after)) = String.ofList (trimEnd field) := by
  rw [cut, List.drop_left' place, List.take_left' wide]

theorem length_pad {width : Nat} {field : String} (short : field.length ≤ width) :
    (pad width field).length = width := by
  rw [pad, List.length_rightpad, String.length_toList]
  omega

theorem trimEnd_pad {field : String} (visible : EndsVisible field.toList) (width : Nat) :
    String.ofList (trimEnd (pad width field)) = field := by
  rw [pad, List.rightpad, trimEnd_append_spaces, trimEnd_of_endsVisible visible,
    String.ofList_toList]

/-! ### Lines -/

/-- A line before it is trimmed. -/
def wide (fields : Fields) : List Char :=
  pad 7 fields.ordinal ++ [' ', ' '] ++ pad 10 fields.name ++ [' ', ' '] ++ pad 9 fields.group
    ++ ([' ', ' '] ++ fields.lexeme.toList)

/-- A line is trimmed, so that a missing spelling cannot be told from an empty one. -/
theorem row_eq (ordinal name group : String) (lexeme : Option String) :
    row ordinal name group lexeme =
      String.ofList (trimEnd (wide ⟨ordinal, name, group, lexeme.getD ""⟩) ++ ['\n']) := by
  cases lexeme with
  | some text => rfl
  | none =>
    have empty : wide ⟨ordinal, name, group, ""⟩ = _ ++ List.replicate 2 ' ' := rfl
    rw [Option.getD_none, empty, trimEnd_append_spaces, row, List.append_nil]

/-- A field that can be read back: it stands on one line and does not end in a blank character. -/
structure IsField (field : String) : Prop where
  oneLine : '\n' ∉ field.toList
  visible : EndsVisible field.toList

/-- Every field can be read back, and the first three fit their columns. -/
structure Fitting (fields : Fields) : Prop where
  ordinal : IsField fields.ordinal
  name : IsField fields.name
  group : IsField fields.group
  lexeme : IsField fields.lexeme
  length_ordinal : fields.ordinal.length ≤ 7
  length_name : fields.name.length ≤ 10
  length_group : fields.group.length ≤ 9

variable {fields : Fields}

/-- Trimming a line takes off spaces only. -/
theorem spaceEnded_wide (fitting : Fitting fields) : SpaceEnded (wide fields) := by
  have spaces {text : List Char} (ended : SpaceEnded text) : SpaceEnded (text ++ [' ', ' ']) :=
    ended.append_spaces 2
  have ordinal : SpaceEnded (pad 7 fields.ordinal) :=
    (SpaceEnded.of_endsVisible .nil).append_pad fitting.ordinal.visible 7
  have name := (spaces ordinal).append_pad fitting.name.visible 10
  have group := (spaces name).append_pad fitting.group.visible 9
  rw [wide, ← List.append_assoc]
  exact (spaces group).append_field fitting.lexeme.visible

theorem newline_not_mem_pad {field : String} (isField : IsField field) (width : Nat) :
    '\n' ∉ pad width field := by
  rw [pad, List.rightpad, List.mem_append, not_or]
  refine ⟨isField.oneLine, ?_⟩
  intro member
  cases List.eq_of_mem_replicate member

theorem newline_not_mem_trimEnd (fitting : Fitting fields) : '\n' ∉ trimEnd (wide fields) := by
  have whole : '\n' ∉ wide fields := by
    simp [wide, newline_not_mem_pad fitting.ordinal, newline_not_mem_pad fitting.name,
      newline_not_mem_pad fitting.group, fitting.lexeme.oneLine]
  obtain ⟨lost, split⟩ := spaceEnded_wide fitting
  intro member
  apply whole
  rw [split]
  exact List.mem_append_left _ member

/-- A line before it is trimmed has every field in its column. -/
theorem fieldsOf_wide (fitting : Fitting fields) : fieldsOf (wide fields) = fields := by
  have first := length_pad fitting.length_ordinal
  have second := length_pad fitting.length_name
  have third := length_pad fitting.length_group
  have ordinal : cut 0 7 (wide fields) = fields.ordinal := by
    have split : wide fields = [] ++ (pad 7 fields.ordinal ++ ([' ', ' '] ++ (pad 10 fields.name
        ++ ([' ', ' '] ++ (pad 9 fields.group ++ ([' ', ' '] ++ fields.lexeme.toList)))))) := by
      simp only [wide, List.append_assoc, List.nil_append]
    rw [split, cut_append List.length_nil first, trimEnd_pad fitting.ordinal.visible]
  have name : cut 9 10 (wide fields) = fields.name := by
    have split : wide fields = pad 7 fields.ordinal ++ [' ', ' '] ++ (pad 10 fields.name
        ++ ([' ', ' '] ++ (pad 9 fields.group ++ ([' ', ' '] ++ fields.lexeme.toList)))) := by
      simp only [wide, List.append_assoc]
    rw [split, cut_append (by simp [first]) second, trimEnd_pad fitting.name.visible]
  have group : cut 21 9 (wide fields) = fields.group := by
    have split : wide fields = pad 7 fields.ordinal ++ [' ', ' '] ++ pad 10 fields.name
        ++ [' ', ' '] ++ (pad 9 fields.group ++ ([' ', ' '] ++ fields.lexeme.toList)) := by
      simp only [wide, List.append_assoc]
    rw [split, cut_append (by simp [first, second]) third, trimEnd_pad fitting.group.visible]
  have lexeme : String.ofList (trimEnd ((wide fields).drop 32)) = fields.lexeme := by
    have place : (pad 7 fields.ordinal ++ [' ', ' '] ++ pad 10 fields.name ++ [' ', ' ']
        ++ pad 9 fields.group ++ [' ', ' ']).length = 32 := by
      simp [first, second, third]
    rw [wide, ← List.append_assoc, List.drop_left' place,
      trimEnd_of_endsVisible fitting.lexeme.visible, String.ofList_toList]
  rw [fieldsOf, ordinal, name, group, lexeme]

/-- A line has every field in its column, although it was trimmed. -/
theorem fieldsOf_trimEnd (fitting : Fitting fields) :
    fieldsOf (trimEnd (wide fields)) = fields := by
  obtain ⟨lost, split⟩ := spaceEnded_wide fitting
  calc fieldsOf (trimEnd (wide fields))
      = fieldsOf (trimEnd (wide fields) ++ List.replicate lost ' ') :=
        (fieldsOf_append_spaces _ lost).symm
    _ = fieldsOf (wide fields) := by rw [← split]
    _ = fields := fieldsOf_wide fitting

/-- **A line gives its fields back.** It is one line that does not end in a blank character, and
with any number of spaces behind it, it shows every field in its column. So two lines are equal only
if their fields are. -/
theorem row_columns (out : String) {ordinal name group : String} {lexeme : Option String}
    (fitting : Fitting ⟨ordinal, name, group, lexeme.getD ""⟩) :
    (∃ line : String, out ++ row ordinal name group lexeme = out ++ line ++ "\n" ∧
      '\n' ∉ line.toList ∧ EndsVisible line.toList ∧
      ∀ count, fieldsOf (line.toList ++ List.replicate count ' ') =
        ⟨ordinal, name, group, lexeme.getD ""⟩) ∧
    ∀ (ordinal' name' group' : String) (lexeme' : Option String),
      Fitting ⟨ordinal', name', group', lexeme'.getD ""⟩ →
      row ordinal name group lexeme = row ordinal' name' group' lexeme' →
      ordinal = ordinal' ∧ name = name' ∧ group = group' ∧ lexeme.getD "" = lexeme'.getD "" := by
  refine ⟨⟨String.ofList (trimEnd (wide ⟨ordinal, name, group, lexeme.getD ""⟩)), ?_, ?_, ?_, ?_⟩,
    ?_⟩
  · rw [row_eq, String.ofList_append, String.append_assoc]
  · rw [String.toList_ofList]
    exact newline_not_mem_trimEnd fitting
  · rw [String.toList_ofList]
    exact endsVisible_trimEnd _
  · intro count
    rw [String.toList_ofList, fieldsOf_append_spaces, fieldsOf_trimEnd fitting]
  · intro ordinal' name' group' lexeme' fitting' same
    rw [row_eq, row_eq, String.ofList_inj, List.append_cancel_right_eq] at same
    have read := congrArg fieldsOf same
    rw [fieldsOf_trimEnd fitting, fieldsOf_trimEnd fitting', Fields.mk.injEq] at read
    exact read

/-- Trimming reaches back through two empty columns to a name beyond ASCII. -/
theorem row_columns_trimmed :
    Fitting ⟨"7", "größe中", "", ""⟩ ∧
    ∃ line : String, "0\n" ++ row "7" "größe中" "" none = "0\n" ++ line ++ "\n" ∧
      '\n' ∉ line.toList ∧ EndsVisible line.toList ∧
      ∀ count, fieldsOf (line.toList ++ List.replicate count ' ') = ⟨"7", "größe中", "", ""⟩ := by
  have fitting : Fitting ⟨"7", "größe中", "", ""⟩ :=
    { ordinal := ⟨by decide, by rintro c ⟨⟩; rfl⟩
      name := ⟨by decide, by rintro c ⟨⟩; rfl⟩
      group := ⟨by decide, .nil⟩
      lexeme := ⟨by decide, .nil⟩
      length_ordinal := by decide
      length_name := by decide
      length_group := by decide }
  exact ⟨fitting, (@row_columns "0\n" "7" "größe中" "" none fitting).1⟩

end Plain

end Lexicon
