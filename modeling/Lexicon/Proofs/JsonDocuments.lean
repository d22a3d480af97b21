import Lexicon.Proofs.Numerals
import Lexicon.Proofs.Quoting
import Lexicon.Text.Json

/-!
# Reading JSON documents

A reader for documents, and the law that it undoes writing. The reader takes one character at a
time: a scanner turns characters into tokens, and a stack of open containers turns tokens into a
value. Any spaces, tabs and line ends may stand between tokens. Whatever no value of `Json` stands
for is refused (truth values, fractions, exponents, half a surrogate pair), and so is whatever is no
JSON at all: a leading zero, a bare control character in a string, a comma without a successor,
anything behind the value.

* `Json.read?` — the value of a document;
* `Json.Reads` — a written value is read as that value, whatever follows it;
* `Json.reads_number`, `Json.reads_string`, `Json.reads_array`, `Json.reads_object` — the cases;
* `Json.read?_pretty_append`, `Json.read?_pretty` — the reader undoes writing.
-/

namespace Lexicon.Json

/-! ### Tokens -/

/-- The characters that may stand between tokens. -/
def blanks : List Char :=
  [' ', '\t', '\n', '\r']

/-- The marks and the scalars that a document consists of. -/
inductive Token where
  | openArray
  | closeArray
  | openObject
  | closeObject
  | comma
  | colon
  | null
  | number (value : Int)
  | string (value : String)
deriving DecidableEq, Repr

/-- What the characters just read have begun. -/
inductive Scan where
  /-- Nothing. -/
  | between
  /-- The word `null`, of which these letters are due. -/
  | word (due : List Char)
  /-- A number, of which the sign was read. -/
  | minus
  /-- A number of this magnitude so far, below zero or not. -/
  | digits (negative : Bool) (magnitude : Nat)
  /-- A string, of which these characters were read, the last one first. -/
  | text (before : List Char)
  /-- An escape in a string, of which the backslash was read. -/
  | escaped (before : List Char)
  /-- A code of four digits in a string, of which digits of this value were read and some are due.
  It may stand behind the first half of a surrogate pair. -/
  | code (before : List Char) (high : Option Nat) (due value : Nat)
  /-- The first half of a surrogate pair. -/
  | half (before : List Char) (high : Nat)
  /-- The first half of a surrogate pair and the backslash behind it. -/
  | halfEscaped (before : List Char) (high : Nat)
deriving DecidableEq, Repr

namespace Scan

/-- The tokens that one character completes, and what is begun after it. -/
abbrev Advance := List Token × Scan

def signed (negative : Bool) (magnitude : Nat) : Int :=
  if negative then -magnitude else magnitude

def digit (c : Char) : Nat :=
  c.toNat - '0'.toNat

/-- Reads a character where a token may begin. -/
def start (c : Char) : Option Advance :=
  if c ∈ blanks then some ([], between)
  else if c = '[' then some ([.openArray], between)
  else if c = ']' then some ([.closeArray], between)
  else if c = Char.ofNat 0x7B then some ([.openObject], between)
  else if c = Char.ofNat 0x7D then some ([.closeObject], between)
  else if c = ',' then some ([.comma], between)
  else if c = ':' then some ([.colon], between)
  else if c = 'n' then some ([], word ['u', 'l', 'l'])
  else if c = '-' then some ([], minus)
  else if c = '"' then some ([], text [])
  else if c.isDigit then some ([], digits false (digit c))
  else none

/-- The character that a short escape stands for. -/
def unescape? (c : Char) : Option Char :=
  if c = 'b' then some '\x08'
  else if c = 'f' then some '\x0c'
  else if c = 'n' then some '\n'
  else if c = 'r' then some '\r'
  else if c = 't' then some '\t'
  else if c ∈ ['"', '\\', '/'] then some c
  else none

/-- What follows a code: a code that is no character is the first half of a surrogate pair or the
second one, and the two halves make up one character. -/
def codeEnd (before : List Char) (high : Option Nat) (value : Nat) : Option Advance :=
  match high with
  | none =>
    if value.isValidChar then some ([], text (Char.ofNat value :: before))
    else if value < 0xDC00 then some ([], half before value)
    else none
  | some high =>
    if 0xDC00 ≤ value ∧ value < 0xE000 then
      some ([], text (Char.ofNat (0x10000 + (high - 0xD800) * 0x400 + (value - 0xDC00)) :: before))
    else none

/-- Reads one more digit of a code, in either case. -/
def codeStep (before : List Char) (high : Option Nat) (due value : Nat) (c : Char) :
    Option Advance :=
  (Hex.digit? c).bind fun digit =>
    if 1 < due then some ([], code before high (due - 1) (value * 16 + digit))
    else codeEnd before high (value * 16 + digit)

def step : Scan → Char → Option Advance
  | between, c => start c
  | word due, c =>
    if due.head? = some c then
      some (if due.length = 1 then ([.null], between) else ([], word due.tail))
    else none
  | minus, c => if c.isDigit then some ([], digits true (digit c)) else none
  | digits negative magnitude, c =>
    if c.isDigit then
      -- The magnitude is zero behind a leading zero only.
      if magnitude = 0 then none else some ([], digits negative (magnitude * 10 + digit c))
    else (start c).map fun advance =>
      (.number (signed negative magnitude) :: advance.1, advance.2)
  | text before, c =>
    if c = '"' then some ([.string (String.ofList before.reverse)], between)
    else if c = '\\' then some ([], escaped before)
    else if c.toNat < 0x20 then none
    else some ([], text (c :: before))
  | escaped before, c =>
    if c = 'u' then some ([], code before none 4 0)
    else (unescape? c).map fun c => ([], text (c :: before))
  | code before high due value, c => codeStep before high due value c
  | half before high, c => if c = '\\' then some ([], halfEscaped before high) else none
  | halfEscaped before high, c => if c = 'u' then some ([], code before (some high) 4 0) else none

/-- The tokens that the end of the text completes. -/
def finish : Scan → Option (List Token)
  | between => some []
  | digits negative magnitude => some [.number (signed negative magnitude)]
  | _ => none

end Scan

/-! ### Values -/

/-- An open container, with what it holds so far, the last one first. -/
inductive Frame where
  | elements (before : List Json)
  | members (before : List (String × Json)) (key : String)

/-- What has to come next, inside some open containers. -/
inductive Stage where
  /-- A value, or the end of an array without elements. -/
  | value (frames : List Frame)
  /-- A key, or the end of an object without members. -/
  | key (frames : List Frame) (before : List (String × Json))
  /-- The colon behind a key. -/
  | colon (frames : List Frame) (before : List (String × Json)) (key : String)
  /-- A comma or a closing bracket, behind a value. -/
  | ended (frames : List Frame) (value : Json)

namespace Stage

/-- Reads a token where a value may begin. A comma is never followed by a closing bracket: behind it
an array has elements. -/
def start (frames : List Frame) : Token → Option Stage
  | .null => some (ended frames .null)
  | .number amount => some (ended frames (.number amount))
  | .string text => some (ended frames (.string text))
  | .openArray => some (value (.elements [] :: frames))
  | .openObject => some (key frames [])
  | .closeArray =>
    match frames with
    | .elements [] :: frames => some (ended frames (.array []))
    | _ => none
  | _ => none

/-- Reads a token behind a value of a container. -/
def behind (frames : List Frame) (item : Json) : Frame → Token → Option Stage
  | .elements before, .comma => some (value (.elements (item :: before) :: frames))
  | .elements before, .closeArray => some (ended frames (.array (item :: before).reverse))
  | .members before name, .comma => some (key frames ((name, item) :: before))
  | .members before name, .closeObject =>
    some (ended frames (.object ((name, item) :: before).reverse))
  | _, _ => none

def step : Stage → Token → Option Stage
  | value frames, token => start frames token
  | key frames before, .string name => some (colon frames before name)
  | key frames [], .closeObject => some (ended frames (.object []))
  | colon frames before name, .colon => some (value (.members before name :: frames))
  | ended (frame :: frames) item, token => behind frames item frame token
  | _, _ => none

/-- The value, if it is complete and no container is open. -/
def result? : Stage → Option Json
  | ended [] item => some item
  | _ => none

end Stage

/-- Reads a text to its end. -/
def readFrom (scan : Scan) (stage : Stage) : List Char → Option Json
  | [] => (scan.finish.bind (·.foldlM Stage.step stage)).bind Stage.result?
  | c :: rest =>
    (scan.step c).bind fun advance =>
      (advance.1.foldlM Stage.step stage).bind fun stage => readFrom advance.2 stage rest

/-- The value of a document, if a text is one. -/
def read? (document : String) : Option Json :=
  readFrom .between (.value []) document.toList

/-! ### Reading a character -/

section Characters

variable {scan next : Scan} {stage : Stage} {c : Char}

/-- A character that completes no token leaves the value as it was. -/
theorem readFrom_cons (begun : scan.step c = some ([], next)) (rest : List Char) :
    readFrom scan stage (c :: rest) = readFrom next stage rest := by
  rw [readFrom, begun]
  rfl

/-- A character that completes a token hands it on. -/
theorem readFrom_cons_token {token : Token} (completed : scan.step c = some ([token], next))
    (rest : List Char) :
    readFrom scan stage (c :: rest) =
      (stage.step token).bind fun stage => readFrom next stage rest := by
  simp [readFrom, completed]

end Characters

variable {stage : Stage}

theorem readFrom_blanks {gap : List Char} (blank : ∀ c ∈ gap, c ∈ blanks) (stage : Stage)
    (rest : List Char) :
    readFrom .between stage (gap ++ rest) = readFrom .between stage rest := by
  induction gap with
  | nil => rfl
  | cons c gap ih =>
    obtain ⟨first, others⟩ := List.forall_mem_cons.mp blank
    have skipped : Scan.between.step c = some ([], .between) := if_pos first
    rw [List.cons_append, readFrom_cons skipped, ih others]

theorem mem_blanks_of_mem_newLine {level : Nat} {c : Char} (member : c ∈ newLine level) :
    c ∈ blanks := by
  rcases List.mem_cons.mp member with rfl | member
  · simp [blanks]
  · rw [List.eq_of_mem_replicate member]
    simp [blanks]

theorem readFrom_newLine (stage : Stage) (level : Nat) (rest : List Char) :
    readFrom .between stage (newLine level ++ rest) = readFrom .between stage rest :=
  readFrom_blanks (fun _ => mem_blanks_of_mem_newLine) stage rest

/-! ### Reading numbers -/

/-- Some text does not go on with a digit, so that a number may end before it. -/
def Apart (rest : List Char) : Prop :=
  ∀ c ∈ rest.head?, c.isDigit = false

theorem Apart.cons {c : Char} (other : c.isDigit = false) (rest : List Char) :
    Apart (c :: rest) := by
  rintro _ ⟨⟩
  exact other

/-- A number ends where no digit follows. -/
theorem readFrom_digits {rest : List Char} (apart : Apart rest) (negative : Bool)
    (magnitude : Nat) :
    readFrom (.digits negative magnitude) stage rest =
      (stage.step (.number (Scan.signed negative magnitude))).bind fun stage =>
        readFrom .between stage rest := by
  cases rest with
  | nil =>
    cases reached : stage.step (.number (Scan.signed negative magnitude)) with
    | none => simp [readFrom, Scan.finish, reached]
    | some stage => simp [readFrom, Scan.finish, reached]
  | cons c rest =>
    have other : ¬ c.isDigit = true := by simp [apart c rfl]
    simp only [readFrom, Scan.step, if_neg other]
    cases Scan.start c with
    | none => simp
    | some advance => simp [Option.bind_assoc]

/-- `Opens scan negative`: a number of this sign goes on with its first digit. -/
def Opens (scan : Scan) (negative : Bool) : Prop :=
  ∀ digit < 10, scan.step digit.digitChar = some ([], .digits negative digit)

theorem opens_between : Opens .between false := by
  unfold Opens
  decide

theorem opens_minus : Opens .minus true := by
  unfold Opens
  decide

theorem digit_digitChar : ∀ digit < 10,
    digit.digitChar.isDigit = true ∧ Scan.digit digit.digitChar = digit := by
  decide

theorem step_digits (negative : Bool) {magnitude digit : Nat} (begun : magnitude ≠ 0)
    (small : digit < 10) :
    (Scan.digits negative magnitude).step digit.digitChar =
      some ([], .digits negative (magnitude * 10 + digit)) := by
  obtain ⟨isDigit, value⟩ := digit_digitChar digit small
  rw [Scan.step, if_pos isDigit, if_neg begun, value]

/-- The digits of a magnitude are read as that magnitude. -/
theorem readFrom_toDigits {scan : Scan} {negative : Bool} (opens : Opens scan negative)
    (magnitude : Nat) (rest : List Char) :
    readFrom scan stage (Nat.toDigits 10 magnitude ++ rest) =
      readFrom (.digits negative magnitude) stage rest := by
  induction magnitude using Nat.strongRecOn generalizing rest with
  | ind magnitude ih =>
    by_cases small : magnitude < 10
    · rw [Nat.toDigits_of_lt_base small, List.singleton_append,
        readFrom_cons (opens magnitude small)]
    · -- The last digit is read behind the magnitude of those before it.
      have last : magnitude % 10 < 10 := Nat.mod_lt _ (by omega)
      have before : magnitude / 10 ≠ 0 := by omega
      rw [Nat.toDigits_of_base_le (by omega) (by omega), List.append_assoc,
        ih (magnitude / 10) (by omega), List.singleton_append,
        readFrom_cons (step_digits negative before last), Nat.div_add_mod']

/-- A printed number is read as that number. -/
theorem readFrom_toString (amount : Int) {rest : List Char} (apart : Apart rest) :
    readFrom .between stage ((toString amount).toList ++ rest) =
      (stage.step (.number amount)).bind fun stage => readFrom .between stage rest := by
  rw [Decimal.toList_toString]
  split
  · rename_i below
    have value : Scan.signed true amount.natAbs = amount := by
      rw [Scan.signed, if_pos rfl]
      omega
    rw [List.singleton_append, List.cons_append, readFrom_cons rfl, readFrom_toDigits opens_minus,
      readFrom_digits apart, value]
  · rename_i above
    have value : Scan.signed false amount.natAbs = amount := by
      rw [Scan.signed, if_neg Bool.false_ne_true]
      omega
    rw [List.nil_append, readFrom_toDigits opens_between, readFrom_digits apart, value]

/-! ### Reading strings -/

/-- `Short c mark`: the character is written as a backslash and a mark. -/
inductive Short : Char → Char → Prop where
  | quotationMark : Short '"' '"'
  | backslash : Short '\\' '\\'
  | backspace : Short '\x08' 'b'
  | formFeed : Short '\x0c' 'f'
  | lineFeed : Short '\n' 'n'
  | carriageReturn : Short '\r' 'r'
  | tab : Short '\t' 't'

/-- What stands for a character of a string: a short escape, its code, or the character itself, if
it has no part in quoting. -/
theorem escape_cases (c : Char) :
    (∃ mark, Short c mark ∧ escape c = ['\\', mark]) ∨
      (c.toNat < 0x20 ∧ escape c = '\\' :: 'u' :: hex4 c) ∨
      (c ≠ '"' ∧ c ≠ '\\' ∧ ¬ c.toNat < 0x20 ∧ escape c = [c]) := by
  unfold escape
  by_cases quotationMark : c = '"'
  · exact .inl ⟨'"', quotationMark ▸ .quotationMark, if_pos quotationMark⟩
  rw [if_neg quotationMark]
  by_cases backslash : c = '\\'
  · exact .inl ⟨'\\', backslash ▸ .backslash, if_pos backslash⟩
  rw [if_neg backslash]
  by_cases backspace : c = '\x08'
  · exact .inl ⟨'b', backspace ▸ .backspace, if_pos backspace⟩
  rw [if_neg backspace]
  by_cases formFeed : c = '\x0c'
  · exact .inl ⟨'f', formFeed ▸ .formFeed, if_pos formFeed⟩
  rw [if_neg formFeed]
  by_cases lineFeed : c = '\n'
  · exact .inl ⟨'n', lineFeed ▸ .lineFeed, if_pos lineFeed⟩
  rw [if_neg lineFeed]
  by_cases carriageReturn : c = '\r'
  · exact .inl ⟨'r', carriageReturn ▸ .carriageReturn, if_pos carriageReturn⟩
  rw [if_neg carriageReturn]
  by_cases tab : c = '\t'
  · exact .inl ⟨'t', tab ▸ .tab, if_pos tab⟩
  rw [if_neg tab]
  by_cases control : c.toNat < 0x20
  · exact .inr (.inl ⟨control, if_pos control⟩)
  · exact .inr (.inr ⟨quotationMark, backslash, control, if_neg control⟩)

theorem step_escaped (before : List Char) {c mark : Char} (short : Short c mark) :
    (Scan.escaped before).step mark = some ([], .text (c :: before)) := by
  cases short <;> rfl

/-- A control character has two digits behind two zeros. -/
theorem hex4_eq {c : Char} (control : c.toNat < 0x20) :
    hex4 c = ['0', '0', (c.toNat / 16).digitChar, (c.toNat % 16).digitChar] := by
  have all : ∀ n < 0x20, (Nat.toDigits 16 n).leftpad 4 '0' =
      ['0', '0', (n / 16).digitChar, (n % 16).digitChar] := by decide
  exact all c.toNat control

theorem step_code (before : List Char) (high : Option Nat) {due digit : Nat} (more : 1 < due)
    (small : digit < 16) (value : Nat) :
    (Scan.code before high due value).step digit.digitChar =
      some ([], .code before high (due - 1) (value * 16 + digit)) := by
  rw [Scan.step, Scan.codeStep, Hex.digit?_digitChar small, Option.bind_some, if_pos more]

theorem step_code_last (before : List Char) {c : Char} {digit value : Nat} (small : digit < 16)
    (whole : value * 16 + digit = c.toNat) :
    (Scan.code before none 1 value).step digit.digitChar = some ([], .text (c :: before)) := by
  have valid : c.toNat.isValidChar := c.valid
  rw [Scan.step, Scan.codeStep, Hex.digit?_digitChar small, Option.bind_some,
    if_neg (Nat.lt_irrefl 1), whole, Scan.codeEnd, if_pos valid, Char.ofNat_toNat]

/-- The code of a control character is read as that character. -/
theorem readFrom_hex4 (before : List Char) {c : Char} (control : c.toNat < 0x20)
    (rest : List Char) :
    readFrom (.code before none 4 0) stage (hex4 c ++ rest) =
      readFrom (.text (c :: before)) stage rest := by
  have zero (due : Nat) (more : 1 < due) :
      (Scan.code before none due 0).step '0' = some ([], .code before none (due - 1) 0) :=
    step_code before none more (show 0 < 16 by omega) 0
  have high := step_code before none (show 1 < 2 by omega) (show c.toNat / 16 < 16 by omega) 0
  have low := step_code_last before (show c.toNat % 16 < 16 by omega)
    (show (0 * 16 + c.toNat / 16) * 16 + c.toNat % 16 = c.toNat by omega)
  rw [hex4_eq control]
  calc readFrom (.code before none 4 0) stage (['0', '0', _, _] ++ rest)
      = readFrom (.code before none 3 0) stage (['0', _, _] ++ rest) :=
        readFrom_cons (zero 4 (by omega)) _
    _ = readFrom (.code before none 2 0) stage ([_, _] ++ rest) :=
        readFrom_cons (zero 3 (by omega)) _
    _ = readFrom (.code before none 1 _) stage ([_] ++ rest) := readFrom_cons high _
    _ = readFrom (.text (c :: before)) stage rest := readFrom_cons low _

/-- What stands for a character of a string is read as that character. -/
theorem readFrom_escape (before : List Char) (c : Char) (rest : List Char) :
    readFrom (.text before) stage (escape c ++ rest) =
      readFrom (.text (c :: before)) stage rest := by
  rcases escape_cases c with ⟨mark, short, shown⟩ | ⟨control, shown⟩ |
    ⟨notMark, notBackslash, visible, shown⟩
  · rw [shown, List.cons_append, List.singleton_append, readFrom_cons rfl,
      readFrom_cons (step_escaped before short)]
  · rw [shown, List.cons_append, List.cons_append, readFrom_cons rfl, readFrom_cons rfl,
      readFrom_hex4 before control]
  · have itself : (Scan.text before).step c = some ([], .text (c :: before)) := by
      rw [Scan.step, if_neg notMark, if_neg notBackslash, if_neg visible]
    rw [shown, List.singleton_append, readFrom_cons itself]

/-- A quoted text is read as that text. -/
theorem readFrom_quote (text : String) (rest : List Char) :
    readFrom .between stage (quote text ++ rest) =
      (stage.step (.string text)).bind fun stage => readFrom .between stage rest := by
  have inside (before chars : List Char) :
      readFrom (.text before) stage (chars.flatMap escape ++ '"' :: rest) =
        (stage.step (.string (String.ofList (before.reverse ++ chars)))).bind fun stage =>
          readFrom .between stage rest := by
    induction chars generalizing before with
    | nil => rw [List.flatMap_nil, List.nil_append, List.append_nil, readFrom_cons_token rfl]
    | cons c chars ih =>
      rw [List.flatMap_cons, List.append_assoc, readFrom_escape, ih, List.reverse_cons,
        List.append_assoc, List.singleton_append]
  have opening : quote text ++ rest = '"' :: (text.toList.flatMap escape ++ '"' :: rest) := by
    simp [quote]
  rw [opening, readFrom_cons rfl, inside, List.reverse_nil, List.nil_append, String.ofList_toList]

/-! ### Reading values -/

/-- A value is proved to have a property from its elements or members up. -/
theorem induct {P : Json → Prop} (null : P .null) (number : ∀ amount, P (.number amount))
    (string : ∀ text, P (.string text))
    (array : ∀ elements, (∀ element ∈ elements, P element) → P (.array elements))
    (object : ∀ members : List (String × Json), (∀ member ∈ members, P member.2) →
      P (.object members)) (value : Json) : P value :=
  @Json.rec P (fun elements => ∀ element ∈ elements, P element)
    (fun members => ∀ member ∈ members, P member.2) (fun member => P member.2)
    null number string array object nofun
    (fun _ _ first others => List.forall_mem_cons.mpr ⟨first, others⟩) nofun
    (fun _ _ first others => List.forall_mem_cons.mpr ⟨first, others⟩) (fun _ _ item => item) value

/-- A written value is read as that value, wherever a value may stand and whatever follows it. -/
def Reads (item : Json) : Prop :=
  ∀ (level : Nat) (frames : List Frame) (rest : List Char), Apart rest →
    readFrom .between (.value frames) (write level item ++ rest) =
      readFrom .between (.ended frames item) rest

theorem reads_null : Reads .null := by
  intro level frames rest _
  rw [write]
  rfl

theorem reads_number (amount : Int) : Reads (.number amount) := by
  intro level frames rest apart
  rw [write, readFrom_toString amount apart]
  rfl

theorem reads_string (text : String) : Reads (.string text) := by
  intro level frames rest _
  rw [write, readFrom_quote]
  rfl

theorem apart_newLine (level : Nat) (rest : List Char) : Apart (newLine level ++ rest) :=
  Apart.cons rfl _

theorem apart_writeElements (level : Nat) (elements : List Json) {rest : List Char}
    (apart : Apart rest) : Apart (writeElements level elements ++ rest) := by
  cases elements with
  | nil => exact apart
  | cons next elements => exact Apart.cons rfl _

/-- Behind an element the others are read, up to the end of the array. -/
theorem readFrom_writeElements {elements : List Json} (all : ∀ element ∈ elements, Reads element)
    (level outer : Nat) (frames : List Frame) (before : List Json) (item : Json)
    (rest : List Char) :
    readFrom .between (.ended (.elements before :: frames) item)
        (writeElements level elements ++ (newLine outer ++ ']' :: rest)) =
      readFrom .between (.ended frames (.array (before.reverse ++ item :: elements))) rest := by
  induction elements generalizing before item with
  | nil =>
    rw [writeElements, List.nil_append, readFrom_newLine, readFrom_cons_token rfl]
    simp [Stage.step, Stage.behind]
  | cons next elements ih =>
    obtain ⟨first, others⟩ := List.forall_mem_cons.mp all
    have apart := apart_writeElements level elements (apart_newLine outer (']' :: rest))
    have comma : (Stage.ended (.elements before :: frames) item).step .comma =
        some (.value (.elements (item :: before) :: frames)) := rfl
    rw [writeElements, List.append_assoc, List.cons_append, List.cons_append, List.append_assoc,
      readFrom_cons_token rfl, comma, Option.bind_some, readFrom_newLine, first level _ _ apart,
      ih others, List.reverse_cons, List.append_assoc, List.singleton_append]

theorem reads_array {elements : List Json} (all : ∀ element ∈ elements, Reads element) :
    Reads (.array elements) := by
  intro level frames rest _
  cases elements with
  | nil =>
    rw [write]
    rfl
  | cons item elements =>
    obtain ⟨first, others⟩ := List.forall_mem_cons.mp all
    have apart := apart_writeElements (level + 1) elements (apart_newLine level (']' :: rest))
    have opened : (Stage.value frames).step .openArray =
        some (.value (.elements [] :: frames)) := rfl
    have split : write level (.array (item :: elements)) ++ rest =
        '[' :: (newLine (level + 1) ++ (write (level + 1) item
          ++ (writeElements (level + 1) elements ++ (newLine level ++ ']' :: rest)))) := by
      simp [write]
    rw [split, readFrom_cons_token rfl, opened, Option.bind_some, readFrom_newLine,
      first (level + 1) _ _ apart, readFrom_writeElements others, List.reverse_nil, List.nil_append]

/-- A written member is read as that member. -/
theorem readFrom_writeMember {item : Json} (reads : Reads item) (level : Nat) (frames : List Frame)
    (before : List (String × Json)) (name : String) {rest : List Char} (apart : Apart rest) :
    readFrom .between (.key frames before) (writeMember level (name, item) ++ rest) =
      readFrom .between (.ended (.members before name :: frames) item) rest := by
  have named : (Stage.key frames before).step (.string name) =
      some (.colon frames before name) := by
    rw [Stage.step]
  have colon : (Stage.colon frames before name).step .colon =
      some (.value (.members before name :: frames)) := rfl
  have split : writeMember level (name, item) ++ rest =
      quote name ++ (':' :: ' ' :: (write level item ++ rest)) := by
    simp [writeMember]
  rw [split, readFrom_quote, named, Option.bind_some, readFrom_cons_token rfl, colon,
    Option.bind_some, readFrom_cons rfl, reads level _ _ apart]

theorem apart_writeMembers (level : Nat) (members : List (String × Json)) {rest : List Char}
    (apart : Apart rest) : Apart (writeMembers level members ++ rest) := by
  cases members with
  | nil => exact apart
  | cons next members => exact Apart.cons rfl _

/-- Behind a member the others are read, up to the end of the object. -/
theorem readFrom_writeMembers {members : List (String × Json)}
    (all : ∀ member ∈ members, Reads member.2) (level outer : Nat) (frames : List Frame)
    (before : List (String × Json)) (name : String) (item : Json) (rest : List Char) :
    readFrom .between (.ended (.members before name :: frames) item)
        (writeMembers level members ++ (newLine outer ++ Char.ofNat 0x7D :: rest)) =
      readFrom .between (.ended frames (.object (before.reverse ++ (name, item) :: members)))
        rest := by
  induction members generalizing before name item with
  | nil =>
    rw [writeMembers, List.nil_append, readFrom_newLine, readFrom_cons_token rfl]
    simp [Stage.step, Stage.behind]
  | cons next members ih =>
    obtain ⟨first, others⟩ := List.forall_mem_cons.mp all
    have apart := apart_writeMembers level members (apart_newLine outer (Char.ofNat 0x7D :: rest))
    have comma : (Stage.ended (.members before name :: frames) item).step .comma =
        some (.key frames ((name, item) :: before)) := rfl
    rw [writeMembers, List.append_assoc, List.cons_append, List.cons_append, List.append_assoc,
      readFrom_cons_token rfl, comma, Option.bind_some, readFrom_newLine,
      readFrom_writeMember first level _ _ next.1 apart, ih others, List.reverse_cons,
      List.append_assoc, List.singleton_append]

theorem reads_object {members : List (String × Json)} (all : ∀ member ∈ members, Reads member.2) :
    Reads (.object members) := by
  intro level frames rest _
  cases members with
  | nil =>
    rw [write]
    rfl
  | cons member members =>
    obtain ⟨first, others⟩ := List.forall_mem_cons.mp all
    have apart := apart_writeMembers (level + 1) members
      (apart_newLine level (Char.ofNat 0x7D :: rest))
    have opened : (Stage.value frames).step .openObject = some (.key frames []) := rfl
    have split : write level (.object (member :: members)) ++ rest =
        Char.ofNat 0x7B :: (newLine (level + 1) ++ (writeMember (level + 1) member
          ++ (writeMembers (level + 1) members
            ++ (newLine level ++ Char.ofNat 0x7D :: rest)))) := by
      simp [write]
    rw [split, readFrom_cons_token rfl, opened, Option.bind_some, readFrom_newLine,
      readFrom_writeMember first (level + 1) _ _ member.1 apart, readFrom_writeMembers others,
      List.reverse_nil, List.nil_append]

/-- Every value is read as it was written. -/
theorem reads (item : Json) : Reads item :=
  induct reads_null reads_number reads_string (fun _ => reads_array) (fun _ => reads_object) item

theorem apart_of_blanks {gap : List Char} (blank : ∀ c ∈ gap, c ∈ blanks) : Apart gap := by
  intro c first
  have member := blank c (List.mem_of_mem_head? first)
  simp only [blanks, List.mem_cons, List.not_mem_nil, or_false] at member
  rcases member with rfl | rfl | rfl | rfl <;> rfl

/-- **The reader undoes writing**, also if blank characters stand behind the document. -/
theorem read?_pretty_append (item : Json) {gap : String} (blank : ∀ c ∈ gap.toList, c ∈ blanks) :
    read? (item.pretty ++ gap) = some item := by
  have ended := readFrom_blanks blank (.ended [] item) []
  rw [List.append_nil] at ended
  rw [read?, pretty, String.toList_append, String.toList_ofList,
    reads item 0 [] _ (apart_of_blanks blank), ended]
  rfl

theorem read?_pretty (item : Json) : read? item.pretty = some item := by
  have nothing : ∀ c ∈ "".toList, c ∈ blanks := nofun
  have read := read?_pretty_append item nothing
  rw [String.append_empty] at read
  exact read

/-- Blank characters, digits of codes in both cases, surrogate pairs and needless escapes are
read. -/
example : read? " [-10, \x7b\"a\" :\t\"\\u00E9\\/\\ud83D\\uDE00\" \x7d ,null,[ ]]\r\n" =
    some (.array [.number (-10), .object [("a", .string "é/😀")], .null, .array []]) := by
  cbv

/-- A comma without a successor, a leading zero, a second value, a bare tab and half a surrogate
pair are refused. -/
example : ["[1,]", "01", "[] []", "\"\t\"", "\"\\ud83d\""].all
    (fun text => (read? text).isNone) = true := by
  cbv

end Lexicon.Json
