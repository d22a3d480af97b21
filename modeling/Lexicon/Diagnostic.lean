import Lexicon.Kind.Registry
import Lexicon.Text.Wrap

/-!
# Diagnostics for unknown names

What a user is told about a name that is not canonical: the name itself, and either the canonical
name that differs from it only in the case of ASCII letters or the list of all names.

* `UnknownName.hint`, `UnknownName.help` — the advice;
* `UnknownName.rendered` — the whole diagnostic, wrapped to 78 columns.
-/

namespace Lexicon

/-- Advice on an unknown name. -/
inductive Hint where
  /-- A canonical name differs only in the case of ASCII letters. -/
  | otherCase (kind : Kind)
  /-- No canonical name comes that close. -/
  | listing
deriving DecidableEq, Repr

def Hint.text : Hint → String
  | .otherCase kind => "token names are case-sensitive; did you mean `" ++ kind.name ++ "`?"
  | .listing => "expected one of: " ++ ", ".intercalate (Kind.all.map Kind.name)

/-- A name that was looked up and is not canonical. -/
structure UnknownName where
  name : String
deriving DecidableEq, Repr

namespace UnknownName

/-- A text with its ASCII letters in upper case. -/
def upper (text : String) : String :=
  String.ofList (text.toList.map Char.toUpper)

/-- The code that stands above the diagnostic. -/
def code : String := "neon::tokens::unknown_name"

def message (unknown : UnknownName) : String :=
  "unknown token kind `" ++ unknown.name ++ "`"

def hint (unknown : UnknownName) : Hint :=
  match Kind.ofName? (upper unknown.name) with
  | some kind => .otherCase kind
  | none => .listing

def help (unknown : UnknownName) : String :=
  unknown.hint.text

/-- The lines of the message, beside a cross and a bar. -/
def messageLines (unknown : UnknownName) : List String :=
  Wrap.paragraph 74 "  × " "  │ " unknown.message

def helpLines (unknown : UnknownName) : List String :=
  Wrap.paragraph 70 "  help: " "        " unknown.help

def lines (unknown : UnknownName) : List String :=
  [code, ""] ++ unknown.messageLines ++ unknown.helpLines

/-- The diagnostic, with a line feed after every line. -/
def rendered (unknown : UnknownName) : String :=
  String.join (unknown.lines.map (· ++ "\n"))

end UnknownName

end Lexicon
