import Lexicon.Log
import Lexicon.Text.Utf8

/-!
# Report settings

* `Config.ofValue` — the settings for a value of the environment variable, with what is logged;
* `Config.ofVariable` — the same for the raw bytes of the variable.
-/

namespace Lexicon

/-- What a report looks like: its format, and whether it shows fixed spellings and a header. -/
structure Config where
  format : Format := .plain
  lexemes : Bool := true
  header : Bool := true
deriving DecidableEq, Repr

namespace Config

/-- The settings for a value of the environment variable. A value that names no format is logged
and otherwise ignored. -/
def ofValue : Option String → Config × List Event
  | none => ({}, [])
  | some value =>
    match Format.parse value with
    | some format => ({ format }, [])
    | none => ({}, [.unknownFormat value])

/-- The settings for the bytes of the environment variable, read with replacements. -/
def ofVariable (value : Option Bytes) : Config × List Event :=
  ofValue (value.map Utf8.lossy)

end Config

end Lexicon
