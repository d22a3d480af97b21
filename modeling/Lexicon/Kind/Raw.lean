import Lexicon.Kind

/-!
# Raw values

Token streams of other tools carry kinds as bare numbers. Every 32-bit number has a diagnostic
name: the canonical name of the kind it stands for, or a fallback text that shows the number.

* `Kind.ofRaw` — the kind, or `Unnamed` with the number that stands for none;
* `Kind.nameOf` — the total renderer; `Kind.nameOf_eq` ties it to the two outcomes of `ofRaw`.
-/

namespace Lexicon

/-- What the fallback text of a raw value begins with. -/
def fallbackLead : String := "UNKNOWN TOKEN: "

/-- A raw value that stands for no kind. -/
structure Unnamed where
  raw : Int32
deriving DecidableEq, Repr

/-- The fallback text: the lead and the value in decimal. -/
def Unnamed.message (unnamed : Unnamed) : String :=
  fallbackLead ++ toString unnamed.raw.toInt

namespace Kind

def ofRaw (raw : Int32) : Except Unnamed Kind :=
  match ofOrdinal? raw with
  | some kind => .ok kind
  | none => .error ⟨raw⟩

def nameOf (raw : Int32) : String :=
  match ofOrdinal? raw with
  | some kind => kind.name
  | none => Unnamed.message ⟨raw⟩

@[simp] theorem nameOf_ordinal (kind : Kind) : nameOf kind.ordinal = kind.name := by
  simp [nameOf]

/-- The diagnostic name is the name of the kind read, or the text of the failure. -/
theorem nameOf_eq (raw : Int32) :
    nameOf raw = match ofRaw raw with
      | .ok kind => kind.name
      | .error unnamed => unnamed.message := by
  unfold nameOf ofRaw
  cases ofOrdinal? raw <;> rfl

end Kind

end Lexicon
