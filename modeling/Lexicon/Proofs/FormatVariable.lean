import Lexicon.Proofs.Environment
import Lexicon.Proofs.FormatNames

/-!
# The variable for the format as bytes

The value of an environment variable is any byte string. Bytes that are no text are read with
replacement characters; these are not blank and no part of any name, so that such a value names no
format whatever else stands in it.

* `Utf8.none_mem_decode` — bytes that are the encoding of no text leave a gap;
* `Utf8.replacement_mem_lossy` — and so their lossy reading holds a replacement character;
* `Config.ofVariable_bytes` — the settings for any bytes of the variable.
-/

namespace Lexicon

namespace Utf8

theorem none_mem_of_mapM_id {α : Type} {items : List (Option α)} (missing : items.mapM id = none) :
    none ∈ items := by
  induction items with
  | nil => simp at missing
  | cons item items ih =>
    cases item with
    | none => exact List.mem_cons_self ..
    | some a =>
      refine List.mem_cons_of_mem _ (ih ?_)
      cases rest : items.mapM id with
      | none => rfl
      | some values => simp [rest] at missing

/-- Bytes that are the encoding of no text leave a gap. -/
theorem none_mem_decode {bytes : Bytes} (illFormed : ∀ text, bytes ≠ encode text) :
    none ∈ decode bytes := by
  apply none_mem_of_mapM_id
  have unread : decode? bytes = none := by
    rw [Option.eq_none_iff_forall_ne_some]
    intro text read
    exact illFormed text (decode?_eq_some_iff.mp read)
  exact Option.map_eq_none_iff.mp unread

theorem replacement_mem_lossy {bytes : Bytes} (illFormed : ∀ text, bytes ≠ encode text) :
    replacement ∈ (lossy bytes).toList := by
  rw [lossy, String.toList_ofList]
  exact List.mem_map.mpr ⟨none, none_mem_decode illFormed, rfl⟩

end Utf8

/-- A text with a replacement character in it names no format: trimming leaves the character, and
no name has it. -/
theorem Format.parse_of_replacement {text : String} (member : Utf8.replacement ∈ text.toList) :
    parse text = none :=
  parse_eq_none_of_mem (Blank.mem_trim member (by decide)) (by decide)

namespace Config

/-- **The settings for any bytes of the variable.** Well-formed bytes are read as the text that
they encode. Any others leave the settings as they are without the variable and are warned about
once, whatever stands around the ill-formed stretch. -/
theorem ofVariable_bytes (bytes : Bytes) :
    (∀ text, bytes = Utf8.encode text → ofVariable (some bytes) = ofValue (some text)) ∧
    ((∀ text, bytes ≠ Utf8.encode text) →
      ∃ warning : Event,
        ofVariable (some bytes) =
          ({ format := .plain, lexemes := true, header := true }, [warning]) ∧
        warning.level = .warn ∧
        warning.message =
          "Ignoring unknown NEON_REPORT_FORMAT=" ++ Quoted.encode (Utf8.lossy bytes)) := by
  constructor
  · rintro text rfl
    rw [ofVariable, Option.map_some, Utf8.lossy_eq_of_decode? (Utf8.decode?_encode text)]
  · intro illFormed
    have unknown := Format.parse_of_replacement (Utf8.replacement_mem_lossy illFormed)
    exact ⟨_, ofVariable_of_parse_eq_none unknown, rfl, rfl⟩

end Config

end Lexicon
