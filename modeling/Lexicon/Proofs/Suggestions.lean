import Lexicon.Proofs.FormatNames
import Lexicon.Proofs.Inversion
import Mathlib.Data.List.Infix

/-!
# Advice on unknown names

Who looks up a name in the wrong case is told the right one, and who looks up anything else is told
all names. The advice is found by writing the name in capitals; since canonical names consist of
capital letters, this finds the name that is the same apart from case, and there is only one.

* `Letter.toUpper_eq_iff` — what capitals do to a letter, said without them;
* `UnknownName.hint_eq_otherCase_iff`, `UnknownName.hint_eq_listing_iff` — the two kinds of advice;
* `Hint.on_listing` — the list of all names can be taken apart again;
* `Command.corrected` — a name after the advice on it was taken;
* `UnknownName.help_exact` — what the advice says, and what is left to say once it was taken.
-/

namespace Lexicon

/-! ### Capitals -/

namespace Letter

theorem same_iff {c d : Char} : Same c d ↔ lower c = lower d := by
  refine ⟨Same.lower_eq, ?_⟩
  intro same
  by_cases left : 'A' ≤ c ∧ c ≤ 'Z'
  · by_cases right : 'A' ≤ d ∧ d ≤ 'Z'
    · have high := congrArg Char.toNat same
      rw [toNat_lower_of_capital left, toNat_lower_of_capital right] at high
      exact .inl (Char.toNat_inj.mp (by omega))
    · rw [lower_of_not_capital right] at same
      exact .inr (.inl same.symm)
  · rw [lower_of_not_capital left] at same
    exact .inr (.inr same)

/-- A small letter of ASCII and its capital are 32 code points apart. -/
theorem toNat_toUpper_of_small {c : Char} (low : 97 ≤ c.toNat) (high : c.toNat ≤ 122) :
    c.toUpper.toNat = c.toNat - 32 := by
  have within : 'a'.val ≤ c.val ∧ c.val ≤ 'z'.val := ⟨low, high⟩
  have raised : c.toUpper = _ := dif_pos within
  have sum : (c.val + ('A'.val - 'a'.val)).toNat = c.toNat - 32 := by
    rw [UInt32.toNat_add]
    show (c.toNat + 4294967264) % 2 ^ 32 = _
    omega
  rw [raised]
  exact sum

theorem toUpper_of_not_small {c : Char} (other : ¬ (97 ≤ c.toNat ∧ c.toNat ≤ 122)) :
    c.toUpper = c :=
  dif_neg other

/-- A character in capitals is a given capital letter if it is that letter in either case. -/
theorem toUpper_eq_iff {c capital : Char} (isCapital : 'A' ≤ capital ∧ capital ≤ 'Z') :
    c.toUpper = capital ↔ Same c capital := by
  have bounds := capital_iff.mp isCapital
  have lowered := toNat_lower_of_capital isCapital
  rw [same_iff, ← Char.toNat_inj, ← Char.toNat_inj, lowered]
  by_cases small : 97 ≤ c.toNat ∧ c.toNat ≤ 122
  · rw [toNat_toUpper_of_small small.1 small.2,
      lower_of_not_capital (by rw [capital_iff]; omega)]
    omega
  · rw [toUpper_of_not_small small]
    by_cases other : 'A' ≤ c ∧ c ≤ 'Z'
    · rw [toNat_lower_of_capital other]
      omega
    · have outside := capital_iff.not.mp other
      rw [lower_of_not_capital other]
      omega

/-- A text in capitals is a given text of capital letters if the two are the same apart from
case. -/
theorem map_toUpper_eq_iff {text capitals : List Char}
    (all : ∀ c ∈ capitals, 'A' ≤ c ∧ c ≤ 'Z') :
    text.map Char.toUpper = capitals ↔ List.Forall₂ Same text capitals := by
  induction text generalizing capitals with
  | nil => simp [eq_comm]
  | cons c text ih =>
    cases capitals with
    | nil => simp
    | cons capital capitals =>
      obtain ⟨first, others⟩ := List.forall_mem_cons.mp all
      rw [List.map_cons, List.cons.injEq, List.forall₂_cons, toUpper_eq_iff first, ih others]

/-- Two texts are the same apart from the case of the letters of ASCII. -/
def SameText (a b : String) : Prop :=
  List.Forall₂ Same a.toList b.toList

theorem SameText.refl (text : String) : SameText text text :=
  List.forall₂_same.mpr fun _ _ => .inl rfl

end Letter

/-! ### The two kinds of advice -/

namespace Hint

/-- What the text of an advice says tells the two kinds apart. -/
theorem suggests_iff {hint : Hint} :
    "did you mean".toList <:+: hint.text.toList ↔ ∃ kind, hint = .otherCase kind := by
  cases hint with
  | listing => exact iff_of_false not_suggests_listing (by simp)
  | otherCase kind =>
    refine iff_of_true ?_ ⟨kind, rfl⟩
    have lead : "did you mean".toList <:+:
        "token names are case-sensitive; did you mean `".toList :=
      ⟨"token names are case-sensitive; ".toList, " `".toList, by decide⟩
    unfold text
    rw [String.toList_append, String.toList_append]
    exact (lead.trans (List.prefix_append _ _).isInfix).trans (List.prefix_append _ _).isInfix

/-- The list of all names, split at its commas, is the list of all names. -/
theorem on_listing :
    Split.on ", ".toList (", ".intercalate (Kind.all.map Kind.name)).toList =
      (Kind.all.map Kind.name).map String.toList := by
  have plain : ∀ text ∈ (Kind.all.map Kind.name).map String.toList, ',' ∉ text := by
    intro text member
    obtain ⟨name, listed, rfl⟩ := List.mem_map.mp member
    obtain ⟨kind, -, rfl⟩ := List.mem_map.mp listed
    exact Kind.not_mem_name (by decide) kind
  have nonempty : (Kind.all.map Kind.name).map String.toList ≠ [] := by simp [Kind.all]
  rw [String.toList_intercalate]
  exact Split.on_join List.not_mem_nil nonempty plain [' ']

end Hint

namespace UnknownName

variable {name : String} {kind : Kind}

theorem upper_eq_name_iff : upper name = kind.name ↔ Letter.SameText name kind.name := by
  rw [← String.toList_inj, upper, String.toList_ofList]
  exact Letter.map_toUpper_eq_iff fun _ => Kind.capital_of_mem_name

/-- A kind is suggested if its name is the same apart from case. -/
theorem hint_eq_otherCase_iff :
    (UnknownName.mk name).hint = .otherCase kind ↔ Letter.SameText name kind.name := by
  have found : Kind.ofName? (upper name) = some kind ↔ upper name = kind.name := by
    rw [Kind.ofName?_eq_some_iff, eq_comm]
  rw [← upper_eq_name_iff, ← found, hint]
  cases Kind.ofName? (upper name) <;> simp

/-- All names are listed if none is the same apart from case. -/
theorem hint_eq_listing_iff :
    (UnknownName.mk name).hint = .listing ↔ ¬ ∃ kind : Kind, Letter.SameText name kind.name := by
  simp only [← hint_eq_otherCase_iff]
  cases (UnknownName.mk name).hint <;> simp

/-- The long s is no `S`, although full case mapping takes it there. -/
example : (UnknownName.mk "equal\u017F").hint = .listing := by decide

/-- A name is suggested in the help if one is the same apart from case. -/
theorem suggests_help_iff :
    "did you mean".toList <:+: (UnknownName.mk name).help.toList ↔
      ∃ kind : Kind, Letter.SameText name kind.name := by
  simp only [help, Hint.suggests_iff, hint_eq_otherCase_iff]

theorem help_of_sameText (same : Letter.SameText name kind.name) :
    (UnknownName.mk name).help =
      "token names are case-sensitive; did you mean `" ++ kind.name ++ "`?" :=
  congrArg Hint.text (hint_eq_otherCase_iff.mpr same)

theorem help_of_not_sameText (unlike : ¬ ∃ kind : Kind, Letter.SameText name kind.name) :
    (UnknownName.mk name).help =
      "expected one of: " ++ ", ".intercalate (Kind.all.map Kind.name) :=
  congrArg Hint.text (hint_eq_listing_iff.mpr unlike)

/-- At most one canonical name is the same apart from case. -/
theorem eq_of_sameText {other : Kind} (same : Letter.SameText name kind.name)
    (same' : Letter.SameText name other.name) : other = kind := by
  rw [← hint_eq_otherCase_iff] at same same'
  rw [same] at same'
  exact (Hint.otherCase.inj same').symm

/-- A canonical name is the same as itself, so that the list is never shown for one. -/
theorem not_isCanonical_of_listing (listing : (UnknownName.mk name).hint = .listing) :
    ¬ Kind.IsCanonical name := by
  rintro ⟨kind, rfl⟩
  exact hint_eq_listing_iff.mp listing ⟨kind, .refl _⟩

end UnknownName

/-! ### Taking the advice -/

namespace Kind

theorem ordinals_ascend : all.Pairwise fun a b => a.ordinal < b.ordinal := by
  decide

theorem nodup_all_map_name : (all.map name).Nodup := by
  refine ordinals_ascend.map name ?_
  intro a b rising same
  rw [name_injective same] at rising
  exact Int32.lt_irrefl rising

theorem mem_all_map_name_iff {text : String} : text ∈ all.map name ↔ IsCanonical text := by
  constructor
  · intro listed
    obtain ⟨kind, -, same⟩ := List.mem_map.mp listed
    exact ⟨kind, same⟩
  · rintro ⟨kind, rfl⟩
    exact List.mem_map_of_mem (mem_all kind)

/-- Looking all names up finds all kinds. -/
theorem filterMap_ofName? : (all.map name).filterMap ofName? = all := by
  rw [List.filterMap_map]
  calc all.filterMap (ofName? ∘ name) = all.filterMap some :=
        List.filterMap_congr fun kind _ => ofName?_name kind
    _ = all := List.filterMap_some

end Kind

namespace Command

/-- A name after the advice on it was taken: an unknown name for which another was suggested is
replaced by the suggestion, and any other name stays. -/
def corrected (name : String) : String :=
  if Kind.IsCanonical name then name
  else match (UnknownName.mk name).hint with
    | .otherCase kind => kind.name
    | .listing => name

theorem corrected_of_listing {name : String} (listing : (UnknownName.mk name).hint = .listing) :
    corrected name = name := by
  rw [corrected, if_neg (UnknownName.not_isCanonical_of_listing listing), listing]

/-- A name that is still unknown after correction is one that no name was suggested for. -/
theorem not_isCanonical_corrected_iff {name : String} :
    ¬ Kind.IsCanonical (corrected name) ↔ (UnknownName.mk name).hint = .listing := by
  constructor
  · intro unknown
    by_cases canonical : Kind.IsCanonical name
    · rw [corrected, if_pos canonical] at unknown
      exact absurd canonical unknown
    · rw [corrected, if_neg canonical] at unknown
      cases advice : (UnknownName.mk name).hint with
      | listing => rfl
      | otherCase kind =>
        rw [advice] at unknown
        exact absurd ⟨kind, rfl⟩ unknown
  · intro listing
    rw [corrected_of_listing listing]
    exact UnknownName.not_isCanonical_of_listing listing

/-- Correction leaves those unknown names that no name was suggested for. -/
theorem unknownNames_map_corrected (names : List String) :
    unknownNames (names.map corrected) =
      (unknownNames names).filter fun unknown => unknown.hint = .listing := by
  have kept : ∀ name ∈ names.filter fun name => (UnknownName.mk name).hint = .listing,
      UnknownName.mk (corrected name) = UnknownName.mk name := by
    intro name member
    rw [corrected_of_listing (by simpa using List.of_mem_filter member)]
  have unknown (name : String) : (UnknownName.mk name).hint = .listing ↔
      (UnknownName.mk name).hint = .listing ∧ ¬ Kind.IsCanonical name :=
    (and_iff_left_of_imp UnknownName.not_isCanonical_of_listing).symm
  calc unknownNames (names.map corrected)
      = (names.filter fun name => (UnknownName.mk name).hint = .listing).map
          (fun name => UnknownName.mk (corrected name)) := by
        simp only [unknownNames_eq, List.filter_map, Function.comp_def, List.map_map,
          not_isCanonical_corrected_iff]
    _ = (names.filter fun name => (UnknownName.mk name).hint = .listing).map UnknownName.mk :=
        List.map_congr_left kept
    _ = (unknownNames names).filter fun unknown => unknown.hint = .listing := by
        simp only [unknownNames_eq, List.filter_map, Function.comp_def, List.filter_filter,
          ← Bool.decide_and, ← unknown]

end Command

namespace UnknownName

/-- **The advice on unknown names is sound and complete.** A name is suggested exactly when one is
the same apart from case; it is the only one, it can be looked up, and it is another than the one
asked for. Otherwise the names that can be looked up are listed, each once and in the order of their
ordinals. Whoever takes all suggestions is told the remaining names again, as before. -/
theorem help_exact :
    (∀ name : String,
      let help := (UnknownName.mk name).help
      ("did you mean".toList <:+: help.toList ↔ ∃ kind : Kind, Letter.SameText name kind.name) ∧
      (∀ kind : Kind, Letter.SameText name kind.name →
        help = "token names are case-sensitive; did you mean `" ++ kind.name ++ "`?" ∧
        (∀ other : Kind, Letter.SameText name other.name → other = kind) ∧
        Kind.ofName? kind.name = some kind ∧
        (Kind.ofName? name = none → kind.name ≠ name)) ∧
      ((¬ ∃ kind : Kind, Letter.SameText name kind.name) →
        ∃ (listing : String) (listed : List String),
        help = "expected one of: " ++ listing ∧
        Split.on ", ".toList listing.toList = listed.map String.toList ∧
        (∀ text, text ∈ listed ↔ (Kind.ofName? text).isSome) ∧
        listed.Nodup ∧
        (listed.filterMap Kind.ofName?).Pairwise fun a b => a.ordinal < b.ordinal)) ∧
    ∀ names : List String, ∃ unknown : List UnknownName,
      unknown.map UnknownName.name = (names.filter fun name => (Kind.ofName? name).isNone) ∧
      ((Command.lookupNames names).run {}).result =
        (if unknown = [] then .ok .success else .error (.unknownNames unknown)) ∧
      let remaining := unknown.filter fun diagnostic =>
        ¬ "did you mean".toList <:+: diagnostic.help.toList
      ((Command.lookupNames (names.map Command.corrected)).run {}).result =
        (if remaining = [] then .ok .success else .error (.unknownNames remaining)) ∧
      (CommandError.unknownNames remaining).failure.message =
        "\n".intercalate (remaining.map UnknownName.rendered) := by
  constructor
  · intro name help
    refine ⟨?_, ?_, ?_⟩
    · exact suggests_help_iff
    · intro kind same
      refine ⟨help_of_sameText same, fun other => eq_of_sameText same, Kind.ofName?_name kind, ?_⟩
      intro unknown named
      exact Kind.ofName?_eq_none_iff.mp unknown ⟨kind, named⟩
    · intro unlike
      refine ⟨_, _, help_of_not_sameText unlike, Hint.on_listing, ?_, Kind.nodup_all_map_name, ?_⟩
      · intro text
        rw [Kind.mem_all_map_name_iff, Kind.isSome_ofName?_iff]
      · rw [Kind.filterMap_ofName?]
        exact Kind.ordinals_ascend
  · intro names
    refine ⟨Command.unknownNames names, ?_, Command.result_lookupNames names, ?_⟩
    · rw [Command.unknownNames, List.map_map]
      exact List.map_id _
    · intro remaining
      have same : Command.unknownNames (names.map Command.corrected) = remaining := by
        rw [Command.unknownNames_map_corrected]
        apply List.filter_congr
        intro unknown _
        rw [decide_eq_decide, suggests_help_iff, hint_eq_listing_iff]
      rw [Command.result_lookupNames, same]
      exact ⟨rfl, rfl⟩

end UnknownName

end Lexicon
