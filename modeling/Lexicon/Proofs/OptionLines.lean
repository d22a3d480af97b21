import Lexicon.CommandLine
import Lexicon.Proofs.Arguments
import Lexicon.Proofs.Checks
import Lexicon.Proofs.Choices
import Lexicon.Proofs.Decoding

/-!
# Command lines with options

Which command lines of `tokens` lead to a command, for arbitrary byte strings as arguments. The
grammar of these lines is `Tokens.Spells`, which knows nothing of what is pending between two
arguments: `--format` and the value behind it are one choice, like `--format=` with the value
attached. A line is read as the choices that it spells, and any other line is refused.

* `Tokens.takeAll_cons_eq_ok_iff` — what an accepted line can begin with;
* `Tokens.takeAll_eq_ok_iff_settle` — a held value may as well be checked at once;
* `Tokens.Spells.takeAll_eq_ok_iff` — a line that spells choices makes these choices, in its order;
* `Tokens.exists_spells_of_takeAll` — a line that is accepted spells some choices;
* `CommandLine.read_tokens_iff` — the lines of `tokens` are the spellings of at most one choice for
  each option.
-/

namespace Lexicon.Tokens

/-- `Spells choices arguments`: the arguments make the choices, in this order. A separator may
stand at the end. -/
inductive Spells : List Choice → List Bytes → Prop where
  | done : Spells [] []
  | closed : Spells [] [Argument.separator]
  | noLexemes {choices : List Choice} {rest : List Bytes} : Spells choices rest →
      Spells (.noLexemes :: choices) (Utf8.encode "--no-lexemes" :: rest)
  | noHeader {choices : List Choice} {rest : List Bytes} : Spells choices rest →
      Spells (.noHeader :: choices) (Utf8.encode "--no-header" :: rest)
  | attached {choices : List Choice} {rest : List Bytes} {format : Format} : Spells choices rest →
      Spells (.format format :: choices) (Utf8.encode ("--format=" ++ format.name) :: rest)
  | separate {choices : List Choice} {rest : List Bytes} {format : Format} : Spells choices rest →
      Spells (.format format :: choices)
        (Utf8.encode "--format" :: Utf8.encode format.name :: rest)

/-! ### Held values -/

variable {progress settled next final : Progress} {arguments rest : List Bytes}

theorem settle_of_nothing (idle : progress.pending = .nothing) :
    settle progress = .ok progress := by
  simp [settle, idle]

theorem pending_of_takeFormat {value : Bytes} (taken : takeFormat progress value = .ok next) :
    next.pending = progress.pending := by
  unfold takeFormat at taken
  split at taken
  · cases taken
  · split at taken
    · cases taken
      rfl
    · cases taken

/-- Once something is settled, nothing is pending. -/
theorem pending_of_settle (done : settle progress = .ok settled) : settled.pending = .nothing := by
  unfold settle at done
  split at done
  · rename_i idle
    cases done
    exact idle
  · cases done
  · exact pending_of_takeFormat done

theorem settle_idem (done : settle progress = .ok settled) : settle settled = .ok settled :=
  settle_of_nothing (pending_of_settle done)

theorem settle_eq_ok_iff_settle :
    settle progress = .ok final ↔
      ∃ settled, settle progress = .ok settled ∧ settle settled = .ok final := by
  constructor
  · intro done
    exact ⟨final, done, settle_idem done⟩
  · rintro ⟨settled, done, same⟩
    rw [settle_idem done] at same
    rw [done, same]

/-- Whatever settles first can as well start from the settled state. -/
theorem settle_bind_eq_ok_iff {α : Type} {f : Progress → Except Refusal α} {found : α} :
    settle progress >>= f = .ok found ↔
      ∃ settled, settle progress = .ok settled ∧ settle settled >>= f = .ok found := by
  rw [Check.bind_eq_ok_iff]
  refine exists_congr fun settled => and_congr_right fun done => ?_
  rw [settle_idem done]
  rfl

theorem takeFlag_eq_ok_iff_settle {flag : Flag} :
    takeFlag progress flag = .ok next ↔
      ∃ settled, settle progress = .ok settled ∧ takeFlag settled flag = .ok next :=
  settle_bind_eq_ok_iff

theorem takeLong_eq_ok_iff_settle {name : Bytes} {value : Option Bytes} :
    takeLong progress name value = .ok next ↔
      ∃ settled, settle progress = .ok settled ∧ takeLong settled name value = .ok next := by
  unfold takeLong
  split
  · simp
  · exact settle_bind_eq_ok_iff
  · simp
  · exact takeFlag_eq_ok_iff_settle

/-- A cluster of short flags never leads on: it is refused or asks for help. -/
theorem takeShort_ne_ok {body : Bytes} : takeShort progress body ≠ .ok next := by
  unfold takeShort
  split
  · intro taken
    obtain ⟨settled, -, taken⟩ := Check.bind_eq_ok_iff.mp taken
    cases taken
  · simp

theorem takeAll_word {argument : Bytes} (shape : Argument.shape argument = .word) :
    takeAll progress (argument :: rest) =
      takeWord progress argument >>= fun next => takeAll next rest := by
  simp only [takeAll, shape]

theorem takeAll_long {argument name : Bytes} {value : Option Bytes}
    (shape : Argument.shape argument = .long name value) :
    takeAll progress (argument :: rest) =
      takeLong progress name value >>= fun next => takeAll next rest := by
  simp only [takeAll, shape]

/-- What an accepted line can begin with: the separator at its end, a word that is awaited, or a
long flag. -/
theorem takeAll_cons_eq_ok_iff {argument : Bytes} :
    takeAll progress (argument :: rest) = .ok final ↔
      (argument = Argument.separator ∧ rest = [] ∧ settle progress = .ok final) ∨
      (Argument.shape argument = .word ∧ progress.pending = .awaiting ∧
        takeAll { progress with pending := .holding argument } rest = .ok final) ∨
      ∃ name value next, Argument.shape argument = .long name value ∧
        takeLong progress name value = .ok next ∧ takeAll next rest = .ok final := by
  rw [← Argument.shape_eq_separator_iff]
  cases shape : Argument.shape argument with
  | separator => cases rest <;> simp [takeAll, shape]
  | word =>
    rw [takeAll_word shape, takeWord]
    by_cases waits : progress.pending = .awaiting <;> simp [waits, bind, Except.bind]
  | short body =>
    simp only [takeAll, shape, Check.bind_eq_ok_iff]
    simp [takeShort_ne_ok]
  | long name value => simp [takeAll_long shape, Check.bind_eq_ok_iff]

/-- A held value may as well be checked at once: it is checked before anything that is accepted
after it. -/
theorem takeAll_eq_ok_iff_settle (ready : progress.pending ≠ .awaiting) :
    takeAll progress arguments = .ok final ↔
      ∃ settled, settle progress = .ok settled ∧ takeAll settled arguments = .ok final := by
  cases arguments with
  | nil => exact settle_eq_ok_iff_settle
  | cons argument rest =>
    simp only [takeAll_cons_eq_ok_iff]
    constructor
    · rintro (⟨rfl, rfl, done⟩ | ⟨-, waits, -⟩ | ⟨name, value, next, shape, taken, more⟩)
      · exact ⟨final, done, .inl ⟨rfl, rfl, settle_idem done⟩⟩
      · exact absurd waits ready
      · obtain ⟨settled, done, taken⟩ := takeLong_eq_ok_iff_settle.mp taken
        exact ⟨settled, done, .inr (.inr ⟨name, value, next, shape, taken, more⟩)⟩
    · rintro ⟨settled, done, ⟨rfl, rfl, same⟩ | ⟨-, waits, -⟩ |
        ⟨name, value, next, shape, taken, more⟩⟩
      · exact .inl ⟨rfl, rfl, settle_eq_ok_iff_settle.mpr ⟨settled, done, same⟩⟩
      · rw [pending_of_settle done] at waits
        cases waits
      · exact .inr (.inr ⟨name, value, next, shape,
          takeLong_eq_ok_iff_settle.mpr ⟨settled, done, taken⟩, more⟩)

/-! ### Reading what is spelt -/

/-- The name of a format makes the choice of this format. -/
theorem takeFormat_name_eq_ok_iff {format : Format} :
    takeFormat progress (Utf8.encode format.name) = .ok next ↔
      progress.take? (.format format) = some next := by
  simp only [takeFormat, Progress.take?, Utf8.decode?_encode, Option.bind_some, Format.ofName?_name,
    Choice.flag, Choice.format?, Option.some_or]
  by_cases used : Flag.format ∈ progress.used <;> simp [used]

/-- No other value does. -/
theorem exists_name_of_takeFormat {value : Bytes} (taken : takeFormat progress value = .ok next) :
    ∃ format : Format, value = Utf8.encode format.name := by
  unfold takeFormat at taken
  split at taken
  · cases taken
  · split at taken
    · rename_i format found
      obtain ⟨text, decoded, named⟩ := Option.bind_eq_some_iff.mp found
      obtain rfl := Format.ofName?_eq_some_iff.mp named
      exact ⟨format, Utf8.decode?_eq_some_iff.mp decoded⟩
    · cases taken

/-- An option without a value makes its choice. -/
theorem takeFlag_eq_ok_iff (choice : Choice) (valueless : choice.format? = none)
    (idle : progress.pending = .nothing) :
    takeFlag progress choice.flag = .ok next ↔ progress.take? choice = some next := by
  rw [takeFlag, settle_of_nothing idle, Progress.take?, valueless, Option.none_or]
  dsimp only [bind, Except.bind]
  cases choice with
  | format format => cases valueless
  | noLexemes =>
    by_cases used : Flag.noLexemes ∈ progress.used <;> simp [Choice.flag, used]
  | noHeader =>
    by_cases used : Flag.noHeader ∈ progress.used <;> simp [Choice.flag, used]

theorem shape_typed (flag : Flag) :
    Argument.shape (Utf8.encode flag.typed) = .long (Utf8.encode flag.word) none := by
  cases flag <;> decide

theorem shape_attached (format : Format) :
    Argument.shape (Utf8.encode ("--format=" ++ format.name)) =
      .long (Utf8.encode Flag.format.word) (some (Utf8.encode format.name)) := by
  cases format <;> decide

theorem shape_name (format : Format) : Argument.shape (Utf8.encode format.name) = .word := by
  cases format <;> decide

/-- The topic knows the option of every choice. -/
theorem flag?_choice (choice : Choice) :
    Argument.flag? .tokens (Utf8.encode choice.flag.word) = some choice.flag := by
  have known : ∀ flag ∈ Topic.tokens.options,
      Argument.flag? .tokens (Utf8.encode flag.word) = some flag := by decide
  cases choice with
  | noLexemes => exact known .noLexemes (by decide)
  | noHeader => exact known .noHeader (by decide)
  | format format => exact known .format (by decide)

theorem takeAll_valueless_eq_ok_iff (choice : Choice) (valueless : choice.format? = none)
    (idle : progress.pending = .nothing) :
    takeAll progress (Utf8.encode choice.flag.typed :: rest) = .ok final ↔
      ∃ next, progress.take? choice = some next ∧ takeAll next rest = .ok final := by
  simp only [takeAll_long (shape_typed choice.flag), takeLong, flag?_choice, Check.bind_eq_ok_iff,
    takeFlag_eq_ok_iff choice valueless idle]

theorem takeAll_attached_eq_ok_iff {format : Format} (idle : progress.pending = .nothing) :
    takeAll progress (Utf8.encode ("--format=" ++ format.name) :: rest) = .ok final ↔
      ∃ next, progress.take? (.format format) = some next ∧ takeAll next rest = .ok final := by
  have known : Argument.flag? .tokens (Utf8.encode Flag.format.word) = some .format :=
    flag?_choice (.format format)
  simp only [takeAll_long (shape_attached format), takeLong, known, settle_of_nothing idle,
    Check.bind_eq_ok_iff]
  simp [takeFormat_name_eq_ok_iff]

/-- A format behind its flag is held first, and then taken like one that is attached. -/
theorem takeAll_separate_eq_ok_iff {format : Format} (idle : progress.pending = .nothing) :
    takeAll progress (Utf8.encode "--format" :: Utf8.encode format.name :: rest) = .ok final ↔
      ∃ next, progress.take? (.format format) = some next ∧ takeAll next rest = .ok final := by
  have known : Argument.flag? .tokens (Utf8.encode Flag.format.word) = some .format :=
    flag?_choice (.format format)
  have asked : takeLong progress (Utf8.encode Flag.format.word) none =
      .ok { progress with pending := .awaiting } := by
    simp [takeLong, known, takeFlag, settle_of_nothing idle, bind, Except.bind]
  have held : takeWord { progress with pending := .awaiting } (Utf8.encode format.name) =
      .ok { progress with pending := .holding (Utf8.encode format.name) } := by
    simp [takeWord]
  have same : { progress with pending := .nothing } = progress := by rw [← idle]
  calc takeAll progress (Utf8.encode "--format" :: Utf8.encode format.name :: rest) = .ok final
      ↔ takeAll { progress with pending := .holding (Utf8.encode format.name) } rest =
          .ok final := by
        change takeAll progress (Utf8.encode Flag.format.typed :: _) = _ ↔ _
        rw [takeAll_long (shape_typed .format), asked]
        change takeAll { progress with pending := .awaiting } _ = _ ↔ _
        rw [takeAll_word (shape_name format), held]
        rfl
    _ ↔ _ := by
        have ready : ({ progress with pending := .holding (Utf8.encode format.name) } :
            Progress).pending ≠ .awaiting := by simp
        simp only [takeAll_eq_ok_iff_settle ready, settle, same, takeFormat_name_eq_ok_iff]

/-- **A line that spells choices makes them.** -/
theorem Spells.takeAll_eq_ok_iff {choices : List Choice} (spells : Spells choices arguments)
    (idle : progress.pending = .nothing) :
    takeAll progress arguments = .ok final ↔
      choices.foldlM Progress.take? progress = some final := by
  -- Each constructor makes one choice, after which nothing is pending again.
  have step {choice : Choice} {choices : List Choice} {rest : List Bytes} {progress : Progress}
      (idle : progress.pending = .nothing)
      (ih : ∀ {progress : Progress}, progress.pending = .nothing →
        (takeAll progress rest = .ok final ↔ choices.foldlM Progress.take? progress = some final)) :
      (∃ next, progress.take? choice = some next ∧ takeAll next rest = .ok final) ↔
        (choice :: choices).foldlM Progress.take? progress = some final := by
    rw [List.foldlM_cons, Option.bind_eq_bind, Option.bind_eq_some_iff]
    exact exists_congr fun next => and_congr_right fun made => ih (pending_of_take? made ▸ idle)
  induction spells generalizing progress with
  | done => simp [takeAll, settle_of_nothing idle]
  | closed =>
    have shape := Argument.shape_eq_separator_iff.mpr rfl
    simp [takeAll, shape, settle_of_nothing idle]
  | noLexemes _ ih => exact (takeAll_valueless_eq_ok_iff .noLexemes rfl idle).trans (step idle ih)
  | noHeader _ ih => exact (takeAll_valueless_eq_ok_iff .noHeader rfl idle).trans (step idle ih)
  | attached _ ih => exact (takeAll_attached_eq_ok_iff idle).trans (step idle ih)
  | separate _ ih => exact (takeAll_separate_eq_ok_iff idle).trans (step idle ih)

/-! ### Spelling what is read -/

/-- What a long flag can do where nothing is pending: an option without a value is used, `--format`
gets its value at once, or it waits for one. -/
theorem takeLong_cases {name : Bytes} {value : Option Bytes} (idle : progress.pending = .nothing)
    (taken : takeLong progress name value = .ok next) :
    (name = Utf8.encode Flag.noLexemes.word ∧ value = none ∧ next.pending = .nothing) ∨
      (name = Utf8.encode Flag.noHeader.word ∧ value = none ∧ next.pending = .nothing) ∨
      (∃ format : Format, name = Utf8.encode Flag.format.word ∧
        value = some (Utf8.encode format.name) ∧ next.pending = .nothing) ∨
      (name = Utf8.encode Flag.format.word ∧ value = none ∧
        next = { progress with pending := .awaiting }) := by
  unfold takeLong at taken
  split at taken
  · cases taken
  · rename_i value known
    rw [settle_of_nothing idle] at taken
    obtain ⟨format, rfl⟩ := exists_name_of_takeFormat taken
    exact .inr (.inr (.inl ⟨format, Argument.eq_encode_word_of_flag? known, rfl,
      (pending_of_takeFormat taken).trans idle⟩))
  · cases taken
  · rename_i flag known
    have name := Argument.eq_encode_word_of_flag? known
    cases flag with
    | format =>
      rw [takeFlag, settle_of_nothing idle] at taken
      exact .inr (.inr (.inr ⟨name, rfl, (Except.ok.inj taken).symm⟩))
    | noLexemes =>
      have made := (takeFlag_eq_ok_iff .noLexemes rfl idle).mp taken
      exact .inl ⟨name, rfl, (pending_of_take? made).trans idle⟩
    | noHeader =>
      have made := (takeFlag_eq_ok_iff .noHeader rfl idle).mp taken
      exact .inr (.inl ⟨name, rfl, (pending_of_take? made).trans idle⟩)
    | help =>
      rw [takeFlag, settle_of_nothing idle] at taken
      cases taken
    | version =>
      rw [takeFlag, settle_of_nothing idle] at taken
      cases taken

/-- Where a value is awaited, only a word is accepted, and it is held. -/
theorem exists_word_of_takeAll (waits : progress.pending = .awaiting)
    (accepted : takeAll progress arguments = .ok final) :
    ∃ word rest, arguments = word :: rest ∧
      takeAll { progress with pending := .holding word } rest = .ok final := by
  have unsettled {settled : Progress} : settle progress ≠ .ok settled := by
    simp [settle, waits]
  cases arguments with
  | nil => exact absurd accepted unsettled
  | cons argument rest =>
    rcases takeAll_cons_eq_ok_iff.mp accepted with
      ⟨-, -, done⟩ | ⟨-, -, held⟩ | ⟨name, value, next, -, taken, -⟩
    · exact absurd done unsettled
    · exact ⟨argument, rest, rfl, held⟩
    · obtain ⟨settled, done, -⟩ := takeLong_eq_ok_iff_settle.mp taken
      exact absurd done unsettled

/-- The bytes of an option without a value. -/
theorem longArgument_word (flag : Flag) :
    Argument.longArgument (Utf8.encode flag.word) none = Utf8.encode flag.typed := by
  rw [Flag.typed, Utf8.encode_append]
  rfl

theorem longArgument_format (format : Format) :
    Argument.longArgument (Utf8.encode Flag.format.word) (some (Utf8.encode format.name)) =
      Utf8.encode ("--format=" ++ format.name) := by
  rw [Utf8.encode_append]
  rfl

/-- **A line that is accepted spells some choices.** -/
theorem exists_spells_of_takeAll (idle : progress.pending = .nothing)
    (accepted : takeAll progress arguments = .ok final) :
    ∃ choices, Spells choices arguments := by
  -- A choice takes one argument or two, so the induction is on their number.
  induction count : arguments.length using Nat.strong_induction_on
    generalizing progress arguments with
  | _ count ih =>
    subst count
    cases arguments with
    | nil => exact ⟨[], .done⟩
    | cons argument rest =>
      rcases takeAll_cons_eq_ok_iff.mp accepted with
        ⟨rfl, rfl, -⟩ | ⟨-, waits, -⟩ | ⟨name, value, next, shape, taken, more⟩
      · exact ⟨[], .closed⟩
      · rw [idle] at waits
        cases waits
      · have same := Argument.eq_longArgument_of_shape shape
        rcases takeLong_cases idle taken with ⟨rfl, rfl, idle⟩ | ⟨rfl, rfl, idle⟩ |
          ⟨format, rfl, rfl, idle⟩ | ⟨rfl, rfl, rfl⟩
        · obtain ⟨choices, spells⟩ := ih rest.length (by simp) idle more rfl
          rw [same, longArgument_word]
          exact ⟨_, .noLexemes spells⟩
        · obtain ⟨choices, spells⟩ := ih rest.length (by simp) idle more rfl
          rw [same, longArgument_word]
          exact ⟨_, .noHeader spells⟩
        · obtain ⟨choices, spells⟩ := ih rest.length (by simp) idle more rfl
          rw [same, longArgument_format]
          exact ⟨_, .attached spells⟩
        · obtain ⟨word, rest, rfl, held⟩ := exists_word_of_takeAll rfl more
          obtain ⟨settled, done, others⟩ := (takeAll_eq_ok_iff_settle (by simp)).mp held
          obtain ⟨format, rfl⟩ := exists_name_of_takeFormat done
          have shorter : rest.length < (argument :: Utf8.encode format.name :: rest).length := by
            simp only [List.length_cons]
            omega
          obtain ⟨choices, spells⟩ := ih _ shorter (pending_of_settle done) others rfl
          rw [same, longArgument_word]
          exact ⟨_, .separate spells⟩

/-- A line that spells choices is read as them, provided that no option is chosen twice. -/
theorem Spells.read_eq_ok_iff {choices : List Choice} (spells : Spells choices arguments)
    {options : TokensOptions} :
    read arguments = .ok options ↔
      (choices.map Choice.flag).Nodup ∧ Choice.Describe choices options := by
  have taken (final : Progress) : takeAll {} arguments = .ok final ↔
      choices.foldlM Progress.take? {} = some final := spells.takeAll_eq_ok_iff rfl
  unfold read
  simp only [Check.bind_eq_ok_iff, taken, Except.ok.injEq]
  constructor
  · rintro ⟨final, run, rfl⟩
    have made : Choice.Made choices final := Choice.made_nil.of_foldlM run
    exact ⟨made.once, made.describe⟩
  · rintro ⟨once, describes⟩
    obtain ⟨final, run⟩ := Choice.made_nil.exists_foldlM once
    have made : Choice.Made choices final := Choice.made_nil.of_foldlM run
    exact ⟨final, run, made.describe.unique describes⟩

/-! ### What no line holds -/

/-- Every argument that a line of `tokens` can hold. -/
def vocabulary : List Bytes :=
  ["--no-lexemes", "--no-header", "--format=plain", "--format=markdown", "--format=json",
    "--format", "plain", "markdown", "json", "--"].map Utf8.encode

/-- Whether an argument gives a flag, with or without a value attached to it. -/
def gives (flag : Flag) (argument : Bytes) : Bool :=
  match Argument.shape argument with
  | .long name _ => name == Utf8.encode flag.word
  | _ => false

theorem gives_typed (flag other : Flag) :
    gives flag (Utf8.encode other.typed) = (other == flag) := by
  cases flag <;> cases other <;> decide

theorem gives_attached (flag : Flag) (format : Format) :
    gives flag (Utf8.encode ("--format=" ++ format.name)) = (Flag.format == flag) := by
  cases flag <;> cases format <;> decide

namespace Spells

variable {choices : List Choice}

theorem mem_vocabulary (spells : Spells choices arguments) :
    ∀ argument ∈ arguments, argument ∈ vocabulary := by
  induction spells with
  | done => simp
  | closed => decide
  | noLexemes _ ih => exact List.forall_mem_cons.mpr ⟨by decide, ih⟩
  | noHeader _ ih => exact List.forall_mem_cons.mpr ⟨by decide, ih⟩
  | @attached _ _ format _ ih =>
    exact List.forall_mem_cons.mpr ⟨by cases format <;> decide, ih⟩
  | @separate _ _ format _ ih =>
    exact List.forall_mem_cons.mpr
      ⟨by decide, List.forall_mem_cons.mpr ⟨by cases format <;> decide, ih⟩⟩

/-- A flag is given as often as a choice is made about it. -/
theorem countP_gives (spells : Spells choices arguments) (flag : Flag) :
    arguments.countP (gives flag) = (choices.map Choice.flag).count flag := by
  induction spells with
  | done => rfl
  | closed => rfl
  | noLexemes _ ih =>
    rw [List.countP_cons, List.map_cons, List.count_cons, ih, ← gives_typed]
    rfl
  | noHeader _ ih =>
    rw [List.countP_cons, List.map_cons, List.count_cons, ih, ← gives_typed]
    rfl
  | @attached _ _ format _ ih =>
    rw [List.countP_cons, gives_attached, List.map_cons, List.count_cons, ih]
    rfl
  | @separate _ _ format _ ih =>
    have word : ¬ gives flag (Utf8.encode format.name) = true := by simp [gives, shape_name]
    rw [List.countP_cons, List.countP_cons_of_neg word, List.map_cons, List.count_cons, ih,
      ← gives_typed]
    rfl

/-- A word stands behind `--format` only. -/
theorem getLast?_of_word (spells : Spells choices arguments) {before after : List Bytes}
    {word : Bytes} (split : arguments = before ++ word :: after)
    (shape : Argument.shape word = .word) :
    before.getLast? = some (Utf8.encode "--format") := by
  have behind {first : Bytes} {rest before : List Bytes} (other : Argument.shape first ≠ .word)
      (ih : ∀ {before}, rest = before ++ word :: after →
        before.getLast? = some (Utf8.encode "--format"))
      (split : first :: rest = before ++ word :: after) :
      before.getLast? = some (Utf8.encode "--format") := by
    cases before with
    | nil =>
      obtain ⟨rfl, -⟩ := List.cons.inj split
      exact absurd shape other
    | cons _ before =>
      rw [List.getLast?_cons, ih (List.cons.inj split).2]
      rfl
  induction spells generalizing before with
  | done => simp at split
  | closed => exact behind (by decide) (by simp) split
  | noLexemes _ ih => exact behind (by decide) ih split
  | noHeader _ ih => exact behind (by decide) ih split
  | @attached _ _ format _ ih => exact behind (by rw [shape_attached]; exact nofun) ih split
  | @separate _ _ format _ ih =>
    match before with
    | [] =>
      obtain ⟨rfl, -⟩ := List.cons.inj split
      exact absurd shape (by decide)
    | [_] =>
      obtain ⟨rfl, -⟩ := List.cons.inj split
      rfl
    | _ :: _ :: before =>
      rw [List.getLast?_cons, List.getLast?_cons, ih (List.cons.inj (List.cons.inj split).2).2]
      rfl

end Spells

end Lexicon.Tokens

namespace Lexicon.CommandLine

open Tokens

theorem read_tokens (rest : List Bytes) :
    read (Utf8.encode "tokens" :: rest) = (Tokens.read rest).map Command.tokens := by
  have called : subcommand? (Utf8.encode "tokens") = some .tokens := by decide
  rw [read, called]
  rfl

theorem read_tokens_eq_ok_iff {rest : List Bytes} {options : TokensOptions} :
    read (Utf8.encode "tokens" :: rest) = .ok (.tokens options) ↔
      ∃ choices, Spells choices rest ∧ (choices.map Choice.flag).Nodup ∧
        Choice.Describe choices options := by
  rw [read_tokens, Check.map_eq_ok_iff]
  simp only [Command.tokens.injEq, exists_eq_right]
  constructor
  · intro accepted
    obtain ⟨final, taken, -⟩ := Check.bind_eq_ok_iff.mp accepted
    obtain ⟨choices, spells⟩ := exists_spells_of_takeAll rfl taken
    exact ⟨choices, spells, spells.read_eq_ok_iff.mp accepted⟩
  · rintro ⟨choices, spells, described⟩
    exact spells.read_eq_ok_iff.mpr described

/-- Two lines that make the same choices are read alike, in whatever order and form they do it. -/
theorem read_tokens_congr {rest rest' : List Bytes} {choices others : List Choice}
    (first : Spells choices rest) (second : Spells others rest') (same : choices.Perm others)
    (command : Command) :
    read (Utf8.encode "tokens" :: rest) = .ok command ↔
      read (Utf8.encode "tokens" :: rest') = .ok command := by
  simp only [read_tokens, Check.map_eq_ok_iff, first.read_eq_ok_iff, second.read_eq_ok_iff,
    (same.map Choice.flag).nodup_iff, Choice.describe_perm same]

/-- **The lines of `tokens`** are the spellings of at most one choice for each option. Neither the
order of the choices nor the form of their spelling counts. -/
theorem read_tokens_iff (rest : List Bytes) (options : TokensOptions) :
    (read (Utf8.encode "tokens" :: rest) = .ok (.tokens options) ↔
      ∃ choices, Spells choices rest ∧ (choices.map Choice.flag).Nodup ∧
        Choice.Describe choices options) ∧
    (∀ choices others rest', Spells choices rest → Spells others rest' → choices.Perm others →
      ∀ command, read (Utf8.encode "tokens" :: rest) = .ok command ↔
        read (Utf8.encode "tokens" :: rest') = .ok command) ∧
    (read (Utf8.encode "tokens" :: rest) = .ok (.tokens options) →
      (∀ argument ∈ rest, argument ∈ vocabulary) ∧
      (∀ flag, rest.countP (gives flag) ≤ 1) ∧
      ∀ before word after, rest = before ++ word :: after → Argument.shape word = .word →
        before.getLast? = some (Utf8.encode "--format")) := by
  refine ⟨read_tokens_eq_ok_iff, ?_, ?_⟩
  · intro choices others rest' first second same command
    exact read_tokens_congr first second same command
  · intro accepted
    obtain ⟨choices, spells, once, -⟩ := read_tokens_eq_ok_iff.mp accepted
    refine ⟨spells.mem_vocabulary, ?_, ?_⟩
    · intro flag
      rw [spells.countP_gives]
      exact List.nodup_iff_count_le_one.mp once flag
    · intro before word after split shape
      exact spells.getLast?_of_word split shape

-- The value of `--format` may stand apart, and a separator with nothing behind it ends the line.
example : read (["tokens", "--no-header", "--format", "json", "--"].map Utf8.encode) =
    .ok (.tokens { format := some .json, noHeader := true }) := by decide

end Lexicon.CommandLine
