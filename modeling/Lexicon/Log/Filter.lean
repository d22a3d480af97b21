import Lexicon.Log.Directive
import Lexicon.Text.Split
import Lexicon.Text.Utf8

/-!
# Log filters

A filter is a list of directives. Of two with the same subject the later holds.

A directive that names no span and no value is about areas. Of those that speak about an event the
most specific decides: the one with the longest target, and of these one that names a field. An area
that no directive speaks about stays silent.

A directive that names a span or a field also follows the spans that fit it. Such a span is always
recorded, and as long as it goes on, whatever the directive permits may be said, in any area.

* `Filter.parse` — a filter from its text, `none` if a directive is malformed;
* `Filter.ofVariable` — the filter that the environment asks for;
* `Filter.follow` — the spans that are recorded, and what may be said inside them;
* `Filter.line?` — the line of a record under a filter.
-/

namespace Lexicon

namespace Directive

/-- Whether a path begins with a directive's target. -/
def matchesPath (directive : Directive) (path : String) : Bool :=
  directive.target.toList.isPrefixOf path.toList

/-- Whether a directive is about areas. -/
def isGeneral (directive : Directive) : Bool :=
  directive.span.isNone && directive.field.all fun test => test.value.isNone

/-- Whether a directive asks for the value of a field. -/
def asksValue (directive : Directive) : Bool :=
  directive.field.any fun test => test.value.isSome

/-- Whether a directive about areas speaks about an event: it has to have the field. -/
def coversEvent (directive : Directive) (event : Event) : Bool :=
  directive.isGeneral && directive.matchesPath event.area.path
    && directive.field.all fun test => event.fields.contains test.name

/-- Whether a directive about areas speaks about a span, whatever its field. -/
def coversSpan (directive : Directive) (span : Span) : Bool :=
  directive.isGeneral && directive.matchesPath span.area.path

def follows (directive : Directive) (span : Span) : Bool :=
  (directive.span.isSome || directive.field.isSome)
    && directive.matchesPath span.area.path
    && directive.span.all (· == span.name)
    && directive.field.all (·.name == span.fieldName)

/-- Whether a span has the value that a directive asks for. -/
def isMet (directive : Directive) (span : Span) : Bool :=
  directive.field.all fun test => test.value.all (·.accepts span.fieldValue)

/-- The name of the field of a directive about areas, which is empty if it has none. -/
def fieldKey (directive : Directive) : String :=
  (directive.field.map FieldTest.name).getD ""

/-- Whether one directive about areas is at least as specific as another: a longer target, or the
same and a field, of which the last in the order of names is the most specific. -/
def isAsSpecific (directive other : Directive) : Bool :=
  other.target.length < directive.target.length
    || other.target.length == directive.target.length && !(directive.fieldKey < other.fieldKey)

end Directive

/-- Directives in the order they were given. -/
abbrev Filter := List Directive

namespace Filter

/-- Reads a filter: directives with commas between them. Empty directives are passed over. -/
def parse (text : String) : Option Filter :=
  ((Split.pieces ',' text.toList).filter fun piece => !piece.isEmpty).mapM Directive.parse

/-- The filter that holds when the environment does not give a usable one. -/
def standard : Filter :=
  [{ ceiling := some .info }]

/-- The filter that the environment asks for. -/
def ofVariable (value : Option Bytes) : Filter :=
  ((value.bind Utf8.decode?).bind parse).getD standard

/-- The directives that no later one replaces. -/
def standing : Filter → Filter
  | [] => []
  | directive :: rest =>
    if rest.any directive.sameSubject then standing rest else directive :: standing rest

/-- The most specific of some directives. -/
def deciding? (directives : Filter) : Option Directive :=
  directives.foldl
    (fun held next =>
      match held with
      | none => some next
      | some directive => if next.isAsSpecific directive then some next else some directive)
    none

/-- What the directives that speak about something permit to be said about it, as a rank. -/
def permitted (filter : Filter) (covers : Directive → Bool) : Nat :=
  ((deciding? (filter.standing.filter covers)).map Directive.reach).getD 0

/-- What the directives that follow a span permit to be said inside it, as a rank. -/
def inside (filter : Filter) (span : Span) : Nat :=
  ((filter.standing.filter fun directive => directive.follows span && directive.isMet span).map
    Directive.reach).foldl max 0

/-- What any directive permits, as a rank. A filter that asks for values has to see every span. -/
def reach (filter : Filter) : Nat :=
  if filter.any Directive.asksValue then Level.trace.rank
  else (filter.map Directive.reach).foldl max 0

/-- Whether a span is recorded inside spans that permit a rank. -/
def records (filter : Filter) (within : Nat) (span : Span) : Bool :=
  span.level.rank ≤ filter.reach
    && (filter.any (·.follows span)
      || span.level.rank ≤ filter.permitted (·.coversSpan span)
      || span.level.rank ≤ within)

/-- Goes into spans, the outermost first, inside spans that permit a rank: the spans that are
recorded, and what may be said inside all of them. -/
def follow (filter : Filter) (within : Nat) : List Span → List Span × Nat
  | [] => ([], within)
  | span :: rest =>
    if filter.records within span then
      let (recorded, rank) := filter.follow (max within (filter.inside span)) rest
      (span :: recorded, rank)
    else filter.follow within rest

/-- The line of a record: nothing if its event is held back, and without the spans that are not
recorded. -/
def line? (filter : Filter) (record : Record) : Option String :=
  let (spans, within) := filter.follow 0 record.spans
  let permitted := max within (filter.permitted (·.coversEvent record.event))
  if record.event.level.rank ≤ permitted then some { record with spans }.line else none

end Filter

end Lexicon
