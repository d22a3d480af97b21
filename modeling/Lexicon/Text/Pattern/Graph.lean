import Lexicon.Text.Pattern

/-!
# Matching

Whether a text has its end in common with the match that a pattern prefers in it. A pattern is laid
out as a graph, and all ways through the graph are followed at once, character by character: the
places where they are stand in a list, preferred first, and each place only once. So the work for a
character is bounded by the size of the graph.

* `Pattern.layout` — the nodes of a pattern, `Pattern.length_layout` their number;
* `Graph.reach` — the places that ways lead to without taking a character;
* `Graph.run` — the ways through a text;
* `Pattern.accepts` — whether the preferred match in a text goes to its end.
-/

namespace Lexicon

namespace Pattern

/-- A node of a graph. Nodes are named by their numbers. -/
inductive Node where
  /-- Takes a character of a set. -/
  | one (set : CharSet) (next : Nat)
  /-- Is passed where a condition holds. -/
  | check (look : Look) (next : Nat)
  /-- Leads on to several nodes, preferred first. -/
  | fork (choices : List Nat)
  /-- The end of a match. -/
  | done
deriving DecidableEq, Repr

/-- The fork of a repetition: into its body or past it. -/
def Node.round (eager : Bool) (body past : Nat) : Node :=
  .fork (if eager then [body, past] else [past, body])

/-- How many nodes a pattern is laid out to. -/
def size : Pattern → Nat
  | .empty | .one _ | .check _ => 1
  | .both first second => first.size + second.size
  | .either preferred other => 1 + (preferred.size + other.size)
  | .repeated .optional _ body => 1 + body.size
  | .repeated .plus _ body => body.size + 1
  | .repeated .star _ body => if body.nullable then 1 + (body.size + 1) else 1 + body.size

/-- The nodes of a pattern whose first one has the number `base`; behind the pattern the way leads
to the node `next`. A body that may take nothing has one more fork behind it, so that a round
without characters leads past the repetition in its turn. -/
def layout : Pattern → (base next : Nat) → List Node
  | .empty, _, next => [.fork [next]]
  | .one set, _, next => [.one set next]
  | .check look, _, next => [.check look next]
  | .both first second, base, next =>
    first.layout base (base + first.size) ++ second.layout (base + first.size) next
  | .either preferred other, base, next =>
    .fork [base + 1, base + 1 + preferred.size] ::
      (preferred.layout (base + 1) next ++ other.layout (base + 1 + preferred.size) next)
  | .repeated .optional eager body, base, next =>
    .round eager (base + 1) next :: body.layout (base + 1) next
  | .repeated .plus eager body, base, next =>
    body.layout base (base + body.size) ++ [.round eager base next]
  | .repeated .star eager body, base, next =>
    if body.nullable then
      .round eager (base + 1) next ::
        (body.layout (base + 1) (base + 1 + body.size) ++ [.round eager (base + 1) next])
    else .round eager (base + 1) next :: body.layout (base + 1) base

theorem length_layout (pattern : Pattern) (base next : Nat) :
    (pattern.layout base next).length = pattern.size := by
  fun_induction layout pattern base next <;> simp_all [size] <;> omega

end Pattern

abbrev Graph := Array Pattern.Node

namespace Graph

def ofPattern (pattern : Pattern) : Graph :=
  (pattern.layout 0 pattern.size ++ [Pattern.Node.done]).toArray

/-- Crossing out an entry that stands leaves fewer of them. -/
theorem count_cross_out {fresh : Array Bool} {place : Nat} (hplace : place < fresh.size)
    (h : fresh[place] = true) :
    (fresh.set place false).count true < fresh.count true := by
  have hpos : 0 < fresh.count true := Array.count_pos_iff.2 (h ▸ Array.getElem_mem hplace)
  have hcount : (fresh.set place false).count true = fresh.count true - 1 := by
    rw [Array.count_set, h]
    rfl
  omega

/-- The places that ways from some places lead to without taking a character, as long as the
conditions on them hold. Forks are not among them, and a condition is, whether it holds or not.
`fresh` says which nodes were not met yet. -/
def reach (graph : Graph) (holds : Look → Bool) (fresh : Array Bool) : List Nat → List Nat
  | [] => []
  | place :: pending =>
    if hplace : place < fresh.size then
      if hfresh : fresh[place] = true then
        match graph[place]? with
        | none => graph.reach holds (fresh.set place false) pending
        | some (.fork choices) =>
          graph.reach holds (fresh.set place false) (choices ++ pending)
        | some (.check look next) =>
          if holds look then
            place :: graph.reach holds (fresh.set place false) (next :: pending)
          else place :: graph.reach holds (fresh.set place false) pending
        | some _ => place :: graph.reach holds (fresh.set place false) pending
      else graph.reach holds fresh pending
    else graph.reach holds fresh pending
termination_by pending => (fresh.count true, pending.length)
decreasing_by
  all_goals first
    | exact Prod.Lex.left _ _ (count_cross_out hplace hfresh)
    | exact Prod.Lex.right _ (Nat.lt_succ_self _)

/-- The places that ways from some places lead to, where no node was met yet. -/
def reachAll (graph : Graph) (holds : Look → Bool) (places : List Nat) : List Nat :=
  graph.reach holds (Array.replicate graph.size true) places

/-- Whether a way waits at a place for a condition that holds once the next character is known. -/
def isOpened (graph : Graph) (before after : Option Char) (place : Nat) : Bool :=
  match graph[place]? with
  | some (.check look _) => look.holds before after && !look.holdsBehind before
  | _ => false

/-- The places once the next character is known: ways that wait at a condition go on if it holds. -/
def settle (graph : Graph) (before after : Option Char) (places : List Nat) : List Nat :=
  if places.any (graph.isOpened before after) then
    graph.reachAll (Look.holds before after) places
  else places

def isDone (graph : Graph) (place : Nat) : Bool :=
  graph[place]? == some .done

/-- The node behind a place that takes a character. -/
def taking? (graph : Graph) (c : Char) (place : Nat) : Option Nat :=
  match graph[place]? with
  | some (.one set next) => if set.contains c then some next else none
  | _ => none

/-- The places after one more character. What is less preferred than a match is given up. -/
def advance (graph : Graph) (before : Option Char) (places : List Nat) (c : Char) : List Nat :=
  let preferred := (graph.settle before (some c) places).takeWhile (!graph.isDone ·)
  graph.reachAll (Look.holdsBehind (some c)) (preferred.filterMap (graph.taking? c))

/-- Whether a match ends at the end of a text, with the ways at some places behind a character. -/
def run (graph : Graph) (before : Option Char) (places : List Nat) : List Char → Bool
  | [] => (graph.settle before none places).any graph.isDone
  | c :: rest => graph.run (some c) (graph.advance before places c) rest

end Graph

/-- Whether the match that a pattern prefers in a text goes to the end of it. The match may begin
anywhere, and it begins as early as it can. -/
def Pattern.accepts (pattern : Pattern) (text : List Char) : Bool :=
  let graph := Graph.ofPattern (.both (.repeated .star false (.one .all)) pattern)
  graph.run none (graph.reachAll (Look.holdsBehind none) [0]) text

end Lexicon
