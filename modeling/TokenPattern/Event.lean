import TokenPattern.Matcher

namespace TokenPattern

/-!
# Events

Building and searching tell what they do: how large the program and the
automaton are, how many threads each round leaves, and how a search ends. A
search that runs into its step limit ends without an event of its own.
-/

/-- What is told while a pattern is built and matched. -/
inductive Event where
  | parsed (pattern : String) (instructions : Nat)
  | compiled (instructions states : Nat)
  | round (number threads : Nat)
  | matched (rounds : Nat)
  | unmatched (rounds : Nat)
  deriving Repr, DecidableEq

/-- How much detail an event is. -/
inductive Severity where
  | debug
  | trace
  deriving Repr, DecidableEq

/-- The activity that an event belongs to. -/
inductive Activity where
  | parsing
  | building
  | searching
  deriving Repr, DecidableEq

namespace Event

/-- Rounds are details; all else is told together with the results. -/
def severity : Event → Severity
  | .round .. => .trace
  | _ => .debug

/-- The activity that an event belongs to. -/
def activity : Event → Activity
  | .parsed .. => .parsing
  | .compiled .. => .building
  | _ => .searching

/-- The event in words. -/
def message : Event → String
  | .parsed pattern instructions =>
      s!"parsed {Text.quoted pattern} into {instructions} instructions"
  | .compiled instructions states =>
      s!"compiled {instructions} instructions into {states} states"
  | .round number threads => s!"round {number}: {threads} live threads"
  | .matched rounds => s!"matched after {rounds} rounds"
  | .unmatched rounds => s!"no match after {rounds} rounds"

/-- What is told while an automaton is built from a pattern. -/
def ofBuild (dialect : Dialect) (settings : Settings) (source : String) : List Event :=
  match parse dialect source with
  | .error _ => []
  | .ok program =>
      let parsed := Event.parsed source program.length
      match Automaton.ofProgram settings.defaultAttribute program with
      | .error _ => [parsed]
      | .ok automaton => [parsed, .compiled program.length automaton.size]

/-- What is told at the end of a search. -/
def ofVerdict (rounds : Nat) : Automaton.Verdict → List Event
  | .matched => [.matched rounds]
  | .unmatched => [.unmatched rounds]
  | .limitExceeded _ => []

/-- What is told during a search. -/
def ofRun (run : Automaton.Run) : List Event :=
  (run.rounds.toList.zipIdx.map fun (threads, index) => .round (index + 1) threads) ++
    ofVerdict run.rounds.size run.verdict

end Event

end TokenPattern
