import TokenPattern.Automaton.Build
import TokenPattern.Error
import TokenPattern.Parser
import TokenPattern.Simulation
import TokenPattern.Tokenizer

namespace TokenPattern

/-!
# Matchers

A matcher holds a pattern's source together with the automaton built from it,
the settings and a tokenizer. Its source can be replaced; where that fails the
matcher stays as it was.
-/

/-- Build the automaton of a pattern. -/
def Automaton.ofPattern
    (dialect : Dialect)
    (settings : Settings)
    (source : String) :
    Except BuildError Automaton :=
  match parse dialect source with
  | .error error => .error (.notAPattern error)
  | .ok program =>
      match Automaton.ofProgram settings.defaultAttribute program with
      | .error error => .error (.notAProgram error)
      | .ok automaton => .ok automaton

/-- A pattern that is ready to be matched. -/
structure Matcher (ρ : Type) where
  source : String
  /-- Kept as given; matching does not depend on them. -/
  flags : String
  automaton : Automaton
  settings : Settings
  tokenizer : Tokenizer ρ

namespace Matcher

variable {ρ : Type}

/-- The source of a matcher that matches every text. -/
def standardSource : String := "/.*/*"

/-- The matcher of a pattern, which cuts texts at spaces. -/
def ofSource
    (dialect : Dialect)
    (source flags : String)
    (settings : Settings) :
    Except BuildError (Matcher Token) :=
  (Automaton.ofPattern dialect settings source).map fun automaton =>
    ⟨source, flags, automaton, settings, .spaces settings.defaultAttribute⟩

/-- The matcher of the standard source. -/
def standard (dialect : Dialect) : Except BuildError (Matcher Token) :=
  ofSource dialect standardSource "" .standard

/-- The matcher with another tokenizer. -/
def withTokenizer
    {ρ' : Type}
    (matcher : Matcher ρ)
    (tokenizer : Tokenizer ρ') :
    Matcher ρ' :=
  ⟨matcher.source, matcher.flags, matcher.automaton, matcher.settings, tokenizer⟩

/-- The matcher with another source, under the same settings. -/
def recompile
    (dialect : Dialect)
    (matcher : Matcher ρ)
    (source flags : String) :
    Except BuildError (Matcher ρ) :=
  (Automaton.ofPattern dialect matcher.settings source).map fun automaton =>
    { matcher with source := source, flags := flags, automaton := automaton }

/-- Search records that were made elsewhere. -/
def runRecords
    {ρ' : Type}
    [Record ρ']
    (dialect : Dialect)
    (matcher : Matcher ρ)
    (records : Array ρ') :
    Automaton.Run :=
  matcher.automaton.run dialect matcher.settings.stepLimit records

/-- Search the tokens of a text. -/
def runText
    [Record ρ]
    (dialect : Dialect)
    (matcher : Matcher ρ)
    (text : String) :
    Automaton.Run :=
  matcher.runRecords dialect (matcher.tokenizer.tokenize text).toArray

/-- Whether the pattern matches records that were made elsewhere. -/
def matchesRecords
    {ρ' : Type}
    [Record ρ']
    (dialect : Dialect)
    (matcher : Matcher ρ)
    (records : Array ρ') :
    Except SearchError Bool :=
  (matcher.runRecords dialect records).verdict.answer

/-- Whether the pattern matches a text. -/
def matchesText
    [Record ρ]
    (dialect : Dialect)
    (matcher : Matcher ρ)
    (text : String) :
    Except SearchError Bool :=
  (matcher.runText dialect text).verdict.answer

/-- The matcher as a text: its source. -/
def text (matcher : Matcher ρ) : String :=
  matcher.source

/-- The matcher's source, flags and number of states, spelled out. -/
def describe (matcher : Matcher ρ) : String :=
  let source := Text.quoted matcher.source
  let flags := Text.quoted matcher.flags
  let states := toString matcher.automaton.size
  "TokensRegex \x7b source: " ++ source ++ ", flags: " ++ flags ++ ", states: " ++ states ++
    " \x7d"

end Matcher

end TokenPattern
