import TokenPattern.Matcher

namespace TokenPattern

/-!
# Sessions

A session keeps one matcher through a series of commands. Every automaton that
is built starts a new edition, so that one put aside earlier can be told from
an equal one built later; a change of the tokenizer keeps the edition.
-/

/-- Records of one of the types that have attributes. -/
inductive RecordBatch where
  | tokens (records : Array Token)
  | hashMaps (records : Array (Std.HashMap String String))
  | treeMaps (records : Array (Std.TreeMap String String))

/-- Search the records of a batch. -/
def RecordBatch.run
    (dialect : Dialect)
    (automaton : Automaton)
    (limit : Option Nat) :
    RecordBatch →
    Automaton.Run
  | .tokens records => automaton.run dialect limit records
  | .hashMaps records => automaton.run dialect limit records
  | .treeMaps records => automaton.run dialect limit records

/-- An automaton that was put aside. -/
structure HeldAutomaton where
  edition : Nat
  automaton : Automaton

/-- A matcher, the edition of its automaton and the automata that were put aside. -/
structure Session where
  matcher : Matcher Token
  edition : Nat
  held : Array HeldAutomaton

/-- What a session can be asked to do. -/
inductive Command where
  /-- Replace the matcher by one for another source and other settings. -/
  | replace (source flags : String) (settings : Settings)
  /-- Replace the matcher by the standard one. -/
  | reset
  | setTokenizer (tokenizer : Tokenizer Token)
  | recompile (source flags : String)
  /-- Compile one source after the other up to the first error. -/
  | recompileAll (sources : List String) (flags : String)
  | matchText (text : String)
  | matchRecords (records : RecordBatch)
  | showText
  | describe
  | showSettings
  | showListing
  /-- Put the current automaton aside. -/
  | hold
  /-- Whether the current automaton is the one put aside under an index. -/
  | isHeld (index : Nat)
  /-- Match records with an automaton put aside, under the current settings. -/
  | matchHeld (index : Nat) (records : RecordBatch)

/-- What a session answers. -/
inductive Reply where
  | done
  | failed (error : BuildError)
  | answer (result : Except SearchError Bool)
  | text (text : String)
  | settings (settings : Settings)
  | index (index : Nat)
  | truth (value : Bool)
  /-- Nothing was put aside under the index. -/
  | nothingHeld

namespace Session

/-- A session with the standard matcher. -/
def start (dialect : Dialect) : Except BuildError Session :=
  (Matcher.standard dialect).map fun matcher => ⟨matcher, 0, #[]⟩

/-- Take over a matcher with a newly built automaton, if building it succeeded. -/
def adopt
    (session : Session)
    (built : Except BuildError (Matcher Token)) :
    Reply × Session :=
  match built with
  | .ok matcher => (.done, { session with matcher := matcher, edition := session.edition + 1 })
  | .error error => (.failed error, session)

/-- Compile one source after the other up to the first error. -/
def recompileAll
    (dialect : Dialect)
    (flags : String) :
    List String →
    Session →
    Reply × Session
  | [], session => (.done, session)
  | source :: rest, session =>
      match session.adopt (session.matcher.recompile dialect source flags) with
      | (.failed error, session) => (.failed error, session)
      | (_, session) => recompileAll dialect flags rest session

/-- Match records with an automaton under the current settings. -/
def matchWith
    (dialect : Dialect)
    (session : Session)
    (automaton : Automaton)
    (records : RecordBatch) :
    Reply :=
  .answer (records.run dialect automaton session.matcher.settings.stepLimit).verdict.answer

/-- Carry out a command. -/
def execute
    (dialect : Dialect)
    (session : Session) :
    Command →
    Reply × Session
  | .replace source flags settings =>
      session.adopt (Matcher.ofSource dialect source flags settings)
  | .reset => session.adopt (Matcher.standard dialect)
  | .setTokenizer tokenizer =>
      (.done, { session with matcher := session.matcher.withTokenizer tokenizer })
  | .recompile source flags =>
      session.adopt (session.matcher.recompile dialect source flags)
  | .recompileAll sources flags => recompileAll dialect flags sources session
  | .matchText text => (.answer (session.matcher.matchesText dialect text), session)
  | .matchRecords records =>
      (session.matchWith dialect session.matcher.automaton records, session)
  | .showText => (.text session.matcher.text, session)
  | .describe => (.text session.matcher.describe, session)
  | .showSettings => (.settings session.matcher.settings, session)
  | .showListing => (.text session.matcher.automaton.listing, session)
  | .hold =>
      let kept : HeldAutomaton := ⟨session.edition, session.matcher.automaton⟩
      (.index session.held.size, { session with held := session.held.push kept })
  | .isHeld index =>
      match session.held[index]? with
      | some kept => (.truth (kept.edition = session.edition), session)
      | none => (.nothingHeld, session)
  | .matchHeld index records =>
      match session.held[index]? with
      | some kept => (session.matchWith dialect kept.automaton records, session)
      | none => (.nothingHeld, session)

end Session

end TokenPattern
