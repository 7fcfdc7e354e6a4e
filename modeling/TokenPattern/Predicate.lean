import TokenPattern.CharPattern.Dialect
import TokenPattern.Instruction
import TokenPattern.Record

namespace TokenPattern

/-!
# Predicates

A state of an automaton tests a token by a predicate. The test passes and
consumes the token, fails, or (for an epsilon predicate) does not look at the
token at all. Inside a conjunction only passing counts.
-/

/-- The test that a state applies to a token. -/
inductive Predicate where
  | atom (test : Atom)
  /-- All parts pass on the same token. -/
  | conjunction (parts : List Predicate)
  | alwaysTrue
  | epsilon
  deriving Repr, Inhabited

/-- The outcome of a test. -/
inductive Outcome where
  /-- The token passes and is consumed. -/
  | pass
  | fail
  /-- The token is left for the next state. -/
  | epsilon
  deriving Repr, DecidableEq

namespace Predicate

mutual

/-- Equality of predicates is decided part by part. -/
def decideEq : (left right : Predicate) → Decidable (left = right)
  | .atom left, .atom right =>
      if same : left = right then .isTrue (by rw [same])
      else .isFalse fun equal => same (by injection equal)
  | .conjunction left, .conjunction right =>
      match decideEqParts left right with
      | .isTrue same => .isTrue (by rw [same])
      | .isFalse differ => .isFalse fun equal => differ (by injection equal)
  | .alwaysTrue, .alwaysTrue => .isTrue rfl
  | .epsilon, .epsilon => .isTrue rfl
  | .atom _, .conjunction _ | .atom _, .alwaysTrue | .atom _, .epsilon
  | .conjunction _, .atom _ | .conjunction _, .alwaysTrue | .conjunction _, .epsilon
  | .alwaysTrue, .atom _ | .alwaysTrue, .conjunction _ | .alwaysTrue, .epsilon
  | .epsilon, .atom _ | .epsilon, .conjunction _ | .epsilon, .alwaysTrue =>
      .isFalse fun equal => by injection equal

/-- Equality of the parts of conjunctions. -/
def decideEqParts : (left right : List Predicate) → Decidable (left = right)
  | [], [] => .isTrue rfl
  | [], _ :: _ => .isFalse fun equal => by injection equal
  | _ :: _, [] => .isFalse fun equal => by injection equal
  | left :: leftRest, right :: rightRest =>
      match decideEq left right with
      | .isFalse differ => .isFalse fun equal => differ (by injection equal)
      | .isTrue same =>
          match decideEqParts leftRest rightRest with
          | .isFalse differ => .isFalse fun equal => differ (by injection equal)
          | .isTrue sameRest => .isTrue (by rw [same, sameRest])

end

instance : DecidableEq Predicate :=
  decideEq

/-- Whether a predicate leaves every token alone. -/
def isEpsilon : Predicate → Bool
  | .epsilon => true
  | _ => false

mutual

/-- The predicate as it is written. -/
def text : Predicate → String
  | .atom test => test.text
  | .conjunction parts => "[" ++ String.intercalate " & " (textOfParts parts) ++ "]"
  | .alwaysTrue => "true"
  | .epsilon => "ε"

/-- The parts of a conjunction as they are written. -/
def textOfParts : List Predicate → List String
  | [] => []
  | part :: rest => part.text :: textOfParts rest

end

end Predicate

/-- Whether a value fits what a record says of an attribute. -/
def Value.fits (dialect : Dialect) (value : Value) (found : Option String) : Bool :=
  match found, value with
  | none, _ => false
  | some text, .literal expected => text == expected
  | some text, .pattern charPattern => dialect.finds charPattern.source text

/-- Whether a record passes the test of an atom. -/
def Atom.passes
    {ρ : Type}
    [Record ρ]
    (dialect : Dialect)
    (defaultAttribute : String)
    (record : ρ) :
    Atom →
    Bool
  | .word expected =>
      (Value.literal expected).fits dialect (Record.attribute? record defaultAttribute)
  | .found charPattern =>
      (Value.pattern charPattern).fits dialect (Record.attribute? record defaultAttribute)
  | .attributeIs name value => value.fits dialect (Record.attribute? record name)

/-- The outcome of a test that passes or fails. -/
def Outcome.ofBool : Bool → Outcome
  | true => .pass
  | false => .fail

/-- Why a search or a test cannot give an answer. -/
inductive SearchError where
  /-- A predicate was asked about a token that is not there. -/
  | missingRecord
  /-- The search is not over after as many rounds as are allowed. -/
  | stepLimitExceeded (limit : Nat)
  deriving Repr, DecidableEq

/-- The error in words. -/
def SearchError.message : SearchError → String
  | .missingRecord => "predicate evaluated against a missing token record"
  | .stepLimitExceeded limit => s!"simulation exceeded the step limit of {limit}"

namespace Predicate

variable {ρ : Type} [Record ρ]

mutual

/-- The outcome of a predicate on a record. -/
def outcome
    (dialect : Dialect)
    (defaultAttribute : String)
    (record : ρ) :
    Predicate →
    Outcome
  | .atom test => .ofBool (test.passes dialect defaultAttribute record)
  | .conjunction parts => .ofBool (allPass dialect defaultAttribute record parts)
  | .alwaysTrue => .pass
  | .epsilon => .epsilon

/-- Whether each of the predicates passes on a record. -/
def allPass
    (dialect : Dialect)
    (defaultAttribute : String)
    (record : ρ) :
    List Predicate →
    Bool
  | [] => true
  | part :: rest =>
      outcome dialect defaultAttribute record part = .pass &&
        allPass dialect defaultAttribute record rest

end

/-- Test a record that may be missing, which is an error for any predicate. -/
def test
    (dialect : Dialect)
    (defaultAttribute : String)
    (predicate : Predicate)
    (record? : Option ρ) :
    Except SearchError Outcome :=
  match record? with
  | some record => .ok (predicate.outcome dialect defaultAttribute record)
  | none => .error .missingRecord

end Predicate

end TokenPattern
