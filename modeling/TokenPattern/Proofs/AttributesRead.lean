import TokenPattern.Proofs.Agreement
import TokenPattern.Proofs.Embodiment
import TokenPattern.Proofs.Frontier

namespace TokenPattern

/-!
# The attributes that a search reads

A search asks the tokens for the default attribute and for the attributes that
its predicates name.  Whatever else the tokens have, and whatever they are, makes
no difference to any round or to the end.
-/

variable {ρ ρ' : Type} [Record ρ] [Record ρ']
variable {dialect : Dialect}

/-- The attribute that an atom asks for by name. -/
def Atom.namedAttribute? : Atom → Option String
  | .word _ | .found _ => none
  | .attributeIs name _ => some name

/-- An atom passes or fails by the default attribute or by the one that it names. -/
theorem Atom.passes_congr
    {name : String}
    {record : ρ}
    {otherRecord : ρ'}
    (test : Atom)
    (sameDefault : Record.attribute? record name = Record.attribute? otherRecord name)
    (sameNamed :
      ∀ named,
        test.namedAttribute? = some named →
          Record.attribute? record named = Record.attribute? otherRecord named) :
    test.passes dialect name record = test.passes dialect name otherRecord := by
  cases test with
  | word expected | found charPattern =>
      rw [passes, passes, sameDefault]
  | attributeIs named value =>
      rw [passes, passes, sameNamed named rfl]

/-- The attributes that a predicate asks for by name, in conjunctions too. -/
def Predicate.namedAttributes (predicate : Predicate) : List String :=
  predicate.tests.filterMap Atom.namedAttribute?

/-- Lists of tokens of one length that have the same values of some attributes. -/
structure SameAttributes
    (names : List String)
    (tokens : Array ρ)
    (otherTokens : Array ρ') : Prop where
  size_eq : tokens.size = otherTokens.size
  attribute_eq :
    ∀ (position : Nat) (token : ρ) (otherToken : ρ'),
      tokens[position]? = some token →
        otherTokens[position]? = some otherToken →
          ∀ name ∈ names, Record.attribute? token name = Record.attribute? otherToken name

namespace Automaton

/-- The attributes that a search with an automaton may ask the tokens for. -/
def attributesRead (automaton : Automaton) : List String :=
  automaton.defaultAttribute ::
    automaton.states.toList.flatMap fun state => state.predicate.namedAttributes

/-- Searches that cannot be told apart, neither round by round nor by their end. -/
structure SameSearch
    (dialect : Dialect)
    (automaton : Automaton)
    (limit : Option Nat)
    (tokens : Array ρ)
    (otherTokens : Array ρ') : Prop where
  answer_eq :
    automaton.matchesTokens dialect limit tokens =
      automaton.matchesTokens dialect limit otherTokens
  /-- There are as many rounds, each leaves as many threads, and the limit is hit in both. -/
  run_eq :
    automaton.run dialect limit tokens = automaton.run dialect limit otherTokens
  frontier_eq :
    ∀ round,
      automaton.frontierAt dialect tokens round =
        automaton.frontierAt dialect otherTokens round

variable {automaton : Automaton}
variable {tokens : Array ρ}
variable {otherTokens : Array ρ'}

/-- Tokens with the same values of what an automaton reads have the same outcomes. -/
theorem agree_of_sameAttributes
    (same : SameAttributes automaton.attributesRead tokens otherTokens)
    (dialect : Dialect) :
    Agree dialect automaton tokens automaton otherTokens := by
  refine ⟨rfl, rfl, same.size_eq, ?_⟩
  intro state isState position token otherToken isToken isOtherToken
  have sameValue := same.attribute_eq position token otherToken isToken isOtherToken
  apply Predicate.outcome_congr
  intro test isTest
  apply Atom.passes_congr
  · exact sameValue _ List.mem_cons_self
  · intro named isNamed
    apply sameValue
    have inPredicate : named ∈ state.predicate.namedAttributes :=
      List.mem_filterMap.2 ⟨test, isTest, isNamed⟩
    exact List.mem_cons_of_mem _ (List.mem_flatMap.2 ⟨state, isState.val, inPredicate⟩)

/-- Searches that agree have the same threads before each round. -/
theorem Agree.frontierAt_eq
    (agree : Agree dialect automaton tokens automaton otherTokens)
    (round : Nat) :
    automaton.frontierAt dialect tokens round =
      automaton.frontierAt dialect otherTokens round := by
  induction round with
  | zero =>
      rfl
  | succ round inductionHypothesis =>
      rw [frontierAt, frontierAt, inductionHypothesis, agree.advance_eq]

/-- A search depends on the tokens only through the attributes that the automaton reads. -/
theorem sameSearch_of_sameAttributes
    (same : SameAttributes automaton.attributesRead tokens otherTokens)
    (dialect : Dialect)
    (limit : Option Nat) :
    SameSearch dialect automaton limit tokens otherTokens := by
  have agree := agree_of_sameAttributes same dialect
  have sameRun := agree.run_eq limit
  refine ⟨?_, sameRun, agree.frontierAt_eq⟩
  rw [matchesTokens, matchesTokens, sameRun]

/-- A token with a word, a tag and a lemma. -/
def lemmatized : Token :=
  ((Token.ofWord "a").withAttribute "tag" "x").withAttribute "lemma" "b"

/-- A map with the same word and the same tag, but no lemma. -/
def unlemmatized : Std.HashMap String String :=
  (Std.HashMap.emptyWithCapacity.insert "word" "a").insert "tag" "x"

/-- The lemma makes no difference to a search that asks for the word and the tag. -/
theorem sameSearch_lemmatized :
    ∃ automaton,
      Automaton.ofProgram "word" repeatedTests = .ok automaton ∧
        SameAttributes automaton.attributesRead #[lemmatized] #[unlemmatized] ∧
        SameSearch .standard automaton (some 1) #[lemmatized] #[unlemmatized] := by
  have sameValues :
      ∀ name ∈ ["word", "tag"],
        Record.attribute? lemmatized name = Record.attribute? unlemmatized name := by
    simp [Record.attribute?, lemmatized, unlemmatized, Token.ofWord, Token.withAttribute,
      standardAttribute, Std.TreeMap.getElem?_insert, Std.HashMap.getElem?_insert]
  have same : SameAttributes ["word", "tag"] #[lemmatized] #[unlemmatized] := by
    refine ⟨rfl, ?_⟩
    intro position token otherToken isToken isOtherToken
    obtain ⟨isFirst, rfl⟩ := Array.getElem?_eq_some_iff.1 isToken
    cases Nat.lt_one_iff.1 isFirst
    cases isOtherToken
    exact sameValues
  refine ⟨_, ofProgram_repeatedTests, ?_, ?_⟩
  · exact same
  · apply sameSearch_of_sameAttributes
    exact same

end Automaton

end TokenPattern
