import TokenPattern.Proofs.Acceptance
import TokenPattern.Proofs.Agreement
import TokenPattern.Proofs.MatcherHistory
import TokenPattern.Proofs.PieceLanguage
import TokenPattern.Proofs.WellFormed

namespace TokenPattern

/-!
# Matching texts

The settings, the tokenizer and the automaton of a matcher each have a copy of
the default attribute's name.  They are equal however often the matcher is
recompiled, so that a text is matched by its pieces, whatever the name is,
unless a test asks for an attribute of that name.
-/

namespace PatternTree

/-- The program of a part of a tree is within the program of the tree. -/
theorem program_subset_of_mem_subtrees
    {tree part : PatternTree}
    (isPart : part ∈ tree.subtrees) :
    part.program ⊆ tree.program := by
  induction tree with
  | atom test =>
      cases List.mem_singleton.1 isPart
      exact List.Subset.refl _
  | concat first second firstHypothesis secondHypothesis
  | connect operator first second firstHypothesis secondHypothesis =>
      rcases List.mem_cons.1 isPart with rfl | isInner
      · exact List.Subset.refl _
      · intro instruction isInstruction
        rcases List.mem_append.1 isInner with inFirst | inSecond
        · simp [program, firstHypothesis inFirst isInstruction]
        · simp [program, secondHypothesis inSecond isInstruction]
  | quantify operator body bodyHypothesis =>
      rcases List.mem_cons.1 isPart with rfl | isInner
      · exact List.Subset.refl _
      · intro instruction isInstruction
        simp [program, bodyHypothesis isInner isInstruction]

/-- The tests of a tree that stands for one token are in its program. -/
theorem atom_mem_program_of_tests?
    {tree : PatternTree}
    {tests : List Atom}
    (single : tree.tests? = some tests)
    {test : Atom}
    (isTest : test ∈ tests) :
    .atom test ∈ tree.program := by
  induction tree generalizing tests with
  | atom test =>
      cases single
      cases List.mem_singleton.1 isTest
      exact List.mem_singleton_self _
  | concat =>
      cases single
  | connect operator left right leftHypothesis rightHypothesis =>
      cases operator with
      | or =>
          cases single
      | and =>
          obtain ⟨leftTests, rightTests, leftSingle, rightSingle, rfl⟩ :=
            tests?_and_eq_some_iff.1 single
          rcases List.mem_append.1 isTest with inLeft | inRight
          · simp [program, leftHypothesis leftSingle inLeft]
          · simp [program, rightHypothesis rightSingle inRight]
  | quantify =>
      cases single

end PatternTree

namespace Automaton

variable {automaton : Automaton}
variable {tree : PatternTree}
variable {holes owned : List Nat}

/-- The tests of an automaton's states are atoms of its program. -/
theorem Embodies.atom_mem_program
    (embodies : automaton.Embodies tree holes owned)
    {state : State}
    (isState : state ∈ automaton.states)
    {test : Atom}
    (isTest : test ∈ state.predicate.tests) :
    .atom test ∈ tree.program := by
  obtain ⟨number, found⟩ := Array.mem_iff_getElem?.1 isState
  rcases embodies.final_or_owned found with ⟨_, rfl⟩ | ⟨_, isOwned⟩
  · simp [State.final, Predicate.tests] at isTest
  · obtain ⟨part, isPart, formed, isFormed, form⟩ := embodies.laidOut.stateForm rfl isOwned
    rw [found] at isFormed
    cases isFormed
    apply PatternTree.program_subset_of_mem_subtrees isPart
    cases form with
    | atom other next =>
        rw [Predicate.tests, List.mem_singleton] at isTest
        subst isTest
        exact List.mem_singleton_self _
    | conjunction single next =>
        rw [Predicate.tests, Predicate.testsOfParts_atoms] at isTest
        exact PatternTree.atom_mem_program_of_tests? single isTest
    | branching branches =>
        rw [branches.epsilon.1, Predicate.tests] at isTest
        cases isTest

/-- Under another default attribute a program has the same automaton but for the name. -/
theorem ofProgram_rename
    {defaultAttribute : String}
    {program : List Instruction}
    (built : ofProgram defaultAttribute program = .ok automaton)
    (name : String) :
    ofProgram name program = .ok { automaton with defaultAttribute := name } := by
  obtain ⟨draft, accept, assembles, firstAccepting, rfl⟩ := ofProgram_eq_ok_iff.1 built
  exact ofProgram_eq_ok_iff.2 ⟨draft, accept, assembles, firstAccepting, rfl⟩

/-- A program's automata for two names that no test asks for agree on the pieces of a text. -/
theorem agree_pieceTokens
    {name other : String}
    {otherAutomaton : Automaton}
    (built : ofProgram name tree.program = .ok automaton)
    (otherBuilt : ofProgram other tree.program = .ok otherAutomaton)
    (unmentioned : ¬ tree.Mentions name)
    (otherUnmentioned : ¬ tree.Mentions other)
    (dialect : Dialect)
    (pieces : List String) :
    Agree dialect automaton (pieces.map (pieceToken name)).toArray
      otherAutomaton (pieces.map (pieceToken other)).toArray := by
  cases (ofProgram_rename built other).symm.trans otherBuilt
  obtain ⟨found, holes, owned, reads, embodies, sameName⟩ := ofProgram_embodies built
  cases (PatternTree.ofProgram?_eq_some_iff.2 rfl).symm.trans reads
  refine ⟨rfl, rfl, by simp, ?_⟩
  intro state isState position token otherToken isToken isOtherToken
  rw [List.getElem?_toArray, List.getElem?_map, Option.map_eq_some_iff] at isToken isOtherToken
  obtain ⟨piece, isPiece, rfl⟩ := isToken
  obtain ⟨otherPiece, isOtherPiece, rfl⟩ := isOtherToken
  cases isPiece.symm.trans isOtherPiece
  apply Predicate.outcome_congr
  intro test isTest
  have isAtom := embodies.atom_mem_program isState isTest
  have notAsked
      {asked : String}
      (unmentioned : ¬ tree.Mentions asked)
      (value : Value) :
      test ≠ .attributeIs asked value := by
    intro asks
    exact unmentioned ⟨value, asks ▸ isAtom⟩
  rw [sameName, Bool.eq_iff_iff, Atom.passes_iff_holds, Atom.passes_iff_holds,
    Atom.holds_pieceToken_iff (notAsked unmentioned),
    Atom.holds_pieceToken_iff (notAsked otherUnmentioned)]

end Automaton

/-- The tree of a source that has an automaton. -/
def PatternTree.ofSource? (dialect : Dialect) (source : String) : Option PatternTree :=
  match parse dialect source with
  | .error _ => none
  | .ok program =>
      match Automaton.ofProgram standardAttribute program with
      | .error _ => none
      | .ok _ => ofProgram? program

/-- The tree of a source is there exactly if the source has an automaton, under any name. -/
theorem PatternTree.ofSource?_eq_some_iff
    {dialect : Dialect}
    {source : String}
    {tree : PatternTree}
    (name : String) :
    ofSource? dialect source = some tree ↔
      parse dialect source = .ok tree.program ∧
        ∃ automaton, Automaton.ofProgram name tree.program = .ok automaton := by
  unfold ofSource?
  cases parses : parse dialect source with
  | error error =>
      simp
  | ok program =>
      constructor
      · intro isTree
        dsimp only at isTree
        split at isTree
        · cases isTree
        · rename_i automaton built
          have isProgram := ofProgram?_eq_some_iff.1 isTree
          subst isProgram
          exact ⟨rfl, _, Automaton.ofProgram_rename built name⟩
      · intro isTree
        obtain ⟨sameProgram, automaton, built⟩ := isTree
        cases sameProgram
        have standardBuilt := Automaton.ofProgram_rename built standardAttribute
        dsimp only
        rw [standardBuilt]
        exact ofProgram?_eq_some_iff.2 rfl

/-- A matcher's automaton is built from a source exactly if the source has a tree. -/
theorem Automaton.ofPattern_eq_ok_iff_ofSource?
    {dialect : Dialect}
    {settings : Settings}
    {source : String}
    {automaton : Automaton} :
    Automaton.ofPattern dialect settings source = .ok automaton ↔
      ∃ tree,
        PatternTree.ofSource? dialect source = some tree ∧
          Automaton.ofProgram settings.defaultAttribute tree.program = .ok automaton := by
  rw [Automaton.ofPattern_eq_ok_iff]
  constructor
  · intro builds
    obtain ⟨program, parses, built⟩ := builds
    obtain ⟨tree, _, _, reads, _⟩ := Automaton.ofProgram_embodies built
    have isProgram := PatternTree.ofProgram?_eq_some_iff.1 reads
    subst isProgram
    exact ⟨tree, (PatternTree.ofSource?_eq_some_iff _).2 ⟨parses, _, built⟩, built⟩
  · intro builds
    obtain ⟨tree, isTree, built⟩ := builds
    exact ⟨_, ((PatternTree.ofSource?_eq_some_iff settings.defaultAttribute).1 isTree).1, built⟩

/-- The tree that a matcher stands for: that of the latest source that has one. -/
def standingTree?
    (dialect : Dialect)
    (source : String)
    (requests : List (String × String)) :
    Option PatternTree :=
  (PatternTree.ofSource? dialect source).map fun first =>
    requests.foldl
      (fun tree request => (PatternTree.ofSource? dialect request.1).getD tree)
      first

namespace MatcherHistory

variable {dialect : Dialect}
variable {settings : Settings}
variable {tree : PatternTree}
variable {history : MatcherHistory}

/-- The matcher cuts texts at spaces and stands for a tree; all its parts name one attribute. -/
def StandsFor (settings : Settings) (tree : PatternTree) (history : MatcherHistory) : Prop :=
  ∃ matcher : Matcher Token,
    history.current = some ⟨matcher⟩ ∧
      matcher.settings = settings ∧
      matcher.tokenizer = .spaces settings.defaultAttribute ∧
      Automaton.ofProgram settings.defaultAttribute tree.program = .ok matcher.automaton

theorem answer_of_present
    {any : AnyMatcher}
    (present : history.current = some any)
    (dialect : Dialect)
    (text : String) :
    (history.perform dialect (.matchText text)).1 =
      .answer (any.matcher.matchesText dialect text) := by
  rw [perform, present]

/-- A newly constructed matcher stands for its source. -/
theorem standsFor_construct
    {source : String}
    (isTree : PatternTree.ofSource? dialect source = some tree)
    (flags : String)
    (settings : Settings)
    (history : MatcherHistory) :
    (history.perform dialect (.construct source flags settings)).2.StandsFor settings tree := by
  obtain ⟨_, automaton, built⟩ :=
    (PatternTree.ofSource?_eq_some_iff settings.defaultAttribute).1 isTree
  have builds := Automaton.ofPattern_eq_ok_iff_ofSource?.2 ⟨tree, isTree, built⟩
  refine ⟨⟨source, flags, automaton, settings, .spaces settings.defaultAttribute⟩,
    ?_, rfl, rfl, built⟩
  rw [perform, Matcher.ofSource, builds]
  rfl

/-- Recompiled, a matcher stands for the new source, or for what it stood for if that fails. -/
theorem StandsFor.recompile
    (stands : history.StandsFor settings tree)
    (request : String × String) :
    (history.perform dialect (recompileStep request)).2.StandsFor settings
      ((PatternTree.ofSource? dialect request.1).getD tree) := by
  obtain ⟨matcher, present, rfl, tokenizer, built⟩ := stands
  rw [recompileStep, perform, MatcherHistory.recompile, present]
  dsimp only
  rw [Matcher.recompile]
  cases isNext : Automaton.ofPattern dialect matcher.settings request.1 with
  | error error =>
      have noTree : PatternTree.ofSource? dialect request.1 = none := by
        apply Option.eq_none_iff_forall_ne_some.2
        intro next isTree
        obtain ⟨_, automaton, nextBuilt⟩ :=
          (PatternTree.ofSource?_eq_some_iff matcher.settings.defaultAttribute).1 isTree
        have builds := Automaton.ofPattern_eq_ok_iff_ofSource?.2 ⟨next, isTree, nextBuilt⟩
        rw [isNext] at builds
        cases builds
      rw [noTree, Option.getD_none]
      exact ⟨matcher, present, rfl, tokenizer, built⟩
  | ok automaton =>
      obtain ⟨next, isTree, nextBuilt⟩ := Automaton.ofPattern_eq_ok_iff_ofSource?.1 isNext
      rw [isTree, Option.getD_some]
      exact ⟨_, rfl, rfl, tokenizer, nextBuilt⟩

/-- However often it is recompiled, a matcher stands for the latest source that has a tree. -/
theorem StandsFor.performAll_recompile
    (stands : history.StandsFor settings tree)
    (requests : List (String × String)) :
    (performAll dialect (requests.map recompileStep) history).2.StandsFor settings
      (requests.foldl
        (fun tree request => (PatternTree.ofSource? dialect request.1).getD tree)
        tree) := by
  induction requests generalizing history tree with
  | nil =>
      exact stands
  | cons request rest inductionHypothesis =>
      exact inductionHypothesis (stands.recompile request)

/-- What a matcher of that source answers about a text after it was recompiled. -/
def textAnswer
    (dialect : Dialect)
    (source flags : String)
    (requests : List (String × String))
    (text : String)
    (settings : Settings) :
    StepResult :=
  let steps := .construct source flags settings :: requests.map recompileStep
  ((performAll dialect steps start).2.perform dialect (.matchText text)).1

/-- The answer about a text is that of a search over the tokens of its pieces. -/
theorem textAnswer_eq
    {source : String}
    {requests : List (String × String)}
    (isTree : standingTree? dialect source requests = some tree)
    (flags text : String)
    (settings : Settings) :
    ∃ automaton,
      Automaton.ofProgram settings.defaultAttribute tree.program = .ok automaton ∧
        textAnswer dialect source flags requests text settings =
          .answer
            (automaton.matchesTokens dialect settings.stepLimit
              ((textPieces text).map (pieceToken settings.defaultAttribute)).toArray) := by
  obtain ⟨first, isFirst, rfl⟩ := Option.map_eq_some_iff.1 isTree
  have stands := standsFor_construct isFirst flags settings start
  obtain ⟨matcher, present, rfl, tokenizer, built⟩ := stands.performAll_recompile requests
  refine ⟨matcher.automaton, built, ?_⟩
  have answered := answer_of_present present dialect text
  rw [Matcher.matchesText, Matcher.runText, tokenizer, tokenize_spaces] at answered
  exact answered

/-- How a matcher answers about a text, whatever it was recompiled to and its settings are. -/
structure AnswersByPieces
    (dialect : Dialect)
    (source flags : String)
    (requests : List (String × String))
    (text : String) :
    Prop where
  /-- There is one way to cut the text at its spaces. -/
  existsUnique_pieces : ∃! pieces, CutAtSpaces text pieces
  /-- Without a limit, the text matches if some pieces from the first on are described. -/
  answer_iff :
    ∀ tree,
      standingTree? dialect source requests = some tree →
        ∀ settings pieces,
          settings.stepLimit = none →
            ¬ tree.Mentions settings.defaultAttribute →
              CutAtSpaces text pieces →
                ∃ isMatch,
                  textAnswer dialect source flags requests text settings =
                      .answer (.ok isMatch) ∧
                    (isMatch = true ↔
                      ∃ front, front <+: pieces ∧ front ∈ tree.pieceLanguage dialect)
  /-- Names that no test asks for make no difference, under any limit. -/
  same_answer :
    ∀ tree,
      standingTree? dialect source requests = some tree →
        ∀ settings other,
          settings.stepLimit = other.stepLimit →
            ¬ tree.Mentions settings.defaultAttribute →
              ¬ tree.Mentions other.defaultAttribute →
                textAnswer dialect source flags requests text settings =
                  textAnswer dialect source flags requests text other

/-- A matcher answers by the pieces of the text. -/
theorem answersByPieces
    (dialect : Dialect)
    (source flags : String)
    (requests : List (String × String))
    (text : String) :
    AnswersByPieces dialect source flags requests text where
  existsUnique_pieces := existsUnique_cutAtSpaces text
  answer_iff tree isTree settings pieces unlimited unmentioned cut := by
    obtain ⟨automaton, built, answers⟩ := textAnswer_eq isTree flags text settings
    obtain ⟨found, holes, owned, reads, embodies, sameName⟩ := Automaton.ofProgram_embodies built
    cases (PatternTree.ofProgram?_eq_some_iff.2 rfl).symm.trans reads
    have search := embodies.recognizes dialect
      ((textPieces text).map (pieceToken settings.defaultAttribute)).toArray
    rw [sameName] at search
    have described :=
      PatternTree.exists_prefix_pieceTokens_iff unmentioned dialect (textPieces text)
    rw [cut.eq_textPieces, answers, unlimited]
    by_cases isDescribed :
        ∃ front, front <+: textPieces text ∧ front ∈ tree.pieceLanguage dialect
    · refine ⟨true, ?_, by simp [isDescribed]⟩
      rw [search.matched (described.2 isDescribed)]
    · refine ⟨false, ?_, by simp [isDescribed]⟩
      rw [search.unmatched (mt described.1 isDescribed)]
  same_answer tree isTree settings other sameLimit unmentioned otherUnmentioned := by
    obtain ⟨automaton, built, answers⟩ := textAnswer_eq isTree flags text settings
    obtain ⟨otherAutomaton, otherBuilt, otherAnswers⟩ := textAnswer_eq isTree flags text other
    have agree := Automaton.agree_pieceTokens built otherBuilt unmentioned otherUnmentioned
      dialect (textPieces text)
    rw [answers, otherAnswers, Automaton.matchesTokens, Automaton.matchesTokens, sameLimit,
      agree.run_eq]

/-- Sources that are no patterns leave the matcher as it was. -/
example :
    standingTree? .standard "a b" [("[", ""), ("c", ""), ("d (", "")] =
      some (.atom (.word "c")) := by
  cbv

end MatcherHistory

end TokenPattern
