import TokenPattern.Proofs.Grammar
import TokenPattern.Proofs.ParserStep

namespace TokenPattern.Parser

/-!
# What derives from the grammar is parsed

From any state in which a category may stand, the parser reads what derives
from it and has emitted the program of its tree, up to what waits to be emitted:
the concatenation of the last term and the operators that have not been applied.
-/

/-- A sequence that has read no term of the run at hand. -/
def atRun (operators : List Connective) : Sequence :=
  ⟨0, false, operators⟩

/-- A sequence that has read a term which follows some others of its run. -/
def afterTerm (others : Nat) (operators : List Connective) : Sequence :=
  ⟨others, true, operators⟩

@[simp] theorem joint_afterTerm (others : Nat) (operators : List Connective) :
    (afterTerm others operators).joint = jointAfter others :=
  rfl

@[simp] theorem emittedOperators_nil : emittedOperators [] = [] :=
  rfl

@[simp] theorem emittedOperators_singleton (operator : Connective) :
    emittedOperators [operator] = [.connect operator] :=
  rfl

/-- Operators that are applied later are emitted above. -/
theorem emittedOperators_append (front back : List Connective) :
    emittedOperators (front ++ back) =
      emittedOperators back ++ emittedOperators front := by
  simp [emittedOperators]

/-- The parser reads lexemes that derive from a category, and emits their tree. -/
def Understands : Category → List Lexeme → PatternTree → Prop
  | .operand, lexemes, tree =>
      ∀ parser sequence, ∃ next : Parser,
        Reads parser sequence lexemes next
            { sequence.finished with pendingTerm := true } ∧
          next.groups = parser.groups ∧
          next.preceding = .operand ∧
          next.emitted =
            tree.program.reverse ++ (sequence.joint ++ parser.emitted)
  | .term, lexemes, tree =>
      ∀ parser sequence, ∃ next : Parser,
        Reads parser sequence lexemes next
            { sequence.finished with pendingTerm := true } ∧
          next.groups = parser.groups ∧
          next.emitted =
            tree.program.reverse ++ (sequence.joint ++ parser.emitted)
  | .run, lexemes, tree =>
      ∀ parser operators, ∃ (next : Parser) (others : Nat),
        Reads parser (atRun operators) lexemes next
            (afterTerm others operators) ∧
          next.groups = parser.groups ∧
          jointAfter others ++ next.emitted =
            tree.program.reverse ++ parser.emitted
  | .conjunction, lexemes, tree =>
      ∀ parser operators,
        parser.insideBrackets = true →
        .and ∉ operators →
        ∃ (next : Parser) (others : Nat) (ands : List Connective),
          Reads parser (atRun operators) lexemes next
              (afterTerm others (ands ++ operators)) ∧
            next.groups = parser.groups ∧
            .or ∉ ands ∧
            emittedOperators ands ++
                (jointAfter others ++ next.emitted) =
              tree.program.reverse ++ parser.emitted
  | .disjunction, lexemes, tree =>
      ∀ parser,
        parser.insideBrackets = true →
        ∃ (next : Parser) (others : Nat) (operators : List Connective),
          Reads parser .empty lexemes next (afterTerm others operators) ∧
            next.groups = parser.groups ∧
            emittedOperators operators ++
                (jointAfter others ++ next.emitted) =
              tree.program.reverse ++ parser.emitted

variable {lexemes front back : List Lexeme}
variable {lexeme : Lexeme}
variable {tree first second : PatternTree}

/-- An atom is read. -/
theorem understands_atom
    {test : Atom}
    (symbol : lexeme.symbol = .atom test) :
    Understands .operand [lexeme] (.atom test) := by
  intro parser sequence
  exact ⟨_, .lexeme (.atom symbol) (.nothing _ _), rfl, rfl, rfl⟩

/-- A quantifier is read directly after its operand. -/
theorem understands_quantified
    (understood : Understands .operand lexemes tree)
    {operator : Quantifier}
    (symbol : lexeme.symbol = .quantifier operator) :
    Understands .term (lexemes ++ [lexeme]) (.quantify operator tree) := by
  intro parser sequence
  obtain ⟨next, reads, groups, direct, emitted⟩ := understood parser sequence
  refine ⟨_, reads.snoc (.quantifier symbol direct), groups, ?_⟩
  simp [behind, emitted, PatternTree.program]

/-- A term is a run. -/
theorem understands_single
    (understood : Understands .term lexemes tree) :
    Understands .run lexemes tree := by
  intro parser operators
  obtain ⟨next, reads, groups, emitted⟩ := understood parser (atRun operators)
  exact ⟨next, 0, reads, groups, emitted⟩

/-- A term behind a run is concatenated to it. -/
theorem understands_juxtapose
    (runUnderstood : Understands .run front first)
    (termUnderstood : Understands .term back second) :
    Understands .run (front ++ back) (.concat first second) := by
  intro parser operators
  obtain ⟨middle, others, readsRun, runGroups, runEmitted⟩ :=
    runUnderstood parser operators
  obtain ⟨last, readsTerm, termGroups, termEmitted⟩ :=
    termUnderstood middle (afterTerm others operators)
  refine ⟨last, others + 1, readsRun.append readsTerm,
    termGroups.trans runGroups, ?_⟩
  simp [termEmitted, runEmitted, PatternTree.program]

/-- A blank before a run is skipped. -/
theorem understands_leadingBlank
    (understood : Understands .run lexemes tree)
    (symbol : lexeme.symbol = .blank) :
    Understands .run (lexeme :: lexemes) tree := by
  intro parser operators
  obtain ⟨next, others, reads, groups, emitted⟩ :=
    understood (parser.behind lexeme parser.groups parser.emitted .blank)
      operators
  exact ⟨next, others, .lexeme (.blank symbol) reads, groups, emitted⟩

/-- A blank behind a run is skipped. -/
theorem understands_trailingBlank
    (understood : Understands .run lexemes tree)
    (symbol : lexeme.symbol = .blank) :
    Understands .run (lexemes ++ [lexeme]) tree := by
  intro parser operators
  obtain ⟨next, others, reads, groups, emitted⟩ := understood parser operators
  exact ⟨_, others, reads.snoc (.blank symbol), groups, emitted⟩

/-- A run is a conjunction. -/
theorem understands_oneRun
    (understood : Understands .run lexemes tree) :
    Understands .conjunction lexemes tree := by
  intro parser operators _ _
  obtain ⟨next, others, reads, groups, emitted⟩ := understood parser operators
  exact ⟨next, others, [], reads, groups, by simp, by simpa using emitted⟩

/-- Whether operators may stand here depends on the open groups alone. -/
theorem insideBrackets_eq
    {parser next : Parser}
    (groups : next.groups = parser.groups) :
    next.insideBrackets = parser.insideBrackets := by
  rw [insideBrackets, insideBrackets, groups]

/-- A conjunction is read behind a run, in a sequence in which alternatives wait. -/
theorem advances_and
    {parser : Parser}
    {ands operators : List Connective}
    (symbol : lexeme.symbol = .connective .and)
    (inside : parser.insideBrackets = true)
    (noOr : .or ∉ ands)
    (noAnd : .and ∉ operators)
    (others : Nat) :
    parser.Advances (afterTerm others (ands ++ operators)) lexeme
      (parser.behind lexeme parser.groups
        (emittedOperators ands ++ (jointAfter others ++ parser.emitted)) .nothing)
      (atRun (.and :: operators)) := by
  have advances : parser.Advances (afterTerm others (ands ++ operators)) _ _ _ :=
    .connective symbol inside (Nat.succ_ne_zero others)
  obtain ⟨applied, waiting⟩ := Connective.split_at_and noOr noAnd
  dsimp only [afterTerm] at advances
  rw [applied, waiting, ← afterTerm, joint_afterTerm] at advances
  exact advances

/-- An alternative is read behind a conjunction. -/
theorem advances_or
    {parser : Parser}
    (symbol : lexeme.symbol = .connective .or)
    (inside : parser.insideBrackets = true)
    (others : Nat)
    (operators : List Connective) :
    parser.Advances (afterTerm others operators) lexeme
      (parser.behind lexeme parser.groups
        (emittedOperators operators ++ (jointAfter others ++ parser.emitted))
        .nothing)
      (atRun [.or]) := by
  have advances : parser.Advances (afterTerm others operators) _ _ _ :=
    .connective symbol inside (Nat.succ_ne_zero others)
  obtain ⟨applied, waiting⟩ := Connective.split_at_or operators
  dsimp only [afterTerm] at advances
  rw [applied, waiting, ← afterTerm, joint_afterTerm] at advances
  exact advances

/-- A run behind a conjunction and the operator becomes its right operand. -/
theorem understands_conjoin
    (leftUnderstood : Understands .conjunction front first)
    (rightUnderstood : Understands .run back second)
    (symbol : lexeme.symbol = .connective .and) :
    Understands .conjunction (front ++ lexeme :: back)
      (.connect .and first second) := by
  intro parser operators inside noAnd
  obtain ⟨middle, others, ands, readsLeft, leftGroups, noOr, leftEmitted⟩ :=
    leftUnderstood parser operators inside noAnd
  have advances := advances_and symbol
    ((insideBrackets_eq leftGroups).trans inside) noOr noAnd others
  obtain ⟨last, rightOthers, readsRight, rightGroups, rightEmitted⟩ :=
    rightUnderstood _ (.and :: operators)
  refine ⟨last, rightOthers, [.and],
    readsLeft.append (.lexeme advances readsRight),
    rightGroups.trans leftGroups, by simp, ?_⟩
  rw [rightEmitted]
  simp [behind, leftEmitted, PatternTree.program]

/-- A conjunction is a disjunction. -/
theorem understands_oneConjunction
    (understood : Understands .conjunction lexemes tree) :
    Understands .disjunction lexemes tree := by
  intro parser inside
  obtain ⟨next, others, ands, reads, groups, _, emitted⟩ :=
    understood parser [] inside (by simp)
  rw [List.append_nil] at reads
  exact ⟨next, others, ands, reads, groups, emitted⟩

/-- A conjunction behind a disjunction and the operator becomes its right operand. -/
theorem understands_alternate
    (leftUnderstood : Understands .disjunction front first)
    (rightUnderstood : Understands .conjunction back second)
    (symbol : lexeme.symbol = .connective .or) :
    Understands .disjunction (front ++ lexeme :: back)
      (.connect .or first second) := by
  intro parser inside
  obtain ⟨middle, others, operators, readsLeft, leftGroups, leftEmitted⟩ :=
    leftUnderstood parser inside
  have middleInside := (insideBrackets_eq leftGroups).trans inside
  have advances := advances_or symbol middleInside others operators
  obtain ⟨last, rightOthers, ands, readsRight, rightGroups, _, rightEmitted⟩ :=
    rightUnderstood
      (middle.behind lexeme middle.groups
        (emittedOperators operators ++ (jointAfter others ++ middle.emitted))
        .nothing)
      [.or] middleInside (by simp)
  refine ⟨last, rightOthers, ands ++ [.or],
    readsLeft.append (.lexeme advances readsRight),
    rightGroups.trans leftGroups, ?_⟩
  rw [emittedOperators_append, List.append_assoc, rightEmitted]
  simp [behind, leftEmitted, PatternTree.program]

/-- A group is read if what it encloses is. -/
theorem understands_group
    {shape : Delimiter}
    {opener closer : Lexeme}
    (opens : opener.symbol = .opener shape)
    (closes : closer.symbol = .closer shape)
    (understood :
      ∀ parser : Parser,
        (∃ opening outer outerGroups,
          parser.groups = ⟨shape, opening, outer⟩ :: outerGroups) →
        ∃ (next : Parser) (others : Nat) (operators : List Connective),
          Reads parser .empty lexemes next (afterTerm others operators) ∧
            next.groups = parser.groups ∧
            emittedOperators operators ++ (jointAfter others ++ next.emitted) =
              tree.program.reverse ++ parser.emitted) :
    Understands .operand (opener :: (lexemes ++ [closer])) tree := by
  intro parser sequence
  obtain ⟨last, others, operators, reads, groups, emitted⟩ :=
    understood
      (parser.behind opener
        (⟨shape, parser.spanOf opener, sequence.finished⟩ :: parser.groups)
        (sequence.joint ++ parser.emitted) .nothing)
      ⟨_, _, _, rfl⟩
  have advances :
      last.Advances (afterTerm others operators) closer _ _ :=
    .closer closes groups (Nat.succ_ne_zero others)
  refine ⟨_, .lexeme (.opener opens) (reads.snoc advances), rfl, rfl, ?_⟩
  rw [joint_afterTerm]
  exact emitted

/-- What derives from a category is understood as its tree. -/
theorem understands_of_derives
    {category : Category}
    {symbols : List Symbol}
    (derives : Derives category symbols tree)
    (same : lexemes.map Lexeme.symbol = symbols) :
    Understands category lexemes tree := by
  induction derives generalizing lexemes with
  | atom test =>
      obtain ⟨lexeme, rfl, symbol⟩ := List.map_eq_singleton_iff.1 same
      exact understands_atom symbol
  | parentheses _ inductionHypothesis =>
      obtain ⟨opener, others, rfl, opens, sameOthers⟩ :=
        List.map_eq_cons_iff.1 same
      obtain ⟨inner, back, rfl, sameInner, sameBack⟩ :=
        List.map_eq_append_iff.1 sameOthers
      obtain ⟨closer, rfl, closes⟩ := List.map_eq_singleton_iff.1 sameBack
      refine understands_group opens closes fun parser _ => ?_
      obtain ⟨next, terms, reads, groups, emitted⟩ :=
        inductionHypothesis sameInner parser []
      exact ⟨next, terms, [], reads, groups, by simpa using emitted⟩
  | brackets _ inductionHypothesis =>
      obtain ⟨opener, others, rfl, opens, sameOthers⟩ :=
        List.map_eq_cons_iff.1 same
      obtain ⟨inner, back, rfl, sameInner, sameBack⟩ :=
        List.map_eq_append_iff.1 sameOthers
      obtain ⟨closer, rfl, closes⟩ := List.map_eq_singleton_iff.1 sameBack
      refine understands_group opens closes fun parser isOpen => ?_
      obtain ⟨opening, outer, outerGroups, groups⟩ := isOpen
      exact inductionHypothesis sameInner parser
        (by simp [insideBrackets, groups])
  | bare _ inductionHypothesis =>
      intro parser sequence
      obtain ⟨next, reads, groups, _, emitted⟩ :=
        inductionHypothesis same parser sequence
      exact ⟨next, reads, groups, emitted⟩
  | quantified _ operator inductionHypothesis =>
      obtain ⟨front, back, rfl, sameFront, sameBack⟩ :=
        List.map_eq_append_iff.1 same
      obtain ⟨lexeme, rfl, symbol⟩ := List.map_eq_singleton_iff.1 sameBack
      exact understands_quantified (inductionHypothesis sameFront) symbol
  | single _ inductionHypothesis =>
      exact understands_single (inductionHypothesis same)
  | juxtapose _ _ runHypothesis termHypothesis =>
      obtain ⟨front, back, rfl, sameFront, sameBack⟩ :=
        List.map_eq_append_iff.1 same
      exact understands_juxtapose (runHypothesis sameFront)
        (termHypothesis sameBack)
  | leadingBlank _ inductionHypothesis =>
      obtain ⟨lexeme, rest, rfl, symbol, sameRest⟩ :=
        List.map_eq_cons_iff.1 same
      exact understands_leadingBlank (inductionHypothesis sameRest) symbol
  | trailingBlank _ inductionHypothesis =>
      obtain ⟨front, back, rfl, sameFront, sameBack⟩ :=
        List.map_eq_append_iff.1 same
      obtain ⟨lexeme, rfl, symbol⟩ := List.map_eq_singleton_iff.1 sameBack
      exact understands_trailingBlank (inductionHypothesis sameFront) symbol
  | oneRun _ inductionHypothesis =>
      exact understands_oneRun (inductionHypothesis same)
  | conjoin _ _ leftHypothesis rightHypothesis =>
      obtain ⟨front, others, rfl, sameFront, sameOthers⟩ :=
        List.map_eq_append_iff.1 same
      obtain ⟨lexeme, back, rfl, symbol, sameBack⟩ :=
        List.map_eq_cons_iff.1 sameOthers
      exact understands_conjoin (leftHypothesis sameFront)
        (rightHypothesis sameBack) symbol
  | oneConjunction _ inductionHypothesis =>
      exact understands_oneConjunction (inductionHypothesis same)
  | alternate _ _ leftHypothesis rightHypothesis =>
      obtain ⟨front, others, rfl, sameFront, sameOthers⟩ :=
        List.map_eq_append_iff.1 same
      obtain ⟨lexeme, back, rfl, symbol, sameBack⟩ :=
        List.map_eq_cons_iff.1 sameOthers
      exact understands_alternate (leftHypothesis sameFront)
        (rightHypothesis sameBack) symbol

end TokenPattern.Parser
