import TokenPattern.Lexeme.Basic
import TokenPattern.Proofs.PatternTree

namespace TokenPattern

/-!
# The grammar of token patterns

A pattern is a run of terms.  A term is an operand with at most one quantifier
directly after it, and an operand is an atom, a run in parentheses, or runs in
brackets that are joined by operators, of which the conjunction binds more
tightly than the alternative.  Blanks may stand around terms.  Each derivation
builds the tree of what it derives; runs and operators associate to the left.
-/

/-- The syntactic categories. -/
inductive Category where
  /-- An atom or a group. -/
  | operand
  /-- An operand and perhaps a quantifier. -/
  | term
  /-- Terms one after the other. -/
  | run
  /-- Runs joined by `&`. -/
  | conjunction
  /-- Conjunctions joined by `|`. -/
  | disjunction
  deriving Repr, DecidableEq

/-- Symbols derive from a category, which gives them a tree. -/
inductive Derives : Category → List Symbol → PatternTree → Prop where
  | atom (test : Atom) :
      Derives .operand [.atom test] (.atom test)
  | parentheses
      {symbols : List Symbol}
      {tree : PatternTree}
      (inner : Derives .run symbols tree) :
      Derives .operand (.opener .round :: (symbols ++ [.closer .round])) tree
  | brackets
      {symbols : List Symbol}
      {tree : PatternTree}
      (inner : Derives .disjunction symbols tree) :
      Derives .operand (.opener .square :: (symbols ++ [.closer .square])) tree
  | bare
      {symbols : List Symbol}
      {tree : PatternTree}
      (operand : Derives .operand symbols tree) :
      Derives .term symbols tree
  | quantified
      {symbols : List Symbol}
      {tree : PatternTree}
      (operand : Derives .operand symbols tree)
      (operator : Quantifier) :
      Derives .term (symbols ++ [.quantifier operator])
        (.quantify operator tree)
  | single
      {symbols : List Symbol}
      {tree : PatternTree}
      (term : Derives .term symbols tree) :
      Derives .run symbols tree
  | juxtapose
      {front back : List Symbol}
      {first second : PatternTree}
      (run : Derives .run front first)
      (term : Derives .term back second) :
      Derives .run (front ++ back) (.concat first second)
  | leadingBlank
      {symbols : List Symbol}
      {tree : PatternTree}
      (run : Derives .run symbols tree) :
      Derives .run (.blank :: symbols) tree
  | trailingBlank
      {symbols : List Symbol}
      {tree : PatternTree}
      (run : Derives .run symbols tree) :
      Derives .run (symbols ++ [.blank]) tree
  | oneRun
      {symbols : List Symbol}
      {tree : PatternTree}
      (run : Derives .run symbols tree) :
      Derives .conjunction symbols tree
  | conjoin
      {front back : List Symbol}
      {left right : PatternTree}
      (conjunction : Derives .conjunction front left)
      (run : Derives .run back right) :
      Derives .conjunction (front ++ .connective .and :: back)
        (.connect .and left right)
  | oneConjunction
      {symbols : List Symbol}
      {tree : PatternTree}
      (conjunction : Derives .conjunction symbols tree) :
      Derives .disjunction symbols tree
  | alternate
      {front back : List Symbol}
      {left right : PatternTree}
      (disjunction : Derives .disjunction front left)
      (conjunction : Derives .conjunction back right) :
      Derives .disjunction (front ++ .connective .or :: back)
        (.connect .or left right)

/-- Nothing but blanks. -/
def AllBlank (symbols : List Symbol) : Prop :=
  ∀ symbol ∈ symbols, symbol = .blank

theorem allBlank_nil : AllBlank [] := by
  simp [AllBlank]

/-- One more blank may stand behind blanks. -/
theorem AllBlank.snoc
    {blanks : List Symbol}
    (allBlank : AllBlank blanks) :
    AllBlank (blanks ++ [.blank]) :=
  List.forall_mem_append.2 ⟨allBlank, by simp⟩

namespace Derives

variable {symbols blanks : List Symbol}
variable {tree : PatternTree}

/-- Blanks may stand before a run. -/
theorem leadingBlanks
    (run : Derives .run symbols tree)
    (allBlank : AllBlank blanks) :
    Derives .run (blanks ++ symbols) tree := by
  induction blanks with
  | nil =>
      exact run
  | cons first rest inductionHypothesis =>
      obtain ⟨rfl, restBlank⟩ := List.forall_mem_cons.1 allBlank
      exact .leadingBlank (inductionHypothesis restBlank)

/-- Blanks may stand behind a run. -/
theorem trailingBlanks
    (run : Derives .run symbols tree)
    (allBlank : AllBlank blanks) :
    Derives .run (symbols ++ blanks) tree := by
  induction blanks generalizing symbols with
  | nil =>
      rwa [List.append_nil]
  | cons first rest inductionHypothesis =>
      obtain ⟨rfl, restBlank⟩ := List.forall_mem_cons.1 allBlank
      simpa using inductionHypothesis run.trailingBlank restBlank

end Derives

end TokenPattern
