import TokenPattern.Automaton.Assembly

namespace TokenPattern

/-!
# Pattern trees

Reading a postfix program by the arities of its instructions turns it into a
tree of operators over tests.  The tree is determined by the program, and the
program is the tree written operands first.
-/

/-- A pattern as a tree of operators over the tests of single tokens. -/
inductive PatternTree where
  | atom (test : Atom)
  /-- The first operand, then the second. -/
  | concat (first second : PatternTree)
  /-- Either operand, or one token that satisfies both. -/
  | connect (operator : Connective) (left right : PatternTree)
  | quantify (operator : Quantifier) (body : PatternTree)
  deriving Repr, DecidableEq

namespace PatternTree

/-- The tree as a program: operands before their operator. -/
def program : PatternTree → List Instruction
  | .atom test => [.atom test]
  | .concat first second => first.program ++ second.program ++ [.concat]
  | .connect operator left right =>
      left.program ++ right.program ++ [.connect operator]
  | .quantify operator body => body.program ++ [.quantify operator]

/-- The tree and the trees that it is made of. -/
def subtrees : PatternTree → List PatternTree
  | .atom test => [.atom test]
  | .concat first second =>
      .concat first second :: (first.subtrees ++ second.subtrees)
  | .connect operator left right =>
      .connect operator left right :: (left.subtrees ++ right.subtrees)
  | .quantify operator body => .quantify operator body :: body.subtrees

/-- A tree is one of its subtrees. -/
theorem self_mem_subtrees (tree : PatternTree) : tree ∈ tree.subtrees := by
  cases tree <;> simp [subtrees]

/--
Carry out an instruction on a stack of trees, top first, by its arity alone.
-/
def reduce? :
    Instruction →
    List PatternTree →
    Option (List PatternTree)
  | .atom test, stack =>
      some (.atom test :: stack)
  | .concat, second :: first :: stack =>
      some (.concat first second :: stack)
  | .connect operator, right :: left :: stack =>
      some (.connect operator left right :: stack)
  | .quantify operator, body :: stack =>
      some (.quantify operator body :: stack)
  | _, _ =>
      none

/-- Carry out instructions on a stack of trees, from the left. -/
def reduceAll? :
    List Instruction →
    List PatternTree →
    Option (List PatternTree)
  | [], stack => some stack
  | instruction :: rest, stack => (reduce? instruction stack).bind (reduceAll? rest)

/-- The tree that the arities of a program determine, if they leave one operand. -/
def ofProgram? (program : List Instruction) : Option PatternTree :=
  match reduceAll? program [] with
  | some [tree] => some tree
  | _ => none

/-- The programs of the trees on a stack, from its bottom to its top. -/
def stackProgram (stack : List PatternTree) : List Instruction :=
  stack.reverse.flatMap program

@[simp] theorem stackProgram_nil : stackProgram [] = [] := rfl

@[simp] theorem stackProgram_cons
    (tree : PatternTree)
    (stack : List PatternTree) :
    stackProgram (tree :: stack) = stackProgram stack ++ tree.program := by
  simp [stackProgram]

/-- An instruction adds itself to the program that the stack stands for. -/
theorem stackProgram_reduce?
    {instruction : Instruction}
    {stack reduced : List PatternTree}
    (reduces : reduce? instruction stack = some reduced) :
    stackProgram reduced = stackProgram stack ++ [instruction] := by
  unfold reduce? at reduces
  split at reduces <;> cases reduces <;> simp [program]

/-- Instructions add themselves to the program that the stack stands for. -/
theorem stackProgram_reduceAll?
    {instructions : List Instruction}
    {stack reduced : List PatternTree}
    (reduces : reduceAll? instructions stack = some reduced) :
    stackProgram reduced = stackProgram stack ++ instructions := by
  induction instructions generalizing stack with
  | nil =>
      cases reduces
      simp
  | cons instruction rest inductionHypothesis =>
      obtain ⟨between, headReduces, restReduces⟩ :=
        Option.bind_eq_some_iff.1 reduces
      rw [inductionHypothesis restReduces, stackProgram_reduce? headReduces]
      simp

/-- Reading a tree's program puts the tree on the stack. -/
theorem reduceAll?_program
    (tree : PatternTree)
    (rest : List Instruction)
    (stack : List PatternTree) :
    reduceAll? (tree.program ++ rest) stack =
      reduceAll? rest (tree :: stack) := by
  induction tree generalizing rest stack with
  | atom test =>
      rfl
  | concat first second firstHypothesis secondHypothesis =>
      simp only [program, List.append_assoc]
      rw [firstHypothesis, secondHypothesis]
      rfl
  | connect operator left right leftHypothesis rightHypothesis =>
      simp only [program, List.append_assoc]
      rw [leftHypothesis, rightHypothesis]
      rfl
  | quantify operator body bodyHypothesis =>
      simp only [program, List.append_assoc]
      rw [bodyHypothesis]
      rfl

/-- A program determines a tree exactly if it is the program of that tree. -/
theorem ofProgram?_eq_some_iff
    {program : List Instruction}
    {tree : PatternTree} :
    ofProgram? program = some tree ↔ tree.program = program := by
  constructor
  · intro reads
    unfold ofProgram? at reads
    split at reads
    · rename_i found reduces
      cases reads
      simpa using stackProgram_reduceAll? reduces
    · cases reads
  · rintro rfl
    have reduces := reduceAll?_program tree [] []
    rw [List.append_nil] at reduces
    simp [ofProgram?, reduces, reduceAll?]

/--
The tests of a tree that stands for one token, in the order in which they are
written: an atom, or a conjunction of such trees.
-/
def tests? : PatternTree → Option (List Atom)
  | .atom test => some [test]
  | .connect .and left right =>
      match left.tests?, right.tests? with
      | some leftTests, some rightTests => some (leftTests ++ rightTests)
      | _, _ => none
  | _ => none

/-- The predicate of a tree that stands for one token. -/
def predicate? (tree : PatternTree) : Option Predicate :=
  match tree with
  | .atom test => some (.atom test)
  | _ => tree.tests?.map fun tests => .conjunction (tests.map .atom)

/-- Both operands of a conjunction that stands for one token do so. -/
theorem tests?_and_eq_some_iff
    {left right : PatternTree}
    {tests : List Atom} :
    (connect .and left right).tests? = some tests ↔
      ∃ leftTests rightTests,
        left.tests? = some leftTests ∧
          right.tests? = some rightTests ∧
          tests = leftTests ++ rightTests := by
  simp only [tests?]
  split
  · rename_i leftTests rightTests leftFound rightFound
    simp only [leftFound, rightFound, Option.some.injEq]
    constructor
    · rintro rfl
      exact ⟨leftTests, rightTests, rfl, rfl, rfl⟩
    · rintro ⟨_, _, rfl, rfl, rfl⟩
      rfl
  · rename_i notBoth
    simp only [reduceCtorEq, false_iff]
    rintro ⟨leftTests, rightTests, leftFound, rightFound, _⟩
    exact notBoth leftTests rightTests leftFound rightFound

/-- A tree that stands for one token has a test. -/
theorem tests?_ne_nil
    {tree : PatternTree}
    {tests : List Atom}
    (found : tree.tests? = some tests) :
    tests ≠ [] := by
  induction tree generalizing tests with
  | atom test =>
      cases found
      simp
  | concat =>
      cases found
  | connect operator left right leftHypothesis rightHypothesis =>
      cases operator with
      | or =>
          cases found
      | and =>
          obtain ⟨leftTests, rightTests, leftFound, _, rfl⟩ :=
            tests?_and_eq_some_iff.1 found
          simp [leftHypothesis leftFound]
  | quantify =>
      cases found

/-- The tests of a conjunction are at least two. -/
theorem two_le_length_tests?
    {left right : PatternTree}
    {tests : List Atom}
    (found : (connect .and left right).tests? = some tests) :
    2 ≤ tests.length := by
  obtain ⟨leftTests, rightTests, leftFound, rightFound, rfl⟩ :=
    tests?_and_eq_some_iff.1 found
  have leftSome := List.length_pos_iff.2 (tests?_ne_nil leftFound)
  have rightSome := List.length_pos_iff.2 (tests?_ne_nil rightFound)
  rw [List.length_append]
  omega

/-- The predicate of a tree contributes the tree's tests to a conjunction. -/
theorem conjuncts_of_predicate?
    {tree : PatternTree}
    {predicate : Predicate}
    (found : tree.predicate? = some predicate) :
    ∃ tests,
      tree.tests? = some tests ∧
        Assembly.conjuncts predicate = tests.map .atom := by
  unfold predicate? at found
  split at found
  · rename_i test
    cases found
    exact ⟨[test], rfl, rfl⟩
  · obtain ⟨tests, testsFound, rfl⟩ := Option.map_eq_some_iff.1 found
    exact ⟨tests, testsFound, rfl⟩

end PatternTree

end TokenPattern
