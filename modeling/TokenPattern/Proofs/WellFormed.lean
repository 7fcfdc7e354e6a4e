import TokenPattern.Proofs.BreadthFirst

namespace TokenPattern

/-!
# Automata of programs are well formed

Each state of a program's automaton is the final state or the state of one part
of the program's tree: of a test or of an operator.  Holes are filled once, and
states that a conjunction replaced are gone, so that the form of a state and the
number of states can be told from the program.
-/

namespace Instruction

/-- Whether an instruction is an atom. -/
def isAtom : Instruction → Bool
  | .atom _ => true
  | _ => false

/-- Whether an instruction is a conjunction, which replaces two states by one. -/
def isConjunction : Instruction → Bool
  | .connect .and => true
  | _ => false

/-- Whether an instruction is an operator that has a state of its own. -/
def isBranching : Instruction → Bool
  | .connect .or => true
  | .quantify _ => true
  | _ => false

end Instruction

/-- A tree that stands for one token has one conjunction less than tests. -/
theorem PatternTree.countP_of_tests?
    {tree : PatternTree}
    {tests : List Atom}
    (single : tree.tests? = some tests) :
    tree.program.countP Instruction.isAtom =
        tree.program.countP Instruction.isConjunction + 1 ∧
      tree.program.countP Instruction.isBranching = 0 := by
  induction tree generalizing tests with
  | atom =>
      exact ⟨rfl, rfl⟩
  | concat =>
      cases single
  | connect operator left right leftHypothesis rightHypothesis =>
      cases operator with
      | or =>
          cases single
      | and =>
          obtain ⟨leftTests, rightTests, leftSingle, rightSingle, _⟩ :=
            tests?_and_eq_some_iff.1 single
          have leftCounts := leftHypothesis leftSingle
          have rightCounts := rightHypothesis rightSingle
          simp only [program, List.countP_append, List.countP_singleton,
            Instruction.isAtom, Instruction.isConjunction,
            Instruction.isBranching, Bool.false_eq_true, if_true, if_false]
          omega
  | quantify =>
      cases single

/-- How the state of an operator branches to the layouts of its operands. -/
inductive Branches
    (states : Array State)
    (number : Nat) :
    PatternTree → State → Prop where
  /-- To the left operand and to the right one, which lead to the same exit. -/
  | or
      {left right : PatternTree}
      {leftFragment rightFragment : Fragment}
      {exit : Nat}
      {leftOwned rightOwned : List Nat}
      (leftLaid : LaidOut states left leftFragment [exit] leftOwned)
      (rightLaid : LaidOut states right rightFragment [exit] rightOwned) :
      Branches states number (.connect .or left right)
        (.branching "|" [leftFragment.entry, rightFragment.entry])
  /-- To the body and to the exit, which the body leads to. -/
  | maybe
      {body : PatternTree}
      {bodyFragment : Fragment}
      {exit : Nat}
      {bodyOwned : List Nat}
      (bodyLaid : LaidOut states body bodyFragment [exit] bodyOwned) :
      Branches states number (.quantify .maybe body)
        (.branching "?" [bodyFragment.entry, exit])
  /-- To the body, which leads back, and to the exit. -/
  | star
      {body : PatternTree}
      {bodyFragment : Fragment}
      {exit : Nat}
      {bodyOwned : List Nat}
      (bodyLaid : LaidOut states body bodyFragment [number] bodyOwned) :
      Branches states number (.quantify .star body)
        (.branching "*" [bodyFragment.entry, exit])
  /-- To the body, which leads here first and then back, and to the exit. -/
  | plus
      {body : PatternTree}
      {bodyFragment : Fragment}
      {exit : Nat}
      {bodyOwned : List Nat}
      (bodyLaid : LaidOut states body bodyFragment [number] bodyOwned) :
      Branches states number (.quantify .plus body)
        (.branching "+" [bodyFragment.entry, exit])

/-- The forms of the states of a layout, each of them for a part of the tree. -/
inductive StateForm
    (states : Array State)
    (number : Nat) :
    PatternTree → State → Prop where
  | atom
      (test : Atom)
      (next : Nat) :
      StateForm states number (.atom test) ⟨.atom test, [next], false, test.text⟩
  | conjunction
      {left right : PatternTree}
      {tests : List Atom}
      (single : (PatternTree.connect .and left right).tests? = some tests)
      (next : Nat) :
      StateForm states number (.connect .and left right)
        ⟨.conjunction (tests.map .atom), [next], false, "&"⟩
  | branching
      {part : PatternTree}
      {state : State}
      (branches : Branches states number part state) :
      StateForm states number part state

namespace Branches

variable {states : Array State}
variable {number : Nat}
variable {part : PatternTree}
variable {state : State}

/-- The state of an operator is an epsilon state, which has two successors. -/
theorem epsilon (branches : Branches states number part state) :
    state.predicate = .epsilon ∧
      (∃ first second, state.successors = [first, second]) ∧
      state.tag ∈ ["|", "?", "*", "+"] := by
  cases branches <;> exact ⟨rfl, ⟨_, _, rfl⟩, by simp [State.branching]⟩

end Branches

namespace StateForm

variable {states : Array State}
variable {number : Nat}
variable {part : PatternTree}
variable {state : State}

/-- No state of a test or an operator is like the final state. -/
theorem not_final (form : StateForm states number part state) :
    state.predicate ≠ .alwaysTrue ∧ state.successors ≠ [] := by
  cases form with
  | atom | conjunction =>
      simp
  | branching branches =>
      obtain ⟨isEpsilon, ⟨first, second, successors⟩, _⟩ := branches.epsilon
      simp [isEpsilon, successors]

/-- The state of a test has one successor and is tagged with the test. -/
theorem consuming
    (form : StateForm states number part state)
    (notEpsilon : state.predicate ≠ .epsilon) :
    (∃ next, state.successors = [next]) ∧
      state.tag =
        match state.predicate with
        | .conjunction _ => "&"
        | predicate => predicate.text := by
  cases form with
  | atom test next | conjunction _ next =>
      exact ⟨⟨next, rfl⟩, rfl⟩
  | branching branches =>
      exact (notEpsilon branches.epsilon.1).elim

/-- An epsilon state is that of an operator. -/
theorem branches
    (form : StateForm states number part state)
    (isEpsilon : state.predicate = .epsilon) :
    Branches states number part state := by
  cases form with
  | atom | conjunction =>
      cases isEpsilon
  | branching branches =>
      exact branches

/-- A conjunction has at least two parts, which are atoms. -/
theorem parts_of_conjunction
    (form : StateForm states number part state)
    {parts : List Predicate}
    (isConjunction : state.predicate = .conjunction parts) :
    2 ≤ parts.length ∧ ∀ part ∈ parts, ∃ test, part = .atom test := by
  cases form with
  | atom =>
      cases isConjunction
  | @conjunction _ _ tests single =>
      cases isConjunction
      refine ⟨?_, fun part isPart => ?_⟩
      · rw [List.length_map]
        exact PatternTree.two_le_length_tests? single
      · obtain ⟨test, _, rfl⟩ := List.mem_map.1 isPart
        exact ⟨test, rfl⟩
  | branching branches =>
      rw [branches.epsilon.1] at isConjunction
      cases isConjunction

end StateForm

namespace LaidOut

variable {states : Array State}
variable {tree : PatternTree}
variable {fragment : Fragment}
variable {exits owned : List Nat}

/-- In a layout with one exit each owned state has the form of a part of the tree. -/
theorem stateForm
    (laid : LaidOut states tree fragment exits owned)
    {exit number : Nat}
    (oneExit : exits = [exit])
    (member : number ∈ owned) :
    ∃ part ∈ tree.subtrees, ∃ state,
      states[number]? = some state ∧ StateForm states number part state := by
  induction laid generalizing exit with
  | atom found =>
      subst oneExit
      cases List.mem_singleton.1 member
      exact ⟨_, PatternTree.self_mem_subtrees _, _, found, .atom _ _⟩
  | and single found =>
      subst oneExit
      cases List.mem_singleton.1 member
      exact ⟨_, PatternTree.self_mem_subtrees _, _, found,
        .conjunction single _⟩
  | concat firstLaid secondLaid firstHypothesis secondHypothesis =>
      rcases List.mem_append.1 member with inFirst | inSecond
      · obtain ⟨part, isPart, form⟩ := firstHypothesis rfl inFirst
        exact ⟨part, by simp [PatternTree.subtrees, isPart], form⟩
      · obtain ⟨part, isPart, form⟩ := secondHypothesis oneExit inSecond
        exact ⟨part, by simp [PatternTree.subtrees, isPart], form⟩
  | or found leftLaid rightLaid leftHypothesis rightHypothesis =>
      rcases List.mem_cons.1 member with rfl | inOperands
      · subst oneExit
        exact ⟨_, PatternTree.self_mem_subtrees _, _, found,
          .branching (.or leftLaid rightLaid)⟩
      · rcases List.mem_append.1 inOperands with inLeft | inRight
        · obtain ⟨part, isPart, form⟩ := leftHypothesis oneExit inLeft
          exact ⟨part, by simp [PatternTree.subtrees, isPart], form⟩
        · obtain ⟨part, isPart, form⟩ := rightHypothesis oneExit inRight
          exact ⟨part, by simp [PatternTree.subtrees, isPart], form⟩
  | maybe found bodyLaid bodyHypothesis =>
      rcases List.mem_cons.1 member with rfl | inBody
      · subst oneExit
        exact ⟨_, PatternTree.self_mem_subtrees _, _, found,
          .branching (.maybe bodyLaid)⟩
      · obtain ⟨part, isPart, form⟩ := bodyHypothesis oneExit inBody
        exact ⟨part, List.mem_cons_of_mem _ isPart, form⟩
  | star found bodyLaid bodyHypothesis =>
      rcases List.mem_cons.1 member with rfl | inBody
      · subst oneExit
        exact ⟨_, PatternTree.self_mem_subtrees _, _, found,
          .branching (.star bodyLaid)⟩
      · obtain ⟨part, isPart, form⟩ := bodyHypothesis rfl inBody
        exact ⟨part, List.mem_cons_of_mem _ isPart, form⟩
  | plus found bodyLaid bodyHypothesis =>
      rcases List.mem_cons.1 member with rfl | inBody
      · subst oneExit
        exact ⟨_, PatternTree.self_mem_subtrees _, _, found,
          .branching (.plus bodyLaid)⟩
      · obtain ⟨part, isPart, form⟩ := bodyHypothesis rfl inBody
        exact ⟨part, List.mem_cons_of_mem _ isPart, form⟩

/-- A layout has a state for each test and operator but a conjunction, which saves one. -/
theorem length_owned (laid : LaidOut states tree fragment exits owned) :
    owned.length + tree.program.countP Instruction.isConjunction =
      tree.program.countP Instruction.isAtom +
        tree.program.countP Instruction.isBranching := by
  induction laid with
  | atom =>
      simp [PatternTree.program, Instruction.isConjunction, Instruction.isAtom,
        Instruction.isBranching]
  | and single =>
      -- Of the states of the tests one is left, however the conjunctions nest.
      have counts := PatternTree.countP_of_tests? single
      simp only [List.length_singleton]
      omega
  | concat _ _ firstHypothesis secondHypothesis
  | or _ _ _ firstHypothesis secondHypothesis =>
      simp only [PatternTree.program, List.countP_append, List.countP_singleton,
        List.length_cons, List.length_append, Instruction.isConjunction,
        Instruction.isAtom, Instruction.isBranching, Bool.false_eq_true,
        if_true, if_false]
      omega
  | maybe _ _ bodyHypothesis
  | star _ _ bodyHypothesis
  | plus _ _ bodyHypothesis =>
      simp only [PatternTree.program, List.countP_append, List.countP_singleton,
        List.length_cons, Instruction.isConjunction, Instruction.isAtom,
        Instruction.isBranching, Bool.false_eq_true, if_true, if_false]
      omega

end LaidOut

namespace Automaton

/-- A state leads to another one if taking one of its successors does. -/
theorem leads_iff_exists_edge
    {automaton : Automaton}
    {source target : Nat} :
    Leads automaton.states source target ↔
      ∃ index, automaton.followEdge? source index = some target := by
  unfold Leads Numbering.successorsOf followEdge?
  cases automaton.states[source]? with
  | none =>
      simp
  | some state =>
      exact List.mem_iff_getElem?

/-- A state reaches another one if some path leads there. -/
theorem exists_path_of_reaches
    {automaton : Automaton}
    {first last : Nat}
    (reaches : Reaches automaton.states first last) :
    ∃ path : List Nat, path.foldlM automaton.followEdge? first = some last := by
  induction reaches with
  | refl =>
      exact ⟨[], rfl⟩
  | tail _ leads inductionHypothesis =>
      obtain ⟨path, follows⟩ := inductionHypothesis
      obtain ⟨index, isEdge⟩ := leads_iff_exists_edge.1 leads
      exact ⟨path ++ [index], by simp [List.foldlM_append, follows, isEdge]⟩

/-- What it means that an automaton is well formed, if it is that of a program. -/
structure WellFormed
    (automaton : Automaton)
    (program : List Instruction)
    (tree : PatternTree) : Prop where
  start_eq : automaton.start = 0
  /-- The program has no other reading. -/
  reads : PatternTree.ofProgram? program = some tree
  successor_lt :
    ∀ {number target : Nat} {state : State},
      automaton.states[number]? = some state →
      target ∈ state.successors →
      target < automaton.size
  /-- Each state is reached from the start. -/
  followed :
    ∀ number < automaton.size, ∃ path, automaton.follow? path = some number
  /-- Each state reaches the accepting one. -/
  leads_to_accept :
    ∀ number < automaton.size,
      ∃ path : List Nat,
        path.foldlM automaton.followEdge? number = some automaton.accept
  accept_lt : automaton.accept < automaton.size
  /-- The accepting state, and no other one, is that of a match. -/
  accept_iff :
    ∀ {number : Nat} {state : State},
      automaton.states[number]? = some state →
      (state.accepting = true ↔ number = automaton.accept) ∧
        (state.predicate = .alwaysTrue ↔ number = automaton.accept) ∧
        (state.successors = [] ↔ number = automaton.accept)
  accept_tag :
    ∀ {state : State},
      automaton.states[automaton.accept]? = some state →
      state.tag = "$"
  /-- Any other state that tests tokens has one successor. -/
  consuming :
    ∀ {number : Nat} {state : State},
      automaton.states[number]? = some state →
      number ≠ automaton.accept →
      state.predicate ≠ .epsilon →
      (∃ next, state.successors = [next]) ∧
        state.tag =
          match state.predicate with
          | .conjunction _ => "&"
          | predicate => predicate.text
  /-- An epsilon state branches to two successors, for an operator of the tree. -/
  branching :
    ∀ {number : Nat} {state : State},
      automaton.states[number]? = some state →
      state.predicate = .epsilon →
      (∃ first second, state.successors = [first, second]) ∧
        state.tag ∈ ["|", "?", "*", "+"] ∧
        ∃ part ∈ tree.subtrees, Branches automaton.states number part state
  /-- A conjunction is a list of atoms, at least two. -/
  conjunction :
    ∀ {number : Nat} {state : State} {parts : List Predicate},
      automaton.states[number]? = some state →
      state.predicate = .conjunction parts →
      2 ≤ parts.length ∧ ∀ part ∈ parts, ∃ test, part = .atom test
  /-- The number of states, but for the states that conjunctions save. -/
  size_eq :
    automaton.size + program.countP Instruction.isConjunction =
      1 + program.countP Instruction.isAtom +
        program.countP Instruction.isBranching

namespace Embodies

variable {automaton : Automaton}
variable {tree : PatternTree}
variable {holes owned : List Nat}

/-- Each state is the final state or has the form of a part of the tree. -/
theorem final_or_form
    (embodies : automaton.Embodies tree holes owned)
    {number : Nat}
    {state : State}
    (found : automaton.states[number]? = some state) :
    (number = automaton.accept ∧ state = .final) ∨
      (number ≠ automaton.accept ∧
        ∃ part ∈ tree.subtrees,
          StateForm automaton.states number part state) := by
  refine (embodies.final_or_owned found).imp_right ?_
  rintro ⟨notFinal, isOwned⟩
  obtain ⟨part, isPart, same, sameFound, form⟩ :=
    embodies.laidOut.stateForm rfl isOwned
  rw [found] at sameFound
  cases sameFound
  exact ⟨notFinal, part, isPart, form⟩

/-- A state other than the final one has the form of a part of the tree. -/
theorem form_of_ne
    (embodies : automaton.Embodies tree holes owned)
    {number : Nat}
    {state : State}
    (found : automaton.states[number]? = some state)
    (notFinal : ¬(number = automaton.accept ∧ state = .final)) :
    ∃ part ∈ tree.subtrees, StateForm automaton.states number part state :=
  ((embodies.final_or_form found).resolve_left notFinal).2

/-- The start reaches all states. -/
theorem start_reaches
    (embodies : automaton.Embodies tree holes owned)
    {number : Nat}
    (inRange : number < automaton.size) :
    Reaches automaton.states automaton.start number := by
  refine (embodies.laidOut.reaches_iff embodies.final number).2 ?_
  exact List.mem_cons.2 ((embodies.mem_iff number).1 inRange)

/-- All states reach the final one. -/
theorem reaches_accept
    (embodies : automaton.Embodies tree holes owned)
    {number : Nat}
    (inRange : number < automaton.size) :
    Reaches automaton.states number automaton.accept := by
  rcases (embodies.mem_iff number).1 inRange with rfl | isOwned
  · exact .refl
  · exact embodies.laidOut.reaches_exit isOwned (List.mem_singleton_self _)

/-- There are as many states as parts of the tree that have one, and the final one. -/
theorem size_eq (embodies : automaton.Embodies tree holes owned) :
    automaton.size + tree.program.countP Instruction.isConjunction =
      1 + tree.program.countP Instruction.isAtom +
        tree.program.countP Instruction.isBranching := by
  have states := embodies.all_states.length_eq
  have owned := embodies.laidOut.length_owned
  rw [List.length_cons, List.length_range] at states
  omega

/-- An automaton that embodies the tree of a program is well formed. -/
theorem wellFormed
    (embodies : automaton.Embodies tree holes owned)
    {program : List Instruction}
    (reads : PatternTree.ofProgram? program = some tree) :
    automaton.WellFormed program tree where
  start_eq := embodies.start_eq
  reads := reads
  successor_lt := embodies.closed.edge_lt
  followed _ inRange := exists_path_of_reaches (embodies.start_reaches inRange)
  leads_to_accept _ inRange :=
    exists_path_of_reaches (embodies.reaches_accept inRange)
  accept_lt := (embodies.mem_iff _).2 (.inl rfl)
  accept_iff := by
    intro number state found
    refine ⟨embodies.accepting_iff found, ?_⟩
    rcases embodies.final_or_form found with
      ⟨isFinal, rfl⟩ | ⟨notFinal, part, _, form⟩
    · simp [isFinal, State.final]
    · simp [notFinal, form.not_final]
  accept_tag := by
    intro state found
    have isFinal := embodies.final
    rw [found] at isFinal
    cases isFinal
    rfl
  consuming := by
    intro number state found notFinal notEpsilon
    obtain ⟨_, _, form⟩ := embodies.form_of_ne found (fun same => notFinal same.1)
    exact form.consuming notEpsilon
  branching := by
    intro number state found isEpsilon
    obtain ⟨part, isPart, form⟩ := embodies.form_of_ne found (by
      rintro ⟨_, rfl⟩
      cases isEpsilon)
    have branches := form.branches isEpsilon
    exact ⟨branches.epsilon.2.1, branches.epsilon.2.2, part, isPart, branches⟩
  conjunction := by
    intro number state parts found isConjunction
    obtain ⟨_, _, form⟩ := embodies.form_of_ne found (by
      rintro ⟨_, rfl⟩
      cases isConjunction)
    exact form.parts_of_conjunction isConjunction
  size_eq := by
    rw [← PatternTree.ofProgram?_eq_some_iff.1 reads]
    exact embodies.size_eq

end Embodies

/-- The automaton of a program is well formed. -/
theorem ofProgram_wellFormed
    {defaultAttribute : String}
    {program : List Instruction}
    {automaton : Automaton}
    (built : Automaton.ofProgram defaultAttribute program = .ok automaton) :
    ∃ tree, automaton.WellFormed program tree := by
  obtain ⟨tree, holes, owned, reads, embodies, _⟩ := ofProgram_embodies built
  exact ⟨tree, embodies.wellFormed reads⟩

/-- An automaton with a loop and a conjunction is well formed. -/
theorem wellFormed_repeatedTests :
    ∃ automaton,
      Automaton.ofProgram "word" repeatedTests = .ok automaton ∧
        ∃ tree, automaton.WellFormed repeatedTests tree :=
  ⟨_, ofProgram_repeatedTests, ofProgram_wellFormed ofProgram_repeatedTests⟩

end Automaton

end TokenPattern
