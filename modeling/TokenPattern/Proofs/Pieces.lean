import TokenPattern.Proofs.Layout

namespace TokenPattern

/-!
# The fragments on the stack

While a program is carried out, each fragment on the stack is the layout of a
tree whose holes still wait for a successor, and no two of them share a state.
An instruction joins these trees as its arity says.  Hence the states that a
program leaves are a layout of the tree that the program is read as.
-/

/-- A tree, the fragment that it is laid out as and the states that it owns. -/
structure Piece where
  tree : PatternTree
  fragment : Fragment
  owned : List Nat

/-- Pieces are laid out in an array of states without sharing any of them. -/
structure Placed (states : Array State) (pieces : List Piece) : Prop where
  laidOut :
    ∀ piece ∈ pieces,
      LaidOut states piece.tree piece.fragment [] piece.owned
  separate : (pieces.flatMap (·.owned)).Nodup

namespace Placed

variable {states : Array State}
variable {piece first second : Piece}
variable {rest : List Piece}

/-- The piece on top is laid out. -/
theorem head (placed : Placed states (piece :: rest)) :
    LaidOut states piece.tree piece.fragment [] piece.owned :=
  placed.laidOut piece List.mem_cons_self

/-- The piece on top owns no state twice. -/
theorem head_nodup (placed : Placed states (piece :: rest)) :
    piece.owned.Nodup := by
  have separate := placed.separate
  rw [List.flatMap_cons] at separate
  exact (List.nodup_append.1 separate).1

/-- The piece on top can be taken away. -/
theorem tail (placed : Placed states (piece :: rest)) : Placed states rest where
  laidOut other member := placed.laidOut other (List.mem_cons_of_mem _ member)
  separate := by
    have separate := placed.separate
    rw [List.flatMap_cons] at separate
    exact (List.nodup_append.1 separate).2.1

/-- The piece on top shares no state with the others. -/
theorem apart
    (placed : Placed states (piece :: rest))
    {other : Piece}
    (otherMember : other ∈ rest)
    {state : Nat}
    (owned : state ∈ other.owned) :
    state ∉ piece.owned := by
  have separate := placed.separate
  rw [List.flatMap_cons] at separate
  intro ownedToo
  exact (List.nodup_append.1 separate).2.2 state ownedToo state
    (List.mem_flatMap.2 ⟨other, otherMember, owned⟩) rfl

/-- All owned numbers have states. -/
theorem lt_size
    (placed : Placed states rest)
    {state : Nat}
    (member : state ∈ rest.flatMap (·.owned)) :
    state < states.size := by
  obtain ⟨piece, pieceMember, owned⟩ := List.mem_flatMap.1 member
  exact (placed.laidOut piece pieceMember).lt_size owned

/-- A new state is owned by no piece. -/
theorem size_not_mem (placed : Placed states rest) :
    states.size ∉ rest.flatMap (·.owned) :=
  fun member => Nat.lt_irrefl _ (placed.lt_size member)

/-- Pushing a state leaves the pieces alone. -/
theorem push
    (placed : Placed states rest)
    (state : State) :
    Placed (states.push state) rest where
  laidOut piece member := (placed.laidOut piece member).push state
  separate := placed.separate

/-- Filling the holes of the piece on top leaves the others alone. -/
theorem fill_tail
    (placed : Placed states (piece :: rest))
    (target : Nat) :
    Placed (Assembly.fill states piece.fragment.holes target) rest where
  laidOut other member := by
    refine (placed.tail.laidOut other member).fill_other
      (placed.head.holes_nodup placed.head_nodup) (fun state owned => ?_) target
    intro isHole
    exact placed.apart member owned (placed.head.holes_subset isHole)
  separate := placed.tail.separate

/-- Clearing a state of the piece on top leaves the others alone. -/
theorem clear_tail
    (placed : Placed states (piece :: rest))
    {cleared : Nat}
    (owned : cleared ∈ piece.owned) :
    Placed (Assembly.clear states cleared) rest where
  laidOut other member :=
    (placed.tail.laidOut other member).clear_other fun ownedToo =>
      placed.apart member ownedToo owned
  separate := placed.tail.separate

/-- A piece on new states can be put on top. -/
theorem cons
    (placed : Placed states rest)
    (laid : LaidOut states piece.tree piece.fragment [] piece.owned)
    (noDuplicates : piece.owned.Nodup)
    (fresh : ∀ state ∈ piece.owned, state ∉ rest.flatMap (·.owned)) :
    Placed states (piece :: rest) where
  laidOut := List.forall_mem_cons.2 ⟨laid, placed.laidOut⟩
  separate := by
    rw [List.flatMap_cons]
    refine List.nodup_append.2 ⟨noDuplicates, placed.separate, ?_⟩
    rintro state owned _ ownedToo rfl
    exact fresh state owned ownedToo

/-- The two pieces on top can be exchanged. -/
theorem swap (placed : Placed states (second :: first :: rest)) :
    Placed states (first :: second :: rest) where
  laidOut piece member :=
    placed.laidOut piece ((List.Perm.swap second first rest).mem_iff.1 member)
  separate :=
    ((List.Perm.swap second first rest).flatMap_right _).nodup_iff.2
      placed.separate

end Placed

namespace Assembly

/-- The stack holds the fragments of pieces that are placed in the states. -/
structure Holds (assembly : Assembly) (pieces : List Piece) : Prop where
  stack : assembly.stack = pieces.map (·.fragment)
  placed : Placed assembly.states pieces

/-- At the beginning there is no piece. -/
theorem empty_holds : empty.Holds [] where
  stack := rfl
  placed := ⟨by simp, by simp⟩

variable {assembly : Assembly}
variable {piece first second : Piece}
variable {rest : List Piece}

/-- A new test is a piece of its own. -/
theorem pushTest_holds
    (placed : Placed assembly.states rest)
    {tree : PatternTree}
    {predicate : Predicate}
    {tag : String}
    (laid :
      LaidOut (assembly.states.push (.ofPredicate predicate tag)) tree
        ⟨assembly.nextState, [assembly.nextState]⟩ [] [assembly.nextState]) :
    (assembly.pushTest (rest.map (·.fragment)) predicate tag).Holds
      (⟨tree, ⟨assembly.nextState, [assembly.nextState]⟩, [assembly.nextState]⟩ ::
        rest) where
  stack := rfl
  placed := by
    refine (placed.push _).cons laid (by simp) ?_
    intro state isNew
    rw [List.mem_singleton.1 isNew]
    exact placed.size_not_mem

/-- The test of an atom is a piece. -/
theorem atom_holds
    (holds : assembly.Holds rest)
    (test : Atom) :
    ∃ piece : Piece,
      piece.tree = .atom test ∧
        piece.owned = [assembly.nextState] ∧
        (assembly.pushTest assembly.stack (.atom test) test.text).Holds
          (piece :: rest) := by
  rw [holds.stack]
  refine ⟨_, rfl, rfl, pushTest_holds holds.placed (.atom ?_)⟩
  exact Array.getElem?_push_size

/-- Pieces put behind one another are a piece. -/
theorem concatenate_holds
    (placed : Placed assembly.states (second :: first :: rest)) :
    ∃ piece : Piece,
      piece.tree = .concat first.tree second.tree ∧
        piece.owned = first.owned ++ second.owned ∧
        (assembly.concatenate first.fragment second.fragment
          (rest.map (·.fragment))).Holds (piece :: rest) := by
  have swapped := placed.swap
  have filled := swapped.fill_tail second.fragment.entry
  have firstLaid := swapped.head.fill swapped.head_nodup second.fragment.entry
  refine ⟨⟨_, ⟨_, _⟩, first.owned ++ second.owned⟩, rfl, rfl, rfl,
    filled.tail.cons (.concat firstLaid filled.head) ?_ ?_⟩
  · refine List.nodup_append.2 ⟨swapped.head_nodup, placed.head_nodup, ?_⟩
    rintro state inFirst _ inSecond rfl
    exact placed.apart List.mem_cons_self inFirst inSecond
  · intro state owned inRest
    obtain ⟨other, member, ownedByOther⟩ := List.mem_flatMap.1 inRest
    rcases List.mem_append.1 owned with inFirst | inSecond
    · exact placed.tail.apart member ownedByOther inFirst
    · exact placed.apart (List.mem_cons_of_mem _ member) ownedByOther inSecond

/-- Pieces that a new state branches to are a piece. -/
theorem alternate_holds
    (placed : Placed assembly.states (second :: first :: rest)) :
    ∃ piece : Piece,
      piece.tree = .connect .or first.tree second.tree ∧
        piece.owned = assembly.nextState :: (first.owned ++ second.owned) ∧
        (assembly.alternate first.fragment second.fragment
          (rest.map (·.fragment))).Holds (piece :: rest) := by
  have pushed := placed.push
    (.branching "|" [first.fragment.entry, second.fragment.entry])
  have fresh := placed.size_not_mem
  simp only [List.flatMap_cons, List.mem_append, not_or] at fresh
  refine ⟨⟨_, ⟨_, _⟩, assembly.nextState :: (first.owned ++ second.owned)⟩,
    rfl, rfl, rfl, pushed.tail.tail.cons
      (.or Array.getElem?_push_size pushed.tail.head pushed.head) ?_ ?_⟩
  · refine List.nodup_cons.2 ⟨?_, List.nodup_append.2
      ⟨placed.tail.head_nodup, placed.head_nodup, ?_⟩⟩
    · rw [List.mem_append, not_or]
      exact ⟨fresh.2.1, fresh.1⟩
    · rintro state inFirst _ inSecond rfl
      exact placed.apart List.mem_cons_self inFirst inSecond
  · intro state owned inRest
    rcases List.mem_cons.1 owned with rfl | inOperands
    · exact fresh.2.2 inRest
    · obtain ⟨other, member, ownedByOther⟩ := List.mem_flatMap.1 inRest
      rcases List.mem_append.1 inOperands with inFirst | inSecond
      · exact placed.tail.apart member ownedByOther inFirst
      · exact placed.apart (List.mem_cons_of_mem _ member) ownedByOther inSecond

/-- A conjunction takes the predicates of two tests and leaves their states behind. -/
theorem exists_of_conjoin?
    {first second : Fragment}
    {stack : List Fragment}
    {joined : Assembly}
    (conjoins : assembly.conjoin? first second stack = some joined) :
    ∃ left right,
      assembly.singleTest? first = some left ∧
        assembly.singleTest? second = some right ∧
        joined =
          pushTest
            { assembly with
              states := clear (clear assembly.states first.entry) second.entry }
            stack (.conjunction (conjuncts left ++ conjuncts right)) "&" := by
  unfold conjoin? at conjoins
  split at conjoins
  · rename_i left right leftFound rightFound
    cases conjoins
    exact ⟨left, right, leftFound, rightFound, rfl⟩
  · cases conjoins

/-- Two pieces that test one token each are joined to one that does. -/
theorem conjoin?_holds
    (placed : Placed assembly.states (second :: first :: rest))
    {joined : Assembly}
    (conjoins :
      assembly.conjoin? first.fragment second.fragment
        (rest.map (·.fragment)) = some joined) :
    ∃ piece : Piece,
      piece.tree = .connect .and first.tree second.tree ∧
        piece.owned = [assembly.nextState] ∧
        joined.Holds (piece :: rest) := by
  obtain ⟨left, right, leftFound, rightFound, rfl⟩ := exists_of_conjoin? conjoins
  rw [placed.tail.head.singleTest?_eq placed.tail.head_nodup] at leftFound
  rw [placed.head.singleTest?_eq placed.head_nodup] at rightFound
  obtain ⟨leftTests, leftSingle, leftParts⟩ :=
    PatternTree.conjuncts_of_predicate? leftFound
  obtain ⟨rightTests, rightSingle, rightParts⟩ :=
    PatternTree.conjuncts_of_predicate? rightFound
  have single := PatternTree.tests?_and_eq_some_iff.2
    ⟨leftTests, rightTests, leftSingle, rightSingle, rfl⟩
  -- Clearing the operands does not touch the pieces below them.
  have below := (placed.swap.clear_tail placed.tail.head.entry_mem).clear_tail
    placed.head.entry_mem
  refine ⟨_, rfl, by simp [nextState], pushTest_holds below (.and single ?_)⟩
  rw [leftParts, rightParts, ← List.map_append]
  exact Array.getElem?_push_size

/-- A piece with a new state that branches into it and past it is a piece. -/
theorem quantify_holds
    (placed : Placed assembly.states (first :: rest))
    (operator : Quantifier) :
    ∃ piece : Piece,
      piece.tree = .quantify operator first.tree ∧
        piece.owned = assembly.nextState :: first.owned ∧
        (assembly.quantify operator first.fragment
          (rest.map (·.fragment))).Holds (piece :: rest) := by
  have pushed :=
    placed.push (.branching operator.text [first.fragment.entry])
  have fresh := placed.size_not_mem
  simp only [List.flatMap_cons, List.mem_append, not_or] at fresh
  have noDuplicates : (assembly.nextState :: first.owned).Nodup :=
    List.nodup_cons.2 ⟨fresh.1, placed.head_nodup⟩
  have apart :
      ∀ state ∈ assembly.nextState :: first.owned,
        state ∉ rest.flatMap (·.owned) := by
    intro state owned inRest
    rcases List.mem_cons.1 owned with rfl | inFirst
    · exact fresh.2 inRest
    · obtain ⟨other, member, ownedByOther⟩ := List.mem_flatMap.1 inRest
      exact placed.apart member ownedByOther inFirst
  have branchNotHole : assembly.nextState ∉ first.fragment.holes :=
    fun isHole => fresh.1 (placed.head.holes_subset isHole)
  have branchFound :
      (fill (assembly.states.push (.branching operator.text [first.fragment.entry]))
        first.fragment.holes assembly.nextState)[assembly.nextState]? =
        some (.branching operator.text [first.fragment.entry]) := by
    rw [getElem?_fill (placed.head.holes_nodup placed.head_nodup),
      if_neg branchNotHole]
    exact Array.getElem?_push_size
  have looped := pushed.head.fill pushed.head_nodup assembly.nextState
  have restFilled := pushed.fill_tail assembly.nextState
  cases operator with
  | maybe =>
      exact ⟨⟨_, ⟨_, _⟩, assembly.nextState :: first.owned⟩, rfl, rfl, rfl,
        pushed.tail.cons (.maybe Array.getElem?_push_size pushed.head)
          noDuplicates apart⟩
  | star =>
      exact ⟨⟨_, ⟨_, _⟩, assembly.nextState :: first.owned⟩, rfl, rfl, rfl,
        restFilled.cons (.star branchFound looped) noDuplicates apart⟩
  | plus =>
      exact ⟨⟨_, ⟨_, _⟩, assembly.nextState :: first.owned⟩, rfl, rfl, rfl,
        restFilled.cons (.plus branchFound looped) noDuplicates apart⟩

/-- What an instruction does to an assembly whose stack holds the fragments of pieces. -/
inductive Executes (assembly : Assembly) :
    Instruction →
    List Piece →
    Assembly →
    Prop where
  | atom
      (test : Atom)
      (pieces : List Piece) :
      Executes assembly (.atom test) pieces
        (assembly.pushTest assembly.stack (.atom test) test.text)
  | concat
      (second first : Piece)
      (rest : List Piece) :
      Executes assembly .concat (second :: first :: rest)
        (assembly.concatenate first.fragment second.fragment (rest.map (·.fragment)))
  | or
      (second first : Piece)
      (rest : List Piece) :
      Executes assembly (.connect .or) (second :: first :: rest)
        (assembly.alternate first.fragment second.fragment (rest.map (·.fragment)))
  | and
      {second first : Piece}
      {rest : List Piece}
      {joined : Assembly}
      (conjoins :
        assembly.conjoin? first.fragment second.fragment
          (rest.map (·.fragment)) = some joined) :
      Executes assembly (.connect .and) (second :: first :: rest) joined
  | quantify
      (operator : Quantifier)
      (body : Piece)
      (rest : List Piece) :
      Executes assembly (.quantify operator) (body :: rest)
        (assembly.quantify operator body.fragment (rest.map (·.fragment)))

/-- An instruction that is carried out finds its operands on the stack. -/
theorem executes_of_execute
    {pieces : List Piece}
    (stack : assembly.stack = pieces.map (·.fragment))
    {index : Nat}
    {instruction : Instruction}
    {executed : Assembly}
    (executes : assembly.execute index instruction = .ok executed) :
    assembly.Executes instruction pieces executed := by
  cases instruction with
  | atom test =>
      cases executes
      exact .atom test pieces
  | concat =>
      match pieces with
      | [] | [_] =>
          simp [execute, stack] at executes
      | second :: first :: rest =>
          simp only [execute, stack, List.map_cons] at executes
          cases executes
          exact .concat second first rest
  | connect operator =>
      match pieces with
      | [] | [_] =>
          cases operator <;> simp [execute, stack] at executes
      | second :: first :: rest =>
          cases operator with
          | or =>
              simp only [execute, stack, List.map_cons] at executes
              cases executes
              exact .or second first rest
          | and =>
              simp only [execute, stack, List.map_cons] at executes
              split at executes
              · rename_i joined conjoins
                cases executes
                exact .and conjoins
              · cases executes
  | quantify operator =>
      match pieces with
      | [] =>
          simp [execute, stack] at executes
      | body :: rest =>
          simp only [execute, stack, List.map_cons] at executes
          cases executes
          exact .quantify operator body rest

/-- Carrying out an instruction joins the trees of the pieces as its arity says. -/
theorem execute_holds
    {pieces : List Piece}
    (holds : assembly.Holds pieces)
    {index : Nat}
    {instruction : Instruction}
    {executed : Assembly}
    (executes : assembly.execute index instruction = .ok executed) :
    ∃ left : List Piece,
      executed.Holds left ∧
        PatternTree.reduce? instruction (pieces.map (·.tree)) =
          some (left.map (·.tree)) := by
  cases executes_of_execute holds.stack executes with
  | atom test =>
      obtain ⟨piece, shape, _, left⟩ := atom_holds holds test
      exact ⟨piece :: pieces, left, by simp [PatternTree.reduce?, shape]⟩
  | concat second first rest =>
      obtain ⟨piece, shape, _, left⟩ := concatenate_holds holds.placed
      exact ⟨piece :: rest, left, by simp [PatternTree.reduce?, shape]⟩
  | or second first rest =>
      obtain ⟨piece, shape, _, left⟩ := alternate_holds holds.placed
      exact ⟨piece :: rest, left, by simp [PatternTree.reduce?, shape]⟩
  | and conjoins =>
      obtain ⟨piece, shape, _, left⟩ := conjoin?_holds holds.placed conjoins
      exact ⟨piece :: _, left, by simp [PatternTree.reduce?, shape]⟩
  | quantify operator body rest =>
      obtain ⟨piece, shape, _, left⟩ := quantify_holds holds.placed operator
      exact ⟨piece :: rest, left, by simp [PatternTree.reduce?, shape]⟩

/-- Carrying out instructions joins the trees of the pieces as they are read. -/
theorem executeAll_holds
    {pieces : List Piece}
    (holds : assembly.Holds pieces)
    {index : Nat}
    {instructions : List Instruction}
    {executed : Assembly}
    (executes : assembly.executeAll index instructions = .ok executed) :
    ∃ left : List Piece,
      executed.Holds left ∧
        PatternTree.reduceAll? instructions (pieces.map (·.tree)) =
          some (left.map (·.tree)) := by
  induction instructions generalizing assembly pieces index with
  | nil =>
      cases executes
      exact ⟨pieces, holds, rfl⟩
  | cons instruction rest inductionHypothesis =>
      unfold executeAll at executes
      split at executes
      · rename_i between headExecutes
        obtain ⟨betweenPieces, betweenHolds, headReduces⟩ :=
          execute_holds holds headExecutes
        obtain ⟨left, leftHolds, restReduces⟩ :=
          inductionHypothesis betweenHolds executes
        refine ⟨left, leftHolds, ?_⟩
        simp [PatternTree.reduceAll?, headReduces, restReduces]
      · cases executes

/--
The draft of a program is a layout of the tree that the program is read as,
with the final state as its exit.
-/
theorem ofProgram_laidOut
    {program : List Instruction}
    {draft : Draft}
    (assembles : ofProgram program = .ok draft) :
    ∃ (tree : PatternTree) (holes owned : List Nat) (final : Nat),
      PatternTree.ofProgram? program = some tree ∧
        LaidOut draft.states tree ⟨draft.entry, holes⟩ [final] owned ∧
        (final :: owned).Nodup ∧
        draft.states[final]? = some .final := by
  unfold ofProgram at assembles
  split at assembles
  · cases assembles
  · rename_i assembly executes
    obtain ⟨pieces, holds, reduces⟩ := executeAll_holds empty_holds executes
    have stack := holds.stack
    split at assembles
    · rename_i fragment onlyFragment
      cases assembles
      rw [onlyFragment] at stack
      obtain ⟨piece, rfl, shape⟩ := List.map_eq_singleton_iff.1 stack.symm
      subst shape
      have placed := holds.placed.push .final
      have finalNotOwned : assembly.states.size ∉ piece.owned := by
        simpa using holds.placed.size_not_mem
      refine ⟨piece.tree, piece.fragment.holes, piece.owned,
        assembly.states.size, ?_, ?_, ?_, ?_⟩
      · have leftOne : PatternTree.reduceAll? program [] = some [piece.tree] :=
          reduces
        simp [PatternTree.ofProgram?, leftOne]
      · exact placed.head.fill placed.head_nodup assembly.states.size
      · exact List.nodup_cons.2 ⟨finalNotOwned, placed.head_nodup⟩
      · have finalNotHole : assembly.states.size ∉ piece.fragment.holes :=
          fun isHole => finalNotOwned (placed.head.holes_subset isHole)
        rw [complete,
          getElem?_fill (placed.head.holes_nodup placed.head_nodup),
          if_neg finalNotHole]
        exact Array.getElem?_push_size
    · cases assembles

end Assembly

end TokenPattern
