import TokenPattern.Proofs.PatternTree

namespace TokenPattern

/-!
# Layouts of trees

`LaidOut` says where the states of a tree stand in an array of states.  A
layout leads from the entry of its fragment to its exits, which the holes have
as their last successors: none while the fragment waits to be continued, and
one afterwards.  It also names the states that it owns.
-/

/-- The state with one more successor. -/
def State.withSuccessor (state : State) (target : Nat) : State :=
  { state with successors := state.successors ++ [target] }

/-- Filling changes exactly the holes. -/
theorem Assembly.getElem?_fill
    {states : Array State}
    {holes : List Nat}
    (noDuplicates : holes.Nodup)
    {target state : Nat} :
    (fill states holes target)[state]? =
      if state ∈ holes then
        states[state]?.map (·.withSuccessor target)
      else
        states[state]? := by
  unfold fill
  induction holes generalizing states with
  | nil =>
      simp
  | cons hole rest inductionHypothesis =>
      obtain ⟨notInRest, restNodup⟩ := List.nodup_cons.1 noDuplicates
      rw [List.foldl_cons, inductionHypothesis restNodup, Array.getElem?_modify]
      by_cases isHole : hole = state
      · subst isHole
        simp [notInRest, State.withSuccessor]
      · simp [isHole, Ne.symm isHole]

/-- Filling makes no state. -/
@[simp] theorem Assembly.size_fill
    (states : Array State)
    (holes : List Nat)
    (target : Nat) :
    (fill states holes target).size = states.size := by
  unfold fill
  induction holes generalizing states with
  | nil =>
      rfl
  | cons hole rest inductionHypothesis =>
      rw [List.foldl_cons, inductionHypothesis, Array.size_modify]

/-- Clearing changes one state. -/
theorem Assembly.getElem?_clear
    (states : Array State)
    (cleared state : Nat) :
    (clear states cleared)[state]? =
      if cleared = state then
        states[state]?.map fun found => { found with predicate := .epsilon }
      else
        states[state]? := by
  simp [clear, Array.getElem?_modify]

/-- Clearing makes no state. -/
@[simp] theorem Assembly.size_clear
    (states : Array State)
    (cleared : Nat) :
    (clear states cleared).size = states.size :=
  Array.size_modify

/--
A tree is laid out in an array of states: as a fragment whose holes lead to
the exits, on the owned states.
-/
inductive LaidOut (states : Array State) :
    PatternTree → Fragment → List Nat → List Nat → Prop where
  | atom
      {test : Atom}
      {entry : Nat}
      {exits : List Nat}
      (found : states[entry]? = some ⟨.atom test, exits, false, test.text⟩) :
      LaidOut states (.atom test) ⟨entry, [entry]⟩ exits [entry]
  | concat
      {first second : PatternTree}
      {firstFragment secondFragment : Fragment}
      {exits firstOwned secondOwned : List Nat}
      (firstLaid :
        LaidOut states first firstFragment [secondFragment.entry] firstOwned)
      (secondLaid : LaidOut states second secondFragment exits secondOwned) :
      LaidOut states (.concat first second)
        ⟨firstFragment.entry, secondFragment.holes⟩ exits
        (firstOwned ++ secondOwned)
  | or
      {left right : PatternTree}
      {leftFragment rightFragment : Fragment}
      {entry : Nat}
      {exits leftOwned rightOwned : List Nat}
      (found :
        states[entry]? =
          some (.branching "|" [leftFragment.entry, rightFragment.entry]))
      (leftLaid : LaidOut states left leftFragment exits leftOwned)
      (rightLaid : LaidOut states right rightFragment exits rightOwned) :
      LaidOut states (.connect .or left right)
        ⟨entry, leftFragment.holes ++ rightFragment.holes⟩ exits
        (entry :: (leftOwned ++ rightOwned))
  | and
      {left right : PatternTree}
      {tests : List Atom}
      {entry : Nat}
      {exits : List Nat}
      (single : (PatternTree.connect .and left right).tests? = some tests)
      (found :
        states[entry]? =
          some ⟨.conjunction (tests.map .atom), exits, false, "&"⟩) :
      LaidOut states (.connect .and left right) ⟨entry, [entry]⟩ exits [entry]
  | maybe
      {body : PatternTree}
      {bodyFragment : Fragment}
      {entry : Nat}
      {exits owned : List Nat}
      (found :
        states[entry]? =
          some (.branching Quantifier.maybe.text (bodyFragment.entry :: exits)))
      (bodyLaid : LaidOut states body bodyFragment exits owned) :
      LaidOut states (.quantify .maybe body)
        ⟨entry, bodyFragment.holes ++ [entry]⟩ exits (entry :: owned)
  | star
      {body : PatternTree}
      {bodyFragment : Fragment}
      {entry : Nat}
      {exits owned : List Nat}
      (found :
        states[entry]? =
          some (.branching Quantifier.star.text (bodyFragment.entry :: exits)))
      (bodyLaid : LaidOut states body bodyFragment [entry] owned) :
      LaidOut states (.quantify .star body) ⟨entry, [entry]⟩ exits (entry :: owned)
  | plus
      {body : PatternTree}
      {bodyFragment : Fragment}
      {branch : Nat}
      {exits owned : List Nat}
      (found :
        states[branch]? =
          some (.branching Quantifier.plus.text (bodyFragment.entry :: exits)))
      (bodyLaid : LaidOut states body bodyFragment [branch] owned) :
      LaidOut states (.quantify .plus body)
        ⟨bodyFragment.entry, [branch]⟩ exits (branch :: owned)

namespace LaidOut

variable {states : Array State}
variable {tree : PatternTree}
variable {fragment : Fragment}
variable {exits owned : List Nat}

/-- The entry is an owned state. -/
theorem entry_mem (laid : LaidOut states tree fragment exits owned) :
    fragment.entry ∈ owned := by
  induction laid with
  | atom | or | and | maybe | star =>
      simp
  | concat firstLaid secondLaid firstMember secondMember =>
      exact List.mem_append_left _ firstMember
  | plus found bodyLaid member =>
      exact List.mem_cons_of_mem _ member

/-- The holes are owned states. -/
theorem holes_subset (laid : LaidOut states tree fragment exits owned) :
    fragment.holes ⊆ owned := by
  induction laid with
  | atom | and | star | plus =>
      simp
  | concat firstLaid secondLaid firstSubset secondSubset =>
      exact List.subset_append_of_subset_right _ secondSubset
  | or found leftLaid rightLaid leftSubset rightSubset =>
      intro hole member
      rcases List.mem_append.1 member with inLeft | inRight
      · simp [leftSubset inLeft]
      · simp [rightSubset inRight]
  | maybe found bodyLaid subset =>
      intro hole member
      rcases List.mem_append.1 member with inBody | isEntry
      · exact List.mem_cons_of_mem _ (subset inBody)
      · simp_all

/-- The holes of two layouts are owned by the one or the other. -/
theorem append_holes_subset
    {left right : PatternTree}
    {leftFragment rightFragment : Fragment}
    {leftOwned rightOwned : List Nat}
    (leftLaid : LaidOut states left leftFragment exits leftOwned)
    (rightLaid : LaidOut states right rightFragment exits rightOwned) :
    leftFragment.holes ++ rightFragment.holes ⊆ leftOwned ++ rightOwned := by
  intro hole isHole
  exact List.mem_append.2 ((List.mem_append.1 isHole).imp
    (fun inLeft => leftLaid.holes_subset inLeft)
    (fun inRight => rightLaid.holes_subset inRight))

/-- There is a state for each owned number. -/
theorem lt_size
    (laid : LaidOut states tree fragment exits owned)
    {state : Nat}
    (member : state ∈ owned) :
    state < states.size := by
  have present {entry : Nat} {data : State}
      (found : states[entry]? = some data) : entry < states.size :=
    (Array.getElem?_eq_some_iff.1 found).1
  induction laid with
  | atom found | and single found =>
      rw [List.mem_singleton.1 member]
      exact present found
  | concat firstLaid secondLaid firstHypothesis secondHypothesis =>
      rcases List.mem_append.1 member with inFirst | inSecond
      · exact firstHypothesis inFirst
      · exact secondHypothesis inSecond
  | or found leftLaid rightLaid leftHypothesis rightHypothesis =>
      rcases List.mem_cons.1 member with rfl | inOperands
      · exact present found
      · rcases List.mem_append.1 inOperands with inLeft | inRight
        · exact leftHypothesis inLeft
        · exact rightHypothesis inRight
  | maybe found bodyLaid bodyHypothesis
  | star found bodyLaid bodyHypothesis
  | plus found bodyLaid bodyHypothesis =>
      rcases List.mem_cons.1 member with rfl | inBody
      · exact present found
      · exact bodyHypothesis inBody

/-- No owned state is accepting. -/
theorem not_accepting
    (laid : LaidOut states tree fragment exits owned)
    {number : Nat}
    (member : number ∈ owned) :
    ∃ state, states[number]? = some state ∧ state.accepting = false := by
  induction laid with
  | atom found | and _ found =>
      rw [List.mem_singleton.1 member]
      exact ⟨_, found, rfl⟩
  | concat firstLaid secondLaid firstHypothesis secondHypothesis =>
      rcases List.mem_append.1 member with inFirst | inSecond
      · exact firstHypothesis inFirst
      · exact secondHypothesis inSecond
  | or found leftLaid rightLaid leftHypothesis rightHypothesis =>
      rcases List.mem_cons.1 member with rfl | inOperands
      · exact ⟨_, found, rfl⟩
      · rcases List.mem_append.1 inOperands with inLeft | inRight
        · exact leftHypothesis inLeft
        · exact rightHypothesis inRight
  | maybe found bodyLaid bodyHypothesis
  | star found bodyLaid bodyHypothesis
  | plus found bodyLaid bodyHypothesis =>
      rcases List.mem_cons.1 member with rfl | inBody
      · exact ⟨_, found, rfl⟩
      · exact bodyHypothesis inBody

/-- Only the owned states matter. -/
theorem congr
    (laid : LaidOut states tree fragment exits owned)
    {changed : Array State}
    (same : ∀ state ∈ owned, changed[state]? = states[state]?) :
    LaidOut changed tree fragment exits owned := by
  induction laid with
  | atom found =>
      exact .atom ((same _ (by simp)).trans found)
  | concat firstLaid secondLaid firstHypothesis secondHypothesis =>
      exact .concat
        (firstHypothesis fun state member =>
          same state (List.mem_append_left _ member))
        (secondHypothesis fun state member =>
          same state (List.mem_append_right _ member))
  | or found leftLaid rightLaid leftHypothesis rightHypothesis =>
      refine .or ((same _ (by simp)).trans found)
        (leftHypothesis fun state member => same state ?_)
        (rightHypothesis fun state member => same state ?_)
      · simp [member]
      · simp [member]
  | and single found =>
      exact .and single ((same _ (by simp)).trans found)
  | maybe found bodyLaid bodyHypothesis =>
      exact .maybe ((same _ (by simp)).trans found)
        (bodyHypothesis fun state member =>
          same state (List.mem_cons_of_mem _ member))
  | star found bodyLaid bodyHypothesis =>
      exact .star ((same _ (by simp)).trans found)
        (bodyHypothesis fun state member =>
          same state (List.mem_cons_of_mem _ member))
  | plus found bodyLaid bodyHypothesis =>
      exact .plus ((same _ (by simp)).trans found)
        (bodyHypothesis fun state member =>
          same state (List.mem_cons_of_mem _ member))

/-- No state is a hole twice. -/
theorem holes_nodup
    (laid : LaidOut states tree fragment exits owned)
    (noDuplicates : owned.Nodup) :
    fragment.holes.Nodup := by
  induction laid with
  | atom | and | star | plus =>
      simp
  | concat firstLaid secondLaid firstHypothesis secondHypothesis =>
      exact secondHypothesis (List.nodup_append.1 noDuplicates).2.1
  | or found leftLaid rightLaid leftHypothesis rightHypothesis =>
      obtain ⟨leftNodup, rightNodup, apart⟩ :=
        List.nodup_append.1 (List.nodup_cons.1 noDuplicates).2
      refine List.nodup_append.2
        ⟨leftHypothesis leftNodup, rightHypothesis rightNodup, ?_⟩
      intro hole inLeft other inRight
      exact apart hole (leftLaid.holes_subset inLeft)
        other (rightLaid.holes_subset inRight)
  | maybe found bodyLaid bodyHypothesis =>
      obtain ⟨notOwned, bodyNodup⟩ := List.nodup_cons.1 noDuplicates
      refine List.nodup_append.2 ⟨bodyHypothesis bodyNodup, by simp, ?_⟩
      rintro hole inBody other isEntry rfl
      rw [List.mem_singleton.1 isEntry] at inBody
      exact notOwned (bodyLaid.holes_subset inBody)

/--
Attaching one more successor to the holes, and changing no other owned state,
adds an exit.
-/
theorem extend
    (laid : LaidOut states tree fragment exits owned)
    (noDuplicates : owned.Nodup)
    {changed : Array State}
    {target : Nat}
    (patched :
      ∀ state ∈ owned,
        changed[state]? =
          if state ∈ fragment.holes then
            states[state]?.map (·.withSuccessor target)
          else
            states[state]?) :
    LaidOut changed tree fragment (exits ++ [target]) owned := by
  induction laid with
  | atom found =>
      refine .atom ?_
      rw [patched _ (by simp), found]
      simp [State.withSuccessor]
  | @concat _ _ _ _ _ firstOwned secondOwned firstLaid secondLaid _
      secondHypothesis =>
      obtain ⟨_, secondNodup, apart⟩ := List.nodup_append.1 noDuplicates
      refine .concat (firstLaid.congr fun state member => ?_)
        (secondHypothesis secondNodup fun state member =>
          patched state (List.mem_append_right _ member))
      rw [patched state (List.mem_append_left _ member), if_neg]
      intro isHole
      exact apart state member state (secondLaid.holes_subset isHole) rfl
  | @or left right leftFragment rightFragment entry exits leftOwned rightOwned
      found leftLaid rightLaid leftHypothesis rightHypothesis =>
      obtain ⟨notOwned, operandsNodup⟩ := List.nodup_cons.1 noDuplicates
      obtain ⟨leftNodup, rightNodup, apart⟩ := List.nodup_append.1 operandsNodup
      have entryNotHole : entry ∉ leftFragment.holes ++ rightFragment.holes :=
        fun isHole => notOwned (leftLaid.append_holes_subset rightLaid isHole)
      refine .or ?_ (leftHypothesis leftNodup fun state member => ?_)
        (rightHypothesis rightNodup fun state member => ?_)
      · rw [patched _ (by simp), if_neg entryNotHole]
        exact found
      · have notRight : state ∉ rightFragment.holes := by
          intro isHole
          exact apart state member state (rightLaid.holes_subset isHole) rfl
        simpa [notRight] using patched state (by simp [member])
      · have notLeft : state ∉ leftFragment.holes := by
          intro isHole
          exact apart state (leftLaid.holes_subset isHole) state member rfl
        simpa [notLeft] using patched state (by simp [member])
  | and single found =>
      refine .and single ?_
      rw [patched _ (by simp), found]
      simp [State.withSuccessor]
  | maybe found bodyLaid bodyHypothesis =>
      obtain ⟨notOwned, bodyNodup⟩ := List.nodup_cons.1 noDuplicates
      refine .maybe ?_ (bodyHypothesis bodyNodup fun state member => ?_)
      · rw [patched _ (by simp), found]
        simp [State.withSuccessor, State.branching]
      · have notEntry := ne_of_mem_of_not_mem member notOwned
        simpa [notEntry] using patched state (List.mem_cons_of_mem _ member)
  | star found bodyLaid bodyHypothesis =>
      have notOwned := (List.nodup_cons.1 noDuplicates).1
      refine .star ?_ (bodyLaid.congr fun state member => ?_)
      · rw [patched _ (by simp), found]
        simp [State.withSuccessor, State.branching]
      · have notEntry := ne_of_mem_of_not_mem member notOwned
        simpa [notEntry] using patched state (List.mem_cons_of_mem _ member)
  | plus found bodyLaid bodyHypothesis =>
      have notOwned := (List.nodup_cons.1 noDuplicates).1
      refine .plus ?_ (bodyLaid.congr fun state member => ?_)
      · rw [patched _ (by simp), found]
        simp [State.withSuccessor, State.branching]
      · have notBranch := ne_of_mem_of_not_mem member notOwned
        simpa [notBranch] using patched state (List.mem_cons_of_mem _ member)

/-- Filling the holes of a layout adds an exit to it. -/
theorem fill
    (laid : LaidOut states tree fragment exits owned)
    (noDuplicates : owned.Nodup)
    (target : Nat) :
    LaidOut (Assembly.fill states fragment.holes target) tree fragment
      (exits ++ [target]) owned :=
  laid.extend noDuplicates fun _ _ =>
    Assembly.getElem?_fill (laid.holes_nodup noDuplicates)

/-- Filling holes that it does not own leaves a layout alone. -/
theorem fill_other
    (laid : LaidOut states tree fragment exits owned)
    {holes : List Nat}
    (noDuplicates : holes.Nodup)
    (apart : ∀ state ∈ owned, state ∉ holes)
    (target : Nat) :
    LaidOut (Assembly.fill states holes target) tree fragment exits owned := by
  refine laid.congr fun state member => ?_
  rw [Assembly.getElem?_fill noDuplicates, if_neg (apart state member)]

/-- Clearing a state that it does not own leaves a layout alone. -/
theorem clear_other
    (laid : LaidOut states tree fragment exits owned)
    {cleared : Nat}
    (notOwned : cleared ∉ owned) :
    LaidOut (Assembly.clear states cleared) tree fragment exits owned := by
  refine laid.congr fun state member => ?_
  rw [Assembly.getElem?_clear, if_neg (ne_of_mem_of_not_mem member notOwned).symm]

/-- Pushing a state leaves a layout alone. -/
theorem push
    (laid : LaidOut states tree fragment exits owned)
    (state : State) :
    LaidOut (states.push state) tree fragment exits owned := by
  refine laid.congr fun number member => ?_
  rw [Array.getElem?_push, if_neg (Nat.ne_of_lt (laid.lt_size member))]

/-- A fragment whose only hole is not its entry is no single test. -/
theorem singleTest?_eq_none
    {assembly : Assembly}
    (holesDiffer : fragment.holes ≠ [fragment.entry]) :
    assembly.singleTest? fragment = none := by
  unfold Assembly.singleTest?
  cases assembly.states[fragment.entry]? <;> simp [holesDiffer]

/--
The single test of an open layout is the predicate of its tree: whether there
is one can be read off the entry.
-/
theorem singleTest?_eq
    {assembly : Assembly}
    (laid : LaidOut assembly.states tree fragment [] owned)
    (noDuplicates : owned.Nodup) :
    assembly.singleTest? fragment = tree.predicate? := by
  cases laid with
  | atom found =>
      simp [Assembly.singleTest?, found, PatternTree.predicate?]
  | concat firstLaid secondLaid =>
      have apart := (List.nodup_append.1 noDuplicates).2.2
      refine singleTest?_eq_none fun sameHole => ?_
      have entryOwned := secondLaid.holes_subset (sameHole ▸ List.mem_cons_self)
      exact apart _ firstLaid.entry_mem _ entryOwned rfl
  | or found =>
      simp [Assembly.singleTest?, found, State.branching,
        PatternTree.predicate?, PatternTree.tests?]
  | and single found =>
      simp [Assembly.singleTest?, found, PatternTree.predicate?, single]
  | maybe found =>
      simp [Assembly.singleTest?, found, State.branching,
        PatternTree.predicate?, PatternTree.tests?]
  | star found =>
      simp [Assembly.singleTest?, found, State.branching,
        PatternTree.predicate?, PatternTree.tests?]
  | plus found bodyLaid =>
      have notOwned := (List.nodup_cons.1 noDuplicates).1
      refine singleTest?_eq_none fun sameHole => ?_
      have branchIsEntry := List.head_eq_of_cons_eq sameHole
      exact notOwned (branchIsEntry ▸ bodyLaid.entry_mem)

end LaidOut

end TokenPattern
