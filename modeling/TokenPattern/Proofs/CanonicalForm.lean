import Mathlib.Data.List.Infix
import Mathlib.Data.Set.Card
import TokenPattern.Proofs.Embodiment
import TokenPattern.Proofs.FirstOccurrences

namespace TokenPattern

/-!
# The canonical form of an automaton

Renumbering keeps the part of the assembled states that the entry reaches, and
gives it the numbers in which a breadth-first walk meets it.  So the numbers
depend on the graph alone: automata of which one can be carried over to the
other by a renaming of states are equal.
-/

/--
A part of some states is carried over to states of others: all that a state has
is kept, with its successors in their order, but for the numbers.
-/
structure CarriedOver
    (states : Array State)
    (part : Set Nat)
    (others : Array State)
    (image : Set Nat)
    (place : Nat → Nat) : Prop where
  bijOn : Set.BijOn place part image
  getElem?_place :
    ∀ number ∈ part,
      others[place number]? = states[number]?.map (·.mapSuccessors place)

namespace Numbering

variable {states : Array State}
variable {entry : Nat}
variable {numbering : Numbering}

/-- What the entry reaches is carried over to its numbers. -/
theorem Complete.carriedOver
    (complete : Complete states entry numbering)
    (inRange : ∀ state, Reaches states entry state → state < states.size) :
    CarriedOver states {state | Reaches states entry state}
      (numbering.renumbered states) {state | state < (numbering.renumbered states).size}
      numbering.placeOf where
  bijOn := by
    have metInRange : ∀ state ∈ numbering.order, state < states.size :=
      fun state member => inRange state ((complete.mem_order_iff state).1 member)
    rw [size_renumbered metInRange]
    refine ⟨?_, ?_, ?_⟩
    · intro state reaches
      have met := (complete.mem_order_iff state).2 reaches
      exact (Array.getElem?_eq_some_iff.1 (complete.consistent.order_placeOf met)).1
    · intro first firstReaches second secondReaches same
      have firstMet := (complete.mem_order_iff first).2 firstReaches
      have secondMet := (complete.mem_order_iff second).2 secondReaches
      have firstPlace := complete.consistent.order_placeOf firstMet
      rw [same, complete.consistent.order_placeOf secondMet] at firstPlace
      exact (Option.some.inj firstPlace).symm
    · intro place isPlace
      have found := Array.getElem?_eq_getElem isPlace
      have met := Array.mem_of_getElem? found
      refine ⟨numbering.order[place], (complete.mem_order_iff _).1 met, ?_⟩
      rw [placeOf, (complete.consistent _ _).2 found, Option.getD_some]
  getElem?_place number reaches := complete.getElem?_placeOf inRange reaches

end Numbering

namespace CarriedOver

variable {states others : Array State}
variable {part image : Set Nat}
variable {place : Nat → Nat}

/-- Successors are carried over with their order. -/
theorem successorsOf
    (carried : CarriedOver states part others image place)
    {number : Nat}
    (inPart : number ∈ part) :
    Numbering.successorsOf others (place number) =
      (Numbering.successorsOf states number).map place := by
  unfold Numbering.successorsOf
  rw [carried.getElem?_place number inPart]
  cases states[number]? <;> simp [State.mapSuccessors]

end CarriedOver

/-- The numbers in the successor lists of the states before a number. -/
def successorsBefore (states : Array State) (number : Nat) : List Nat :=
  (List.range number).flatMap (Numbering.successorsOf states)

theorem successorsBefore_succ (states : Array State) (number : Nat) :
    successorsBefore states (number + 1) =
      successorsBefore states number ++ Numbering.successorsOf states number := by
  simp [successorsBefore, List.range_succ]

/-- The successor lists of all states are those before their number. -/
theorem flatMap_successors (states : Array State) :
    states.toList.flatMap (·.successors) = successorsBefore states states.size := by
  have lists :
      states.toList.map (·.successors) =
        (List.range states.size).map (Numbering.successorsOf states) := by
    apply List.ext_getElem?
    intro number
    by_cases inRange : number < states.size
    · simp [inRange, Numbering.successorsOf]
    · simp [inRange]
  rw [successorsBefore, List.flatMap_def, List.flatMap_def, lists]

/-- The states renumbered are read in the order of their numbers. -/
theorem Numbering.firstOccurrences_renumbered
    {states : Array State}
    {entry : Nat}
    (inRange : ∀ state, Reaches states entry state → state < states.size) :
    let renumbered := (ofEntry states entry).renumbered states
    (0 :: successorsBefore renumbered renumbered.size).eraseDups =
      List.range renumbered.size := by
  intro renumbered
  have complete := ofEntry_complete inRange
  have carried := complete.carriedOver inRange
  have reaches (state : Nat) (met : state ∈ (ofEntry states entry).order.toList) :
      Reaches states entry state :=
    (complete.mem_order_iff state).1 (Array.mem_toList_iff.1 met)
  have places :
      (ofEntry states entry).order.toList.map (ofEntry states entry).placeOf =
        List.range renumbered.size := by
    rw [complete.consistent.map_placeOf_order, size_renumbered]
    intro state met
    exact inRange state ((complete.mem_order_iff state).1 met)
  have lists :
      ((ofEntry states entry).order.toList.flatMap (successorsOf states)).map
          (ofEntry states entry).placeOf =
        successorsBefore renumbered renumbered.size := by
    rw [successorsBefore, ← places, List.map_flatMap, List.flatMap_map]
    apply List.flatMap_congr
    intro state met
    exact (carried.successorsOf (reaches state met)).symm
  have order := congrArg (List.map (ofEntry states entry).placeOf) (order_ofEntry inRange)
  rw [places, ← eraseDups_map, List.map_cons, complete.placeOf_entry, lists] at order
  · exact order.symm
  · intro first isFirst second isSecond same
    have met (state : Nat)
        (isRead :
          state ∈ entry :: (ofEntry states entry).order.toList.flatMap (successorsOf states)) :
        Reaches states entry state := by
      rw [← List.mem_eraseDups, ← order_ofEntry inRange] at isRead
      exact reaches state isRead
    exact carried.bijOn.injOn (met first isFirst) (met second isSecond) same

namespace Automaton

/-- An automaton whose states a breadth-first walk meets in the order of their numbers. -/
structure InWalkOrder (automaton : Automaton) : Prop where
  start_eq : automaton.start = 0
  firstOccurrences :
    (0 :: successorsBefore automaton.states automaton.size).eraseDups =
      List.range automaton.size
  reaches : ∀ state < automaton.size, Reaches automaton.states 0 state
  accept_eq : automaton.states.findIdx? (·.accepting) = some automaton.accept

namespace InWalkOrder

variable {automaton other : Automaton}

/-- The numbers behind that of the start first occur in their order. -/
theorem firstOccurrences_ne_zero (inOrder : automaton.InWalkOrder) :
    ((automaton.states.toList.flatMap (·.successors)).filter (· ≠ 0)).eraseDups =
      List.range' 1 (automaton.size - 1) := by
  have firsts := inOrder.firstOccurrences
  rw [List.eraseDups_cons, List.range_eq_range'] at firsts
  obtain ⟨_, _, behindStart⟩ := List.range'_eq_cons_iff.1 firsts.symm
  have lists :
      automaton.states.toList.flatMap (·.successors) =
        successorsBefore automaton.states automaton.size :=
    flatMap_successors automaton.states
  rw [lists, ← behindStart]
  apply congrArg List.eraseDups
  apply List.filter_congr
  intro number _
  by_cases isStart : number = 0 <;> simp [isStart]

/-- What was read before some number are the numbers before another one. -/
theorem exists_read
    (inOrder : automaton.InWalkOrder)
    {number : Nat}
    (inRange : number ≤ automaton.size) :
    ∃ met ≤ automaton.size,
      (0 :: successorsBefore automaton.states number).eraseDups = List.range met := by
  have numbers : List.range number <+: List.range automaton.size := by
    rw [← Nat.min_eq_left inRange, ← List.take_range]
    exact List.take_prefix _ _
  have lists := numbers.flatMap (Numbering.successorsOf automaton.states)
  have firsts := eraseDups_prefix ((List.prefix_cons_inj 0).2 lists)
  change _ <+: (0 :: successorsBefore automaton.states automaton.size).eraseDups at firsts
  rw [inOrder.firstOccurrences, List.prefix_iff_eq_take, List.take_range] at firsts
  exact ⟨_, Nat.min_le_right _ _, firsts⟩

/-- A state's number was read before the state's own successors are. -/
theorem mem_successorsBefore
    (inOrder : automaton.InWalkOrder)
    {number : Nat}
    (inRange : number < automaton.size) :
    number ∈ 0 :: successorsBefore automaton.states number := by
  obtain ⟨met, _, isMet⟩ := inOrder.exists_read (Nat.le_of_lt inRange)
  have mem_iff (other : Nat) :
      other ∈ 0 :: successorsBefore automaton.states number ↔ other < met := by
    rw [← List.mem_eraseDups, isMet, List.mem_range]
  by_contra notRead
  have early : met ≤ number := Nat.le_of_not_lt (mt (mem_iff number).2 notRead)
  -- The numbers that were read are closed under successors, so no walk leaves them.
  have stays (other : Nat) (reaches : Reaches automaton.states 0 other) : other < met := by
    induction reaches with
    | refl =>
        exact (mem_iff 0).1 List.mem_cons_self
    | @tail source target _ leads sourceMet =>
        apply (mem_iff target).1
        apply List.mem_cons_of_mem
        apply List.mem_flatMap.2
        exact ⟨source, List.mem_range.2 (Nat.lt_of_lt_of_le sourceMet early), leads⟩
  exact Nat.lt_irrefl _ (Nat.lt_of_lt_of_le (stays number (inOrder.reaches number inRange)) early)

variable {place : Nat → Nat}

/-- A renaming of one automaton to another one changes no number that is read. -/
theorem place_eq_of_read
    (inOrder : automaton.InWalkOrder)
    (otherInOrder : other.InWalkOrder)
    (carried :
      CarriedOver automaton.states {state | state < automaton.size}
        other.states {state | state < other.size} place)
    (start : place automaton.start = other.start)
    (sameSize : automaton.size = other.size)
    {number : Nat}
    (inRange : number ≤ automaton.size) :
    successorsBefore other.states number = successorsBefore automaton.states number ∧
      ∀ read ∈ 0 :: successorsBefore automaton.states number, place read = read := by
  induction number with
  | zero =>
      refine ⟨rfl, ?_⟩
      intro read isRead
      rw [inOrder.start_eq, otherInOrder.start_eq] at start
      cases List.mem_singleton.1 isRead
      exact start
  | succ number inductionHypothesis =>
      obtain ⟨sameBefore, fixed⟩ := inductionHypothesis (Nat.le_of_succ_le inRange)
      have fixedHere := fixed number (inOrder.mem_successorsBefore inRange)
      have renamed :
          0 :: successorsBefore other.states (number + 1) =
            (0 :: successorsBefore automaton.states (number + 1)).map place := by
        have sameFront :
            (successorsBefore automaton.states number).map place =
              successorsBefore automaton.states number := by
          refine Eq.trans (List.map_congr_left fun read isRead => ?_) (List.map_id _)
          exact fixed read (List.mem_cons_of_mem _ isRead)
        have successors := carried.successorsOf inRange
        rw [fixedHere] at successors
        rw [List.map_cons, fixed 0 List.mem_cons_self, successorsBefore_succ,
          successorsBefore_succ, List.map_append, sameBefore, sameFront, successors]
      obtain ⟨met, metInRange, isMet⟩ := inOrder.exists_read inRange
      obtain ⟨otherMet, _, otherIsMet⟩ := otherInOrder.exists_read (sameSize ▸ inRange)
      have read_lt
          (read : Nat)
          (isRead : read ∈ 0 :: successorsBefore automaton.states (number + 1)) :
          read < met := by
        rw [← List.mem_eraseDups, isMet] at isRead
        exact List.mem_range.1 isRead
      have firsts : List.range otherMet = (List.range met).map place := by
        rw [← otherIsMet, ← isMet, renamed]
        apply eraseDups_map
        intro first isFirst second isSecond same
        apply carried.bijOn.injOn _ _ same
        · exact Nat.lt_of_lt_of_le (read_lt first isFirst) metInRange
        · exact Nat.lt_of_lt_of_le (read_lt second isSecond) metInRange
      have sameMet : otherMet = met := by
        simpa using congrArg List.length firsts
      rw [sameMet] at firsts
      have fixedAll :
          ∀ read ∈ 0 :: successorsBefore automaton.states (number + 1), place read = read := by
        intro read isRead
        have both := congrArg (·[read]?) firsts
        simpa [read_lt read isRead] using both.symm
      refine ⟨?_, fixedAll⟩
      have sameLists : 0 :: successorsBefore other.states (number + 1) =
          0 :: successorsBefore automaton.states (number + 1) := by
        rw [renamed]
        exact (List.map_congr_left fixedAll).trans (List.map_id _)
      exact (List.cons.inj sameLists).2

/-- Automata in walk order are equal if one can be carried over to the other. -/
theorem eq_of_carriedOver
    (inOrder : automaton.InWalkOrder)
    (otherInOrder : other.InWalkOrder)
    (sameAttribute : other.defaultAttribute = automaton.defaultAttribute)
    (start : place automaton.start = other.start)
    (carried :
      CarriedOver automaton.states {state | state < automaton.size}
        other.states {state | state < other.size} place) :
    automaton = other := by
  have sameSize : automaton.size = other.size := by
    have sameCard : (Set.Iio automaton.size).ncard = (Set.Iio other.size).ncard :=
      Set.BijOn.ncard_eq carried.bijOn
    simpa [← Finset.coe_range, Set.ncard_coe_finset] using sameCard
  have fixed :
      ∀ read ∈ 0 :: successorsBefore automaton.states automaton.size, place read = read :=
    (inOrder.place_eq_of_read otherInOrder carried start sameSize (Nat.le_refl _)).2
  have sameState (number : Nat) (inRange : number < automaton.size) :
      other.states[number]? = automaton.states[number]? := by
    have found := Array.getElem?_eq_getElem inRange
    have kept := carried.getElem?_place number inRange
    have numberFixed : place number = number :=
      (inOrder.place_eq_of_read otherInOrder carried start sameSize
        (Nat.le_of_lt inRange)).2 number (inOrder.mem_successorsBefore inRange)
    have successorsFixed :
        automaton.states[number].successors.map place =
          automaton.states[number].successors := by
      refine Eq.trans (List.map_congr_left fun target isSuccessor => ?_) (List.map_id _)
      apply fixed
      apply List.mem_cons_of_mem
      apply List.mem_flatMap.2
      exact ⟨number, List.mem_range.2 inRange, (leads_iff_of_getElem? found).2 isSuccessor⟩
    rw [numberFixed, found, Option.map_some, State.mapSuccessors, successorsFixed] at kept
    rw [kept, found]
  have sameStates : automaton.states = other.states := by
    apply Array.ext sameSize
    intro number inRange otherInRange
    have same := sameState number inRange
    rw [Array.getElem?_eq_getElem inRange, Array.getElem?_eq_getElem otherInRange] at same
    exact (Option.some.inj same).symm
  have sameAccept : automaton.accept = other.accept := by
    have accepts := inOrder.accept_eq
    rw [sameStates, otherInOrder.accept_eq] at accepts
    exact (Option.some.inj accepts).symm
  have sameStart : automaton.start = other.start :=
    inOrder.start_eq.trans otherInOrder.start_eq.symm
  cases automaton
  cases other
  simp_all

end InWalkOrder

variable {defaultAttribute : String}
variable {program : List Instruction}
variable {automaton : Automaton}

/-- No walk from the entry of a draft leaves its states. -/
theorem lt_size_of_draft_reaches
    {draft : Assembly.Draft}
    (assembles : Assembly.ofProgram program = .ok draft) :
    ∀ state, Reaches draft.states draft.entry state → state < draft.states.size := by
  obtain ⟨tree, holes, owned, final, _, laid, _, found⟩ :=
    Assembly.ofProgram_laidOut assembles
  exact fun _ => laid.lt_size_of_reaches found

/-- The automaton of a program is numbered in the order of a breadth-first walk. -/
theorem ofProgram_inWalkOrder
    (built : Automaton.ofProgram defaultAttribute program = .ok automaton) :
    automaton.InWalkOrder := by
  obtain ⟨_, holes, owned, _, embodies, _⟩ := ofProgram_embodies built
  obtain ⟨draft, accept, assembles, firstAccepting, rfl⟩ := ofProgram_eq_ok_iff.1 built
  have inRange := lt_size_of_draft_reaches assembles
  refine ⟨rfl, Numbering.firstOccurrences_renumbered inRange, ?_, firstAccepting⟩
  · intro state inRange
    apply (embodies.laidOut.reaches_iff embodies.final state).2
    exact List.mem_cons.2 ((embodies.mem_iff state).1 inRange)

/-- What it means that an automaton is the canonical form of a program's draft. -/
structure Canonical (program : List Instruction) (automaton : Automaton) : Prop where
  /-- Read in the order of the states, the numbers behind zero first occur in their order. -/
  firstOccurrences :
    ((automaton.states.toList.flatMap (·.successors)).filter (· ≠ 0)).eraseDups =
      List.range' 1 (automaton.size - 1)
  /-- The automaton is what the entry of the program's draft reaches, renumbered. -/
  carriedOver :
    ∃ draft place,
      Assembly.ofProgram program = .ok draft ∧
        place draft.entry = automaton.start ∧
        CarriedOver draft.states {state | Reaches draft.states draft.entry state}
          automaton.states {state | state < automaton.size} place
  /-- An automaton of a program that is the same but for its numbers is the same. -/
  unique :
    ∀ otherAttribute otherProgram other,
      Automaton.ofProgram otherAttribute otherProgram = .ok other →
        other.defaultAttribute = automaton.defaultAttribute →
        (∃ place,
          place automaton.start = other.start ∧
            CarriedOver automaton.states {state | state < automaton.size}
              other.states {state | state < other.size} place) →
        automaton = other

/-- The automaton of a program is the canonical form of the program's draft. -/
theorem ofProgram_canonical
    (built : Automaton.ofProgram defaultAttribute program = .ok automaton) :
    automaton.Canonical program := by
  have inOrder := ofProgram_inWalkOrder built
  obtain ⟨draft, _, assembles, _, isRenumbered⟩ := ofProgram_eq_ok_iff.1 built
  have inRange := lt_size_of_draft_reaches assembles
  have complete := Numbering.ofEntry_complete inRange
  refine ⟨inOrder.firstOccurrences_ne_zero, ?_, ?_⟩
  · subst isRenumbered
    exact ⟨draft, _, assembles, complete.placeOf_entry, complete.carriedOver inRange⟩
  · intro otherAttribute otherProgram other otherBuilt sameAttribute isomorphic
    obtain ⟨place, sameStart, carried⟩ := isomorphic
    exact inOrder.eq_of_carriedOver (ofProgram_inWalkOrder otherBuilt) sameAttribute
      sameStart carried

/-- Any number of tokens that pass both tests have a canonical form. -/
theorem canonical_repeatedTests :
    ∃ automaton,
      Automaton.ofProgram "word" repeatedTests = .ok automaton ∧
        automaton.Canonical repeatedTests :=
  ⟨_, ofProgram_repeatedTests, ofProgram_canonical ofProgram_repeatedTests⟩

end Automaton

end TokenPattern
