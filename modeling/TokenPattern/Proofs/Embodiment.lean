import TokenPattern.Proofs.Renumbering

namespace TokenPattern

/-!
# Automata that embody trees

The automaton of a program is a layout of the program's tree that leads from
state zero to the accepting state, and it has no other states.  What an
automaton does and how it is formed follows from this.
-/

/-- An automaton is a layout of a tree between its start and its final state. -/
structure Automaton.Embodies
    (automaton : Automaton)
    (tree : PatternTree)
    (holes owned : List Nat) : Prop where
  start_eq : automaton.start = 0
  final : automaton.states[automaton.accept]? = some .final
  laidOut :
    LaidOut automaton.states tree ⟨automaton.start, holes⟩
      [automaton.accept] owned
  /-- Each state is the final state or owned, and no state is both. -/
  all_states :
    (automaton.accept :: owned).Perm (List.range automaton.size)

/-- Renumbered from its entry, a layout that leads to the final state is an automaton. -/
theorem LaidOut.embodies
    {states : Array State}
    {tree : PatternTree}
    {entry final : Nat}
    {holes owned : List Nat}
    (laid : LaidOut states tree ⟨entry, holes⟩ [final] owned)
    (found : states[final]? = some .final)
    (noDuplicates : (final :: owned).Nodup)
    (defaultAttribute : String) :
    let numbering := Numbering.ofEntry states entry
    Automaton.Embodies
      ⟨numbering.renumbered states, 0, numbering.placeOf final, defaultAttribute⟩
      tree (holes.map numbering.placeOf) (owned.map numbering.placeOf) := by
  intro numbering
  have reachesInRange : ∀ state, Reaches states entry state → state < states.size :=
    fun _ => laid.lt_size_of_reaches found
  have complete : Numbering.Complete states entry numbering :=
    Numbering.ofEntry_complete reachesInRange
  have met_iff :
      ∀ state, state ∈ numbering.order ↔ state ∈ final :: owned :=
    fun state =>
      (complete.mem_order_iff state).trans (laid.reaches_iff found state)
  have inRange : ∀ state ∈ numbering.order, state < states.size :=
    fun state met => laid.lt_size_of_mem found ((met_iff state).1 met)
  have carried :
      ∀ state ∈ final :: owned,
        (numbering.renumbered states)[numbering.placeOf state]? =
          states[state]?.map (·.mapSuccessors numbering.placeOf) := by
    intro state member
    apply complete.getElem?_placeOf reachesInRange
    exact (laid.reaches_iff found state).2 member
  refine ⟨rfl, ?_, ?_, ?_⟩
  · rw [carried final List.mem_cons_self, found]
    rfl
  · have mapped := laid.map numbering.placeOf fun state member =>
      carried state (List.mem_cons_of_mem _ member)
    rwa [complete.placeOf_entry] at mapped
  · have sameStates : (final :: owned).Perm numbering.order.toList := by
      rw [List.perm_ext_iff_of_nodup noDuplicates
        complete.consistent.order_nodup]
      exact fun state =>
        (met_iff state).symm.trans Array.mem_toList_iff.symm
    have places := sameStates.map numbering.placeOf
    rw [complete.consistent.map_placeOf_order, List.map_cons] at places
    rwa [Automaton.size, numbering.size_renumbered inRange]

namespace Automaton.Embodies

variable {automaton : Automaton}
variable {tree : PatternTree}
variable {holes owned : List Nat}

/-- Each state is the final state or owned. -/
theorem mem_iff
    (embodies : automaton.Embodies tree holes owned)
    (state : Nat) :
    state < automaton.size ↔ state = automaton.accept ∨ state ∈ owned := by
  rw [← List.mem_range, ← embodies.all_states.mem_iff, List.mem_cons]

/-- The final state is not owned, and no state is owned twice. -/
theorem nodup (embodies : automaton.Embodies tree holes owned) :
    (automaton.accept :: owned).Nodup :=
  embodies.all_states.nodup_iff.2 List.nodup_range

/-- A state that is there is the final state or owned. -/
theorem final_or_owned
    (embodies : automaton.Embodies tree holes owned)
    {number : Nat}
    {state : State}
    (found : automaton.states[number]? = some state) :
    (number = automaton.accept ∧ state = .final) ∨
      (number ≠ automaton.accept ∧ number ∈ owned) := by
  have inRange : number < automaton.size :=
    (Array.getElem?_eq_some_iff.1 found).1
  rcases (embodies.mem_iff number).1 inRange with rfl | isOwned
  · have isFinal := embodies.final
    rw [found] at isFinal
    exact .inl ⟨rfl, Option.some.inj isFinal⟩
  · exact .inr ⟨ne_of_mem_of_not_mem isOwned
      (List.nodup_cons.1 embodies.nodup).1, isOwned⟩

/-- The accepting states are the final one. -/
theorem accepting_iff
    (embodies : automaton.Embodies tree holes owned)
    {number : Nat}
    {state : State}
    (found : automaton.states[number]? = some state) :
    state.accepting = true ↔ number = automaton.accept := by
  rcases embodies.final_or_owned found with
    ⟨isFinal, rfl⟩ | ⟨notFinal, isOwned⟩
  · simp [isFinal, State.final]
  · obtain ⟨same, sameFound, notAccepting⟩ :=
      embodies.laidOut.not_accepting isOwned
    rw [found] at sameFound
    cases sameFound
    simp [notAccepting, notFinal]

end Automaton.Embodies

/-- The automaton of a program is the renumbered draft with its first accepting state. -/
theorem Automaton.ofProgram_eq_ok_iff
    {defaultAttribute : String}
    {program : List Instruction}
    {automaton : Automaton} :
    Automaton.ofProgram defaultAttribute program = .ok automaton ↔
      ∃ draft accept,
        Assembly.ofProgram program = .ok draft ∧
          let states := (Numbering.ofEntry draft.states draft.entry).renumbered draft.states
          states.findIdx? (·.accepting) = some accept ∧
            automaton = ⟨states, 0, accept, defaultAttribute⟩ := by
  unfold Automaton.ofProgram
  constructor
  · intro built
    split at built
    · cases built
    · rename_i draft assembles
      dsimp only at built
      split at built
      · rename_i accept firstAccepting
        cases built
        exact ⟨draft, accept, assembles, firstAccepting, rfl⟩
      · cases built
  · intro drafted
    obtain ⟨draft, accept, assembles, firstAccepting, rfl⟩ := drafted
    rw [assembles]
    dsimp only
    rw [firstAccepting]

/-- A program whose draft is assembled has an automaton, which embodies its tree. -/
theorem Automaton.ofProgram_embodies
    {defaultAttribute : String}
    {program : List Instruction}
    {automaton : Automaton}
    (built : Automaton.ofProgram defaultAttribute program = .ok automaton) :
    ∃ tree holes owned,
      PatternTree.ofProgram? program = some tree ∧
        automaton.Embodies tree holes owned ∧
        automaton.defaultAttribute = defaultAttribute := by
  obtain ⟨draft, accept, assembles, firstAccepting, rfl⟩ :=
    Automaton.ofProgram_eq_ok_iff.1 built
  obtain ⟨tree, holes, owned, final, reads, laid, noDuplicates, found⟩ :=
    Assembly.ofProgram_laidOut assembles
  have embodies := laid.embodies found noDuplicates defaultAttribute
  obtain ⟨inRange, accepting, _⟩ :=
    Array.findIdx?_eq_some_iff_getElem.1 firstAccepting
  have isFinal :=
    (embodies.accepting_iff (Array.getElem?_eq_getElem inRange)).1 accepting
  rw [isFinal]
  exact ⟨tree, _, _, reads, embodies, rfl⟩

/-- Any number of tokens that each pass two tests. -/
def Automaton.repeatedTests : List Instruction :=
  [.atom (.word "a"), .atom (.attributeIs "tag" (.literal "x")),
    .connect .and, .quantify .star]

/-- The states of the operands of a conjunction are not in its automaton. -/
theorem Automaton.ofProgram_repeatedTests :
    Automaton.ofProgram "word" repeatedTests =
      .ok
        ⟨#[.branching "*" [1, 2],
            ⟨.conjunction
                [.atom (.word "a"), .atom (.attributeIs "tag" (.literal "x"))],
              [0], false, "&"⟩,
            .final],
          0, 2, "word"⟩ := by
  cbv

end TokenPattern
