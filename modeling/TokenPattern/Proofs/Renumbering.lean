import TokenPattern.Automaton.Build
import TokenPattern.Proofs.Numbering
import TokenPattern.Proofs.Pieces

namespace TokenPattern

/-!
# The automaton of a program

Renumbering carries a layout over to the new numbers.  So the automaton of a
program is a layout of the program's tree from state zero to the accepting
state, and it has no other states.
-/

/-- The state with the numbers of its successors replaced. -/
def State.mapSuccessors (state : State) (place : Nat → Nat) : State :=
  { state with successors := state.successors.map place }

/-- A layout can be carried over to other numbers. -/
theorem LaidOut.map
    {states changed : Array State}
    {tree : PatternTree}
    {fragment : Fragment}
    {exits owned : List Nat}
    (laid : LaidOut states tree fragment exits owned)
    (place : Nat → Nat)
    (carried :
      ∀ state ∈ owned,
        changed[place state]? = states[state]?.map (·.mapSuccessors place)) :
    LaidOut changed tree ⟨place fragment.entry, fragment.holes.map place⟩
      (exits.map place) (owned.map place) := by
  induction laid with
  | atom found =>
      refine .atom ?_
      rw [carried _ (by simp), found]
      rfl
  | concat firstLaid secondLaid firstHypothesis secondHypothesis =>
      rw [List.map_append]
      exact .concat
        (firstHypothesis fun state member =>
          carried state (List.mem_append_left _ member))
        (secondHypothesis fun state member =>
          carried state (List.mem_append_right _ member))
  | or found leftLaid rightLaid leftHypothesis rightHypothesis =>
      simp only [List.map_cons, List.map_append]
      refine .or ?_ (leftHypothesis fun state member => carried state ?_)
        (rightHypothesis fun state member => carried state ?_)
      · rw [carried _ (by simp), found]
        rfl
      · simp [member]
      · simp [member]
  | and single found =>
      refine .and single ?_
      rw [carried _ (by simp), found]
      rfl
  | maybe found bodyLaid bodyHypothesis =>
      simp only [List.map_append, List.map_cons, List.map_nil]
      refine .maybe ?_ (bodyHypothesis fun state member =>
        carried state (List.mem_cons_of_mem _ member))
      rw [carried _ (by simp), found]
      rfl
  | star found bodyLaid bodyHypothesis =>
      refine .star ?_ (bodyHypothesis fun state member =>
        carried state (List.mem_cons_of_mem _ member))
      rw [carried _ (by simp), found]
      rfl
  | plus found bodyLaid bodyHypothesis =>
      refine .plus ?_ (bodyHypothesis fun state member =>
        carried state (List.mem_cons_of_mem _ member))
      rw [carried _ (by simp), found]
      rfl

namespace Numbering

/-- The place of a state that was met. -/
def placeOf (numbering : Numbering) (state : Nat) : Nat :=
  numbering.places[state]?.getD 0

variable {numbering : Numbering}

/-- The place of a state leads back to it. -/
theorem Consistent.order_placeOf
    (consistent : numbering.Consistent)
    {state : Nat}
    (met : state ∈ numbering.order) :
    numbering.order[numbering.placeOf state]? = some state := by
  obtain ⟨place, found⟩ := Array.mem_iff_getElem?.1 met
  rw [placeOf, (consistent state place).2 found, Option.getD_some, found]

/-- A state all of whose successors were met keeps them all. -/
theorem relabel_eq
    (consistent : numbering.Consistent)
    {state : State}
    (met : ∀ target ∈ state.successors, target ∈ numbering.order) :
    numbering.relabel state = state.mapSuccessors numbering.placeOf := by
  have same :
      state.successors.filterMap (numbering.places[·]?) =
        state.successors.map numbering.placeOf := by
    rw [List.filterMap_eq_map_iff_forall_eq_some]
    intro target member
    obtain ⟨place, found⟩ := Array.mem_iff_getElem?.1 (met target member)
    simp [placeOf, (consistent target place).2 found]
  simp [relabel, State.mapSuccessors, same]

/-- If all states met are there, none is lost by renumbering. -/
theorem renumbered_eq_map
    {states : Array State}
    (inRange : ∀ state ∈ numbering.order, state < states.size) :
    (numbering.renumbered states).toList =
      numbering.order.toList.map fun state =>
        numbering.relabel (states.getD state .final) := by
  rw [renumbered, Array.toList_filterMap,
    List.filterMap_eq_map_iff_forall_eq_some]
  intro state member
  have there := inRange state (Array.mem_toList_iff.1 member)
  simp [there]

/-- The state at a place is the relabelled state that was met there. -/
theorem getElem?_renumbered
    {states : Array State}
    (inRange : ∀ state ∈ numbering.order, state < states.size)
    {place state : Nat}
    (found : numbering.order[place]? = some state) :
    (numbering.renumbered states)[place]? =
      states[state]?.map numbering.relabel := by
  have there := inRange state (Array.mem_of_getElem? found)
  rw [← Array.getElem?_toList, renumbered_eq_map inRange, List.getElem?_map,
    Array.getElem?_toList, found]
  simp [there]

/-- Renumbering makes one state of each that was met. -/
theorem size_renumbered
    {states : Array State}
    (inRange : ∀ state ∈ numbering.order, state < states.size) :
    (numbering.renumbered states).size = numbering.order.size := by
  rw [← Array.length_toList, renumbered_eq_map inRange]
  simp

/-- In the order of the states met, each state's place is its own. -/
theorem Consistent.map_placeOf_order (consistent : numbering.Consistent) :
    numbering.order.toList.map numbering.placeOf =
      List.range numbering.order.size := by
  refine List.ext_getElem? fun place => ?_
  rw [List.getElem?_map, Array.getElem?_toList]
  cases found : numbering.order[place]? with
  | none =>
      have outside := Array.getElem?_eq_none_iff.1 found
      simp [outside]
  | some state =>
      have inside := (Array.getElem?_eq_some_iff.1 found).1
      simp [placeOf, (consistent state place).2 found, inside]

/-- The entry has the first place. -/
theorem Complete.placeOf_entry
    {states : Array State}
    {entry : Nat}
    (complete : Complete states entry numbering) :
    numbering.placeOf entry = 0 := by
  simp [placeOf, (complete.consistent entry 0).2 complete.entryFirst]

/-- A state that the entry reaches has its successors renumbered with it. -/
theorem Complete.getElem?_placeOf
    {states : Array State}
    {entry : Nat}
    (complete : Complete states entry numbering)
    (inRange : ∀ state, Reaches states entry state → state < states.size)
    {number : Nat}
    (reaches : Reaches states entry number) :
    (numbering.renumbered states)[numbering.placeOf number]? =
      states[number]?.map (·.mapSuccessors numbering.placeOf) := by
  have met := (complete.mem_order_iff number).2 reaches
  have metInRange : ∀ state ∈ numbering.order, state < states.size :=
    fun state member => inRange state ((complete.mem_order_iff state).1 member)
  rw [getElem?_renumbered metInRange (complete.consistent.order_placeOf met)]
  cases there : states[number]? with
  | none =>
      rfl
  | some state =>
      apply congrArg some
      apply relabel_eq complete.consistent
      intro target isSuccessor
      apply (complete.mem_order_iff target).2
      exact reaches.tail ((leads_iff_of_getElem? there).2 isSuccessor)

end Numbering

end TokenPattern
