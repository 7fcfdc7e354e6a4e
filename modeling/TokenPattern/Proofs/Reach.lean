import Mathlib.Logic.Relation
import TokenPattern.Automaton.Numbering
import TokenPattern.Proofs.Layout

namespace TokenPattern

/-!
# Reachability in layouts

The states of a layout hang together: its entry reaches all of them, each of
them reaches the exits, and no edge leads anywhere else.
-/

/-- A state has another one among its successors. -/
def Leads (states : Array State) (source target : Nat) : Prop :=
  target ∈ Numbering.successorsOf states source

/-- Some number of edges lead from a state to another one. -/
abbrev Reaches (states : Array State) : Nat → Nat → Prop :=
  Relation.ReflTransGen (Leads states)

/-- The successors of a state that is there. -/
theorem leads_iff_of_getElem?
    {states : Array State}
    {source target : Nat}
    {state : State}
    (found : states[source]? = some state) :
    Leads states source target ↔ target ∈ state.successors := by
  simp [Leads, Numbering.successorsOf, found]

namespace LaidOut

variable {states : Array State}
variable {tree : PatternTree}
variable {fragment : Fragment}
variable {exits owned : List Nat}

/-- Each owned state reaches each exit. -/
theorem reaches_exit
    (laid : LaidOut states tree fragment exits owned)
    {state exit : Nat}
    (member : state ∈ owned)
    (isExit : exit ∈ exits) :
    Reaches states state exit := by
  induction laid generalizing state exit with
  | atom found | and _ found =>
      rw [List.mem_singleton.1 member]
      exact .single ((leads_iff_of_getElem? found).2 isExit)
  | concat firstLaid secondLaid firstHypothesis secondHypothesis =>
      rcases List.mem_append.1 member with inFirst | inSecond
      · exact (firstHypothesis inFirst List.mem_cons_self).trans
          (secondHypothesis secondLaid.entry_mem isExit)
      · exact secondHypothesis inSecond isExit
  | or found leftLaid rightLaid leftHypothesis rightHypothesis =>
      rcases List.mem_cons.1 member with rfl | inOperands
      · have leads := (leads_iff_of_getElem? found).2 List.mem_cons_self
        exact (Relation.ReflTransGen.single leads).trans
          (leftHypothesis leftLaid.entry_mem isExit)
      · rcases List.mem_append.1 inOperands with inLeft | inRight
        · exact leftHypothesis inLeft isExit
        · exact rightHypothesis inRight isExit
  | maybe found bodyLaid bodyHypothesis =>
      rcases List.mem_cons.1 member with rfl | inBody
      · exact .single ((leads_iff_of_getElem? found).2
          (List.mem_cons_of_mem _ isExit))
      · exact bodyHypothesis inBody isExit
  | star found bodyLaid bodyHypothesis
  | plus found bodyLaid bodyHypothesis =>
      have leaves := (leads_iff_of_getElem? found).2
        (List.mem_cons_of_mem _ isExit)
      rcases List.mem_cons.1 member with rfl | inBody
      · exact .single leaves
      · exact (bodyHypothesis inBody List.mem_cons_self).tail leaves

/-- The entry reaches each owned state. -/
theorem entry_reaches
    (laid : LaidOut states tree fragment exits owned)
    {state : Nat}
    (member : state ∈ owned) :
    Reaches states fragment.entry state := by
  induction laid generalizing state with
  | atom | and =>
      rw [List.mem_singleton.1 member]
  | concat firstLaid secondLaid firstHypothesis secondHypothesis =>
      rcases List.mem_append.1 member with inFirst | inSecond
      · exact firstHypothesis inFirst
      · exact (firstLaid.reaches_exit firstLaid.entry_mem
          List.mem_cons_self).trans (secondHypothesis inSecond)
  | or found leftLaid rightLaid leftHypothesis rightHypothesis =>
      rcases List.mem_cons.1 member with rfl | inOperands
      · exact .refl
      · rcases List.mem_append.1 inOperands with inLeft | inRight
        · exact .head ((leads_iff_of_getElem? found).2 (by simp [State.branching]))
            (leftHypothesis inLeft)
        · exact .head ((leads_iff_of_getElem? found).2 (by simp [State.branching]))
            (rightHypothesis inRight)
  | maybe found bodyLaid bodyHypothesis
  | star found bodyLaid bodyHypothesis =>
      rcases List.mem_cons.1 member with rfl | inBody
      · exact .refl
      · exact .head ((leads_iff_of_getElem? found).2 List.mem_cons_self)
          (bodyHypothesis inBody)
  | plus found bodyLaid bodyHypothesis =>
      rcases List.mem_cons.1 member with rfl | inBody
      · exact bodyLaid.reaches_exit bodyLaid.entry_mem List.mem_cons_self
      · exact bodyHypothesis inBody

/-- An edge from an owned state leads to an owned state or to an exit. -/
theorem leads_mem
    (laid : LaidOut states tree fragment exits owned)
    {source target : Nat}
    (member : source ∈ owned)
    (leads : Leads states source target) :
    target ∈ owned ∨ target ∈ exits := by
  induction laid generalizing source target with
  | atom found | and _ found =>
      rw [List.mem_singleton.1 member, leads_iff_of_getElem? found] at leads
      exact .inr leads
  | concat firstLaid secondLaid firstHypothesis secondHypothesis =>
      rcases List.mem_append.1 member with inFirst | inSecond
      · rcases firstHypothesis inFirst leads with stays | isSecondEntry
        · exact .inl (List.mem_append_left _ stays)
        · rw [List.mem_singleton.1 isSecondEntry]
          exact .inl (List.mem_append_right _ secondLaid.entry_mem)
      · exact (secondHypothesis inSecond leads).imp_left
          (List.mem_append_right _)
  | or found leftLaid rightLaid leftHypothesis rightHypothesis =>
      rcases List.mem_cons.1 member with rfl | inOperands
      · rw [leads_iff_of_getElem? found] at leads
        have leftEntry := leftLaid.entry_mem
        have rightEntry := rightLaid.entry_mem
        simp only [State.branching, List.mem_cons, List.not_mem_nil,
          or_false] at leads
        rcases leads with rfl | rfl
        · simp [leftEntry]
        · simp [rightEntry]
      · rcases List.mem_append.1 inOperands with inLeft | inRight
        · exact (leftHypothesis inLeft leads).imp_left (by simp +contextual)
        · exact (rightHypothesis inRight leads).imp_left (by simp +contextual)
  | maybe found bodyLaid bodyHypothesis =>
      rcases List.mem_cons.1 member with rfl | inBody
      · rw [leads_iff_of_getElem? found] at leads
        rcases List.mem_cons.1 leads with rfl | isExit
        · exact .inl (List.mem_cons_of_mem _ bodyLaid.entry_mem)
        · exact .inr isExit
      · exact (bodyHypothesis inBody leads).imp_left (List.mem_cons_of_mem _)
  | star found bodyLaid bodyHypothesis
  | plus found bodyLaid bodyHypothesis =>
      rcases List.mem_cons.1 member with rfl | inBody
      · rw [leads_iff_of_getElem? found] at leads
        rcases List.mem_cons.1 leads with rfl | isExit
        · exact .inl (List.mem_cons_of_mem _ bodyLaid.entry_mem)
        · exact .inr isExit
      · rcases bodyHypothesis inBody leads with stays | isBranch
        · exact .inl (List.mem_cons_of_mem _ stays)
        · rw [List.mem_singleton.1 isBranch]
          exact .inl List.mem_cons_self

variable {final : Nat}

/-- The entry of a layout that leads to the final state reaches all of it and no more. -/
theorem reaches_iff
    (laid : LaidOut states tree fragment [final] owned)
    (found : states[final]? = some .final)
    (state : Nat) :
    Reaches states fragment.entry state ↔ state ∈ final :: owned := by
  constructor
  · intro reaches
    induction reaches with
    | refl =>
        exact List.mem_cons_of_mem _ laid.entry_mem
    | tail _ leads member =>
        rcases List.mem_cons.1 member with rfl | isOwned
        · rw [leads_iff_of_getElem? found] at leads
          simp [State.final] at leads
        · rcases laid.leads_mem isOwned leads with stays | isFinal
          · exact List.mem_cons_of_mem _ stays
          · exact List.mem_cons.2 (.inl (List.mem_singleton.1 isFinal))
  · intro member
    rcases List.mem_cons.1 member with rfl | isOwned
    · exact laid.reaches_exit laid.entry_mem List.mem_cons_self
    · exact laid.entry_reaches isOwned

/-- All states of a layout that leads to the final state are there. -/
theorem lt_size_of_mem
    (laid : LaidOut states tree fragment [final] owned)
    (found : states[final]? = some .final)
    {state : Nat}
    (member : state ∈ final :: owned) :
    state < states.size := by
  rcases List.mem_cons.1 member with rfl | isOwned
  · exact (Array.getElem?_eq_some_iff.1 found).1
  · exact laid.lt_size isOwned

/-- No walk from the entry leaves the states that are there. -/
theorem lt_size_of_reaches
    (laid : LaidOut states tree fragment [final] owned)
    (found : states[final]? = some .final)
    {state : Nat}
    (reaches : Reaches states fragment.entry state) :
    state < states.size :=
  laid.lt_size_of_mem found ((laid.reaches_iff found state).1 reaches)

end LaidOut

end TokenPattern
