import Mathlib.Data.List.Nodup
import Mathlib.Data.List.Perm.Subperm
import TokenPattern.Proofs.Reach

namespace TokenPattern.Numbering

/-!
# What numbering keeps

The walk meets exactly the states that the entry reaches, each once.  The
renumbered states are these, in the order in which they were met, with their
successors replaced by places in that order.
-/

/-- The places are the places of the states in the order. -/
def Consistent (numbering : Numbering) : Prop :=
  ∀ state place : Nat,
    numbering.places[state]? = some place ↔
      numbering.order[place]? = some state

variable {numbering : Numbering}

namespace Consistent

/-- A state has a place exactly if it was met. -/
theorem contains_iff
    (consistent : numbering.Consistent)
    (state : Nat) :
    numbering.places.contains state = true ↔ state ∈ numbering.order := by
  rw [Std.HashMap.contains_eq_isSome_getElem?, Option.isSome_iff_exists,
    Array.mem_iff_getElem?]
  exact exists_congr fun place => consistent state place

/-- No state was met twice. -/
theorem order_nodup (consistent : numbering.Consistent) :
    numbering.order.toList.Nodup := by
  rw [List.nodup_iff_getElem?_ne_getElem?]
  intro first second before inRange same
  rw [Array.getElem?_toList, Array.getElem?_toList] at same
  have firstInRange := Nat.lt_trans before inRange
  simp only [Array.length_toList] at inRange firstInRange
  rw [Array.getElem?_eq_getElem firstInRange] at same
  have firstPlace := (consistent _ _).2 (Array.getElem?_eq_getElem firstInRange)
  have secondPlace := (consistent _ _).2 same.symm
  rw [firstPlace] at secondPlace
  exact Nat.ne_of_lt before (Option.some.inj secondPlace)

/-- The numbering of the entry alone is consistent. -/
theorem start (entry : Nat) : (Numbering.start entry).Consistent := by
  intro state place
  cases place <;> simp [Numbering.start, Std.HashMap.getElem?_insert]

/-- Meeting a state keeps places and order in step. -/
theorem visit
    (consistent : numbering.Consistent)
    (state : Nat) :
    (numbering.visit state).Consistent := by
  unfold Numbering.visit
  split
  · exact consistent
  · rename_i notMet
    have fresh : state ∉ numbering.order :=
      fun member => notMet ((consistent.contains_iff state).2 member)
    intro other place
    simp only [Std.HashMap.getElem?_insert, Array.getElem?_push, beq_iff_eq]
    by_cases isNew : state = other
    · subst isNew
      have notBefore : numbering.order[place]? ≠ some state :=
        fun found => fresh (Array.mem_of_getElem? found)
      by_cases isLast : place = numbering.order.size
      · simp [isLast]
      · simp [isLast, notBefore, Ne.symm isLast]
    · rw [if_neg isNew, consistent other place]
      by_cases isLast : place = numbering.order.size
      · simp [isLast, isNew]
      · simp [isLast]

/-- Meeting states keeps places and order in step. -/
theorem foldl_visit
    (consistent : numbering.Consistent)
    (states : List Nat) :
    (states.foldl Numbering.visit numbering).Consistent := by
  induction states generalizing numbering with
  | nil =>
      exact consistent
  | cons state rest inductionHypothesis =>
      exact inductionHypothesis (consistent.visit state)

end Consistent

/-- A place that is taken stays taken. -/
theorem order_visit
    {place state : Nat}
    (found : numbering.order[place]? = some state)
    (visited : Nat) :
    (numbering.visit visited).order[place]? = some state := by
  unfold visit
  split
  · exact found
  · have inRange := (Array.getElem?_eq_some_iff.1 found).1
    rw [Array.getElem?_push, if_neg (Nat.ne_of_lt inRange), found]

/-- Places that are taken stay taken. -/
theorem order_foldl_visit
    {place state : Nat}
    (found : numbering.order[place]? = some state)
    (visited : List Nat) :
    (visited.foldl visit numbering).order[place]? = some state := by
  induction visited generalizing numbering with
  | nil =>
      exact found
  | cons first rest inductionHypothesis =>
      exact inductionHypothesis (order_visit found first)

/-- A visit meets the visited state and forgets none. -/
theorem mem_order_visit
    (consistent : numbering.Consistent)
    {visited state : Nat} :
    state ∈ (numbering.visit visited).order ↔
      state ∈ numbering.order ∨ state = visited := by
  unfold visit
  split
  · rename_i met
    have member := (consistent.contains_iff visited).1 met
    constructor
    · exact .inl
    · rintro (before | rfl)
      · exact before
      · exact member
  · exact Array.mem_push

/-- Visits meet the visited states and forget none. -/
theorem mem_order_foldl_visit
    (consistent : numbering.Consistent)
    {visited : List Nat}
    {state : Nat} :
    state ∈ (visited.foldl visit numbering).order ↔
      state ∈ numbering.order ∨ state ∈ visited := by
  induction visited generalizing numbering with
  | nil =>
      simp
  | cons first rest inductionHypothesis =>
      rw [List.foldl_cons, inductionHypothesis (consistent.visit first),
        mem_order_visit consistent, List.mem_cons, or_assoc]

/-- What each step of a walk keeps holds where the walk ends: out of fuel or of states. -/
theorem walk_keeps
    {states : Array State}
    (Keeps : Nat → Numbering → Prop)
    (step :
      ∀ {place numbering state},
        Keeps place numbering →
        numbering.order[place]? = some state →
        Keeps (place + 1) ((successorsOf states state).foldl visit numbering))
    (fuel : Nat)
    {place : Nat}
    (begun : Keeps place numbering) :
    ∃ last,
      Keeps last (walk states fuel place numbering) ∧
        (last = place + fuel ∨ (walk states fuel place numbering).order.size ≤ last) := by
  induction fuel generalizing place numbering with
  | zero =>
      exact ⟨place, begun, .inl rfl⟩
  | succ fuel inductionHypothesis =>
      unfold walk
      split
      · rename_i state next
        obtain ⟨last, kept, ends⟩ := inductionHypothesis (step begun next)
        refine ⟨last, kept, ends.imp_left fun outOfFuel => ?_⟩
        omega
      · rename_i finished
        exact ⟨place, begun, .inr (Array.getElem?_eq_none_iff.1 finished)⟩

/--
A walk before it looks at the state at a place: all states before that place
had their successors visited.
-/
structure Walked
    (states : Array State)
    (entry place : Nat)
    (numbering : Numbering) : Prop where
  consistent : numbering.Consistent
  entryFirst : numbering.order[0]? = some entry
  reached : ∀ state ∈ numbering.order, Reaches states entry state
  explored :
    ∀ before < place,
      ∀ state,
        numbering.order[before]? = some state →
        ∀ target, Leads states state target → target ∈ numbering.order

namespace Walked

variable {states : Array State}
variable {entry place : Nat}

/-- A walk begins at the entry. -/
theorem start : Walked states entry 0 (.start entry) where
  consistent := .start entry
  entryFirst := rfl
  reached state member := by
    have isEntry : state = entry := by
      simpa [Numbering.start] using member
    rw [isEntry]
  explored before impossible := absurd impossible (Nat.not_lt_zero before)

/-- Visiting the successors of the next state is a step of the walk. -/
theorem step
    (walked : Walked states entry place numbering)
    {state : Nat}
    (next : numbering.order[place]? = some state) :
    Walked states entry (place + 1)
      ((successorsOf states state).foldl visit numbering) where
  consistent := walked.consistent.foldl_visit _
  entryFirst := order_foldl_visit walked.entryFirst _
  reached target member := by
    rcases (mem_order_foldl_visit walked.consistent).1 member with
      metBefore | isSuccessor
    · exact walked.reached target metBefore
    · exact (walked.reached state (Array.mem_of_getElem? next)).tail isSuccessor
  explored before inRange source found target leads := by
    refine (mem_order_foldl_visit walked.consistent).2 ?_
    rcases Nat.lt_succ_iff_lt_or_eq.1 inRange with earlier | rfl
    · have met := Nat.lt_trans earlier (Array.getElem?_eq_some_iff.1 next).1
      have foundBefore := Array.getElem?_eq_getElem met
      have same := order_foldl_visit foundBefore (successorsOf states state)
      rw [found] at same
      rw [← Option.some.inj same] at foundBefore
      exact .inl (walked.explored before earlier source foundBefore target leads)
    · have same := order_foldl_visit next (successorsOf states state)
      rw [found] at same
      cases same
      exact .inr leads

/-- A walk meets no more states than there are. -/
theorem size_order_le
    (walked : Walked states entry place numbering)
    (inRange : ∀ state, Reaches states entry state → state < states.size) :
    numbering.order.size ≤ states.size := by
  have subset : numbering.order.toList ⊆ List.range states.size := by
    intro state member
    exact List.mem_range.2
      (inRange state (walked.reached state (Array.mem_toList_iff.1 member)))
  simpa using
    (List.subperm_of_subset walked.consistent.order_nodup subset).length_le

/-- A walk with enough fuel ends when it has seen all states that it met. -/
theorem walk
    (walked : Walked states entry place numbering)
    (inRange : ∀ state, Reaches states entry state → state < states.size)
    {fuel : Nat}
    (enough : states.size ≤ place + fuel) :
    ∃ last,
      (Numbering.walk states fuel place numbering).order.size ≤ last ∧
        Walked states entry last (Numbering.walk states fuel place numbering) := by
  obtain ⟨last, ended, outOfFuel | seenAll⟩ :=
    walk_keeps (Walked states entry) (fun walked next => walked.step next) fuel walked
  · refine ⟨last, ?_, ended⟩
    rw [outOfFuel]
    exact Nat.le_trans (ended.size_order_le inRange) enough
  · exact ⟨last, seenAll, ended⟩

end Walked

/-- What is known of the numbering of an array of states from an entry. -/
structure Complete
    (states : Array State)
    (entry : Nat)
    (numbering : Numbering) : Prop where
  consistent : numbering.Consistent
  entryFirst : numbering.order[0]? = some entry
  /-- The states met are those that the entry reaches. -/
  mem_order_iff :
    ∀ state, state ∈ numbering.order ↔ Reaches states entry state

/-- Numbering meets exactly the states that the entry reaches. -/
theorem ofEntry_complete
    {states : Array State}
    {entry : Nat}
    (inRange : ∀ state, Reaches states entry state → state < states.size) :
    Complete states entry (ofEntry states entry) := by
  have begun : Walked states entry 0 (start entry) := .start
  obtain ⟨last, seenAll, walked⟩ :=
    begun.walk inRange (Nat.le_of_eq (Nat.zero_add states.size).symm)
  refine ⟨walked.consistent, walked.entryFirst, fun state => ?_⟩
  constructor
  · exact walked.reached state
  · intro reaches
    induction reaches with
    | refl =>
        exact Array.mem_of_getElem? walked.entryFirst
    | @tail source target _ leads met =>
        obtain ⟨place, found⟩ := Array.mem_iff_getElem?.1 met
        have before := (Array.getElem?_eq_some_iff.1 found).1
        exact walked.explored place (Nat.lt_of_lt_of_le before seenAll)
          source found target leads

end TokenPattern.Numbering
