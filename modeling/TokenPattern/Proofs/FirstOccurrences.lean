import Mathlib.Data.List.Induction
import TokenPattern.Proofs.Renumbering

namespace TokenPattern

/-!
# Numbers in the order of their first occurrences

A breadth-first walk meets a state when it reads the state's number for the
first time in the successor lists of those met before.  So the order of a
numbering is that of the first occurrences in the lists that it reads.
-/

section FirstOccurrences

variable {α β : Type} [BEq α] [LawfulBEq α] [BEq β] [LawfulBEq β]

/-- An element at the end is a first occurrence unless it was there before. -/
theorem eraseDups_concat
    [DecidableEq α]
    (front : List α)
    (last : α) :
    (front ++ [last]).eraseDups =
      if last ∈ front then front.eraseDups else front.eraseDups ++ [last] := by
  rw [List.eraseDups_append]
  by_cases isOld : last ∈ front
  · simp [List.removeAll, isOld]
  · simp [List.removeAll, isOld, List.eraseDups_cons]

/-- The first occurrences in the beginning of a list come first. -/
theorem eraseDups_prefix
    {front whole : List α}
    (isPrefix : front <+: whole) :
    front.eraseDups <+: whole.eraseDups := by
  obtain ⟨back, rfl⟩ := isPrefix
  rw [List.eraseDups_append]
  exact List.prefix_append _ _

/-- Renaming that keeps elements apart keeps the first occurrences. -/
theorem eraseDups_map
    {items : List α}
    {rename : α → β}
    (apart :
      ∀ first ∈ items,
        ∀ second ∈ items,
          rename first = rename second → first = second) :
    (items.map rename).eraseDups = items.eraseDups.map rename := by
  classical
  induction items using List.reverseRecOn with
  | nil =>
      rfl
  | append_singleton front last inductionHypothesis =>
      have frontApart := inductionHypothesis fun first isFirst second isSecond =>
        apart first (List.mem_append_left _ isFirst) second
          (List.mem_append_left _ isSecond)
      have sameMembership : rename last ∈ front.map rename ↔ last ∈ front := by
        constructor
        · intro isRenamed
          obtain ⟨item, isItem, same⟩ := List.mem_map.1 isRenamed
          rw [← apart item (List.mem_append_left _ isItem) last (by simp) same]
          exact isItem
        · exact List.mem_map_of_mem
      rw [List.map_append, List.map_singleton, eraseDups_concat, eraseDups_concat,
        frontApart]
      by_cases isOld : last ∈ front
      · rw [if_pos (sameMembership.2 isOld), if_pos isOld]
      · rw [if_neg (mt sameMembership.1 isOld), if_neg isOld]
        simp

end FirstOccurrences

namespace Numbering

variable {numbering : Numbering}

/-- A visited state comes last unless it was met before. -/
theorem order_visit_eq
    (consistent : numbering.Consistent)
    {met : List Nat}
    (isOrder : numbering.order.toList = met.eraseDups)
    (state : Nat) :
    (numbering.visit state).order.toList = (met ++ [state]).eraseDups := by
  have wasMet : numbering.places.contains state = true ↔ state ∈ met := by
    rw [consistent.contains_iff, ← Array.mem_toList_iff, isOrder, List.mem_eraseDups]
  rw [eraseDups_concat]
  unfold visit
  by_cases isOld : state ∈ met
  · rw [if_pos (wasMet.2 isOld), if_pos isOld]
    exact isOrder
  · rw [if_neg (mt wasMet.1 isOld), if_neg isOld, Array.toList_push, isOrder]

/-- Visited states come in the order of their first occurrences. -/
theorem order_foldl_visit_eq
    (consistent : numbering.Consistent)
    {met : List Nat}
    (isOrder : numbering.order.toList = met.eraseDups)
    (visited : List Nat) :
    (visited.foldl visit numbering).order.toList = (met ++ visited).eraseDups := by
  induction visited generalizing numbering met with
  | nil =>
      rw [List.append_nil]
      exact isOrder
  | cons first rest inductionHypothesis =>
      have isNextOrder := order_visit_eq consistent isOrder first
      have later := inductionHypothesis (consistent.visit first) isNextOrder
      rw [List.append_assoc] at later
      exact later

/-- The numbers read by a walk before it looks at the state at a place. -/
def readBefore
    (states : Array State)
    (entry place : Nat)
    (numbering : Numbering) :
    List Nat :=
  entry :: (numbering.order.toList.take place).flatMap (successorsOf states)

/-- A walk that has met the states in the order in which it has read them. -/
structure InOrder
    (states : Array State)
    (entry place : Nat)
    (numbering : Numbering) : Prop where
  consistent : numbering.Consistent
  order_eq : numbering.order.toList = (readBefore states entry place numbering).eraseDups

variable {states : Array State}
variable {entry place : Nat}

theorem InOrder.start : InOrder states entry 0 (.start entry) where
  consistent := .start entry
  order_eq := by simp [Numbering.start, readBefore, List.eraseDups_cons]

/-- Visiting the successors of the next state keeps the order. -/
theorem InOrder.step
    (inOrder : InOrder states entry place numbering)
    {state : Nat}
    (next : numbering.order[place]? = some state) :
    InOrder states entry (place + 1)
      ((successorsOf states state).foldl visit numbering) where
  consistent := inOrder.consistent.foldl_visit _
  order_eq := by
    have isOrder :=
      order_foldl_visit_eq inOrder.consistent inOrder.order_eq (successorsOf states state)
    have kept :
        numbering.order.toList <+:
          ((successorsOf states state).foldl visit numbering).order.toList := by
      rw [isOrder, inOrder.order_eq]
      exact eraseDups_prefix (List.prefix_append _ _)
    obtain ⟨more, nextOrder⟩ := kept
    have inRange : place + 1 ≤ numbering.order.toList.length := by
      rw [Array.length_toList]
      exact (Array.getElem?_eq_some_iff.1 next).1
    have front :
        ((successorsOf states state).foldl visit numbering).order.toList.take (place + 1) =
          numbering.order.toList.take place ++ [state] := by
      rw [← nextOrder, List.take_append_of_le_length inRange, List.take_add_one,
        Array.getElem?_toList, next, Option.toList_some]
    rw [readBefore, front, isOrder, readBefore]
    simp

/-- The order of a numbering is that of the first occurrences in the lists it has read. -/
theorem order_ofEntry
    (inRange : ∀ state, Reaches states entry state → state < states.size) :
    (ofEntry states entry).order.toList =
      (entry :: (ofEntry states entry).order.toList.flatMap (successorsOf states)).eraseDups := by
  obtain ⟨last, ⟨walked, inOrder⟩, ends⟩ :=
    walk_keeps
      (fun place numbering =>
        Walked states entry place numbering ∧ InOrder states entry place numbering)
      (fun both next => ⟨both.1.step next, both.2.step next⟩)
      states.size ⟨Walked.start, InOrder.start⟩
  have seenAll : (ofEntry states entry).order.size ≤ last := by
    rcases ends with outOfFuel | seenAll
    · rw [outOfFuel, Nat.zero_add]
      exact walked.size_order_le inRange
    · exact seenAll
  have whole :
      (ofEntry states entry).order.toList.take last = (ofEntry states entry).order.toList :=
    List.take_of_length_le (by rwa [Array.length_toList])
  have isOrder := inOrder.order_eq
  change (ofEntry states entry).order.toList =
    (entry :: ((ofEntry states entry).order.toList.take last).flatMap
      (successorsOf states)).eraseDups at isOrder
  rwa [whole] at isOrder

end Numbering

end TokenPattern
