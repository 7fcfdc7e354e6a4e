import Mathlib.Data.List.Forall2
import Mathlib.Data.List.Nodup
import TokenPattern.Proofs.Pieces
import TokenPattern.Proofs.Reach

namespace TokenPattern

/-!
# Who owns a state

All fragments on the stack stand in one array of states and are joined by
changing states in place.  Each of them nevertheless keeps to states of its
own: those that its entry reaches, which lack a successor where they are holes
and nowhere else.  What no fragment owns was the operand of a conjunction, and
no edge leads there.
-/

/-- The number of successors that a state of a fragment has in the end. -/
def State.degree (state : State) : Nat :=
  if state.predicate.isEpsilon then 2 else 1

/-- A fragment hangs together, on states that lack no successor but at its holes. -/
structure Fragment.Owns
    (states : Array State)
    (fragment : Fragment)
    (owned : List Nat) : Prop where
  entry_mem : fragment.entry ∈ owned
  holes_subset : fragment.holes ⊆ owned
  holes_nodup : fragment.holes.Nodup
  /-- No edge leads out of the fragment. -/
  leads_mem :
    ∀ source ∈ owned, ∀ target, Leads states source target → target ∈ owned
  entry_reaches : ∀ number ∈ owned, Reaches states fragment.entry number
  reaches_hole :
    ∀ number ∈ owned, ∃ hole ∈ fragment.holes, Reaches states number hole
  successors_length :
    ∀ number ∈ owned, ∃ state,
      states[number]? = some state ∧
        state.successors.length + (if number ∈ fragment.holes then 1 else 0) =
          state.degree

namespace LaidOut

variable {states : Array State}
variable {tree : PatternTree}
variable {fragment : Fragment}
variable {exits owned : List Nat}

/-- Each owned state reaches a hole. -/
theorem reaches_hole
    (laid : LaidOut states tree fragment exits owned)
    {number : Nat}
    (member : number ∈ owned) :
    ∃ hole ∈ fragment.holes, Reaches states number hole := by
  induction laid generalizing number with
  | atom | and =>
      exact ⟨number, member, .refl⟩
  | concat firstLaid secondLaid firstHypothesis secondHypothesis =>
      rcases List.mem_append.1 member with inFirst | inSecond
      · obtain ⟨hole, isHole, reaches⟩ := secondHypothesis secondLaid.entry_mem
        exact ⟨hole, isHole,
          (firstLaid.reaches_exit inFirst List.mem_cons_self).trans reaches⟩
      · exact secondHypothesis inSecond
  | or found leftLaid rightLaid leftHypothesis rightHypothesis =>
      rcases List.mem_cons.1 member with rfl | inOperands
      · obtain ⟨hole, isHole, reaches⟩ := leftHypothesis leftLaid.entry_mem
        exact ⟨hole, List.mem_append_left _ isHole,
          .head ((leads_iff_of_getElem? found).2 List.mem_cons_self) reaches⟩
      · rcases List.mem_append.1 inOperands with inLeft | inRight
        · obtain ⟨hole, isHole, reaches⟩ := leftHypothesis inLeft
          exact ⟨hole, List.mem_append_left _ isHole, reaches⟩
        · obtain ⟨hole, isHole, reaches⟩ := rightHypothesis inRight
          exact ⟨hole, List.mem_append_right _ isHole, reaches⟩
  | maybe found bodyLaid bodyHypothesis =>
      rcases List.mem_cons.1 member with rfl | inBody
      · exact ⟨number, by simp, .refl⟩
      · obtain ⟨hole, isHole, reaches⟩ := bodyHypothesis inBody
        exact ⟨hole, List.mem_append_left _ isHole, reaches⟩
  | star found bodyLaid
  | plus found bodyLaid =>
      refine ⟨_, List.mem_cons_self, ?_⟩
      rcases List.mem_cons.1 member with rfl | inBody
      · exact .refl
      · exact bodyLaid.reaches_exit inBody List.mem_cons_self

/-- A hole has the exits in the place of one successor, and any other state has all of its own. -/
theorem length_successors
    (laid : LaidOut states tree fragment exits owned)
    (noDuplicates : owned.Nodup)
    {number : Nat}
    (member : number ∈ owned) :
    ∃ state,
      states[number]? = some state ∧
        if number ∈ fragment.holes then
          state.successors.length + 1 = state.degree + exits.length
        else
          state.successors.length = state.degree := by
  induction laid with
  | atom found | and _ found =>
      refine ⟨_, List.mem_singleton.1 member ▸ found, ?_⟩
      simp [List.mem_singleton.1 member, State.degree, Predicate.isEpsilon,
        Nat.add_comm]
  | concat firstLaid secondLaid firstHypothesis secondHypothesis =>
      obtain ⟨firstNodup, secondNodup, apart⟩ := List.nodup_append.1 noDuplicates
      rcases List.mem_append.1 member with inFirst | inSecond
      · obtain ⟨state, found, counted⟩ := firstHypothesis firstNodup inFirst
        have notHole : number ∉ _ := fun isHole =>
          apart number inFirst number (secondLaid.holes_subset isHole) rfl
        refine ⟨state, found, ?_⟩
        simpa [notHole] using counted
      · exact secondHypothesis secondNodup inSecond
  | or found leftLaid rightLaid leftHypothesis rightHypothesis =>
      obtain ⟨notOwned, operandsNodup⟩ := List.nodup_cons.1 noDuplicates
      obtain ⟨leftNodup, rightNodup, apart⟩ := List.nodup_append.1 operandsNodup
      rcases List.mem_cons.1 member with rfl | inOperands
      · have notHole : number ∉ _ ++ _ := fun isHole =>
          notOwned (leftLaid.append_holes_subset rightLaid isHole)
        refine ⟨_, found, ?_⟩
        simp [notHole, State.degree, State.branching, Predicate.isEpsilon]
      · rcases List.mem_append.1 inOperands with inLeft | inRight
        · obtain ⟨state, found, counted⟩ := leftHypothesis leftNodup inLeft
          have notHole : number ∉ _ := fun isHole =>
            apart number inLeft number (rightLaid.holes_subset isHole) rfl
          refine ⟨state, found, ?_⟩
          simpa [notHole] using counted
        · obtain ⟨state, found, counted⟩ := rightHypothesis rightNodup inRight
          have notHole : number ∉ _ := fun isHole =>
            apart number (leftLaid.holes_subset isHole) number inRight rfl
          refine ⟨state, found, ?_⟩
          simpa [notHole] using counted
  | maybe found bodyLaid bodyHypothesis =>
      obtain ⟨notOwned, bodyNodup⟩ := List.nodup_cons.1 noDuplicates
      rcases List.mem_cons.1 member with rfl | inBody
      · refine ⟨_, found, ?_⟩
        simp [State.degree, State.branching, Predicate.isEpsilon]
        omega
      · obtain ⟨state, found, counted⟩ := bodyHypothesis bodyNodup inBody
        have notEntry := ne_of_mem_of_not_mem inBody notOwned
        refine ⟨state, found, ?_⟩
        simpa [notEntry] using counted
  | star found bodyLaid bodyHypothesis
  | plus found bodyLaid bodyHypothesis =>
      obtain ⟨notOwned, bodyNodup⟩ := List.nodup_cons.1 noDuplicates
      rcases List.mem_cons.1 member with rfl | inBody
      · refine ⟨_, found, ?_⟩
        simp [State.degree, State.branching, Predicate.isEpsilon]
        omega
      · obtain ⟨state, found, counted⟩ := bodyHypothesis bodyNodup inBody
        have notBranch := ne_of_mem_of_not_mem inBody notOwned
        refine ⟨state, found, ?_⟩
        simpa [notBranch] using counted

/-- An open layout is a fragment that owns its states. -/
theorem owns
    (laid : LaidOut states tree fragment [] owned)
    (noDuplicates : owned.Nodup) :
    fragment.Owns states owned where
  entry_mem := laid.entry_mem
  holes_subset := laid.holes_subset
  holes_nodup := laid.holes_nodup noDuplicates
  leads_mem source member target leads := by
    simpa using laid.leads_mem member leads
  entry_reaches number member := laid.entry_reaches member
  reaches_hole number member := laid.reaches_hole member
  successors_length number member := by
    obtain ⟨state, found, counted⟩ := laid.length_successors noDuplicates member
    refine ⟨state, found, ?_⟩
    split at counted <;> simp_all

/-- The layout of a tree that tests one token is one state. -/
theorem single_of_predicate?
    (laid : LaidOut states tree fragment exits owned)
    {predicate : Predicate}
    (single : tree.predicate? = some predicate) :
    owned = [fragment.entry] ∧
      ∃ tag, states[fragment.entry]? = some ⟨predicate, exits, false, tag⟩ := by
  cases laid with
  | atom found =>
      cases single
      exact ⟨rfl, _, found⟩
  | and isTests found =>
      simp only [PatternTree.predicate?, isTests, Option.map_some,
        Option.some.injEq] at single
      subst single
      exact ⟨rfl, _, found⟩
  | concat | or | maybe | star | plus =>
      simp [PatternTree.predicate?, PatternTree.tests?] at single

end LaidOut

namespace Assembly

/-- The states that an instruction leaves to no fragment: those of a conjunction's operands. -/
def abandonedBy (assembly : Assembly) : Instruction → List Nat
  | .connect .and => (assembly.stack.take 2).map (·.entry)
  | _ => []

/-- The states that the instructions from the given index on leave to no fragment. -/
def abandonedAlong
    (assembly : Assembly) :
    Nat →
    List Instruction →
    List Nat
  | _, [] => []
  | index, instruction :: rest =>
      match assembly.execute index instruction with
      | .ok executed =>
          assembly.abandonedBy instruction ++ executed.abandonedAlong (index + 1) rest
      | .error _ => []

/-- The fragments on the stack share no state, and what they do not own was abandoned. -/
structure KeepsApart
    (assembly : Assembly)
    (owned : List (List Nat))
    (abandoned : List Nat) : Prop where
  owns : List.Forall₂ (Fragment.Owns assembly.states) assembly.stack owned
  disjoint : owned.Pairwise List.Disjoint
  abandoned_iff :
    ∀ number,
      number ∈ abandoned ↔
        number < assembly.states.size ∧ number ∉ owned.flatten
  /-- No edge of any state leads to an abandoned one. -/
  not_leads :
    ∀ source target, Leads assembly.states source target → target ∉ abandoned
  /-- An abandoned state has lost its predicate to the conjunction. -/
  cleared :
    ∀ number ∈ abandoned, ∃ tag,
      assembly.states[number]? = some (.ofPredicate .epsilon tag)

/-- The states that no piece owns are those abandoned so far, and they are cleared. -/
structure Tracks
    (assembly : Assembly)
    (pieces : List Piece)
    (abandoned : List Nat) : Prop where
  holds : assembly.Holds pieces
  abandoned_iff :
    ∀ number,
      number ∈ abandoned ↔
        number < assembly.states.size ∧ number ∉ pieces.flatMap (·.owned)
  cleared :
    ∀ number ∈ abandoned, ∃ tag,
      assembly.states[number]? = some (.ofPredicate .epsilon tag)

variable {assembly executed : Assembly}
variable {instruction : Instruction}
variable {pieces : List Piece}
variable {abandoned : List Nat}

/-- At the beginning there is no state. -/
theorem empty_tracks : empty.Tracks [] [] where
  holds := empty_holds
  abandoned_iff := by simp [empty]
  cleared := by simp

theorem Tracks.keepsApart (tracks : assembly.Tracks pieces abandoned) :
    assembly.KeepsApart (pieces.map (·.owned)) abandoned where
  owns := by
    rw [tracks.holds.stack, List.forall₂_map_left_iff, List.forall₂_map_right_iff,
      List.forall₂_same]
    intro piece member
    have noDuplicates := (List.nodup_flatMap.1 tracks.holds.placed.separate).1
    exact (tracks.holds.placed.laidOut piece member).owns (noDuplicates piece member)
  disjoint :=
    List.pairwise_map.2 (List.nodup_flatMap.1 tracks.holds.placed.separate).2
  abandoned_iff number := by
    rw [tracks.abandoned_iff, List.flatMap_def]
  not_leads source target leads isAbandoned := by
    have notOwned := ((tracks.abandoned_iff target).1 isAbandoned).2
    by_cases isOwned : source ∈ pieces.flatMap (·.owned)
    · obtain ⟨piece, member, owned⟩ := List.mem_flatMap.1 isOwned
      have stays := (tracks.holds.placed.laidOut piece member).leads_mem owned leads
      simp only [List.not_mem_nil, or_false] at stays
      exact notOwned (List.mem_flatMap.2 ⟨piece, member, stays⟩)
    · -- A state that no piece owns has no successors, if it is there at all.
      by_cases isThere : source < assembly.states.size
      · obtain ⟨tag, found⟩ :=
          tracks.cleared source ((tracks.abandoned_iff source).2 ⟨isThere, isOwned⟩)
        simp [leads_iff_of_getElem? found, State.ofPredicate] at leads
      · simp [Leads, Numbering.successorsOf, isThere] at leads
  cleared := tracks.cleared

/-- Instructions leave alone the old states that no piece owns. -/
theorem Executes.getElem?_eq
    (executes : assembly.Executes instruction pieces executed)
    (placed : Placed assembly.states pieces)
    {number : Nat}
    (notOwned : number ∉ pieces.flatMap (·.owned))
    (isOld : number < assembly.states.size) :
    executed.states[number]? = assembly.states[number]? := by
  have pushed (state : State) :
      (assembly.states.push state)[number]? = assembly.states[number]? := by
    rw [Array.getElem?_push, if_neg (Nat.ne_of_lt isOld)]
  have notHole {piece : Piece} (member : piece ∈ pieces) :
      number ∉ piece.fragment.holes := fun isHole =>
    notOwned (List.mem_flatMap.2
      ⟨piece, member, (placed.laidOut piece member).holes_subset isHole⟩)
  cases executes with
  | atom =>
      exact pushed _
  | concat second first rest =>
      rw [concatenate, getElem?_fill (placed.tail.head.holes_nodup placed.tail.head_nodup),
        if_neg (notHole (by simp))]
  | or =>
      exact pushed _
  | @and second first rest joined conjoins =>
      obtain ⟨left, right, _, _, rfl⟩ := exists_of_conjoin? conjoins
      simp only [List.flatMap_cons, List.mem_append, not_or] at notOwned
      have notFirst := ne_of_mem_of_not_mem placed.tail.head.entry_mem notOwned.2.1
      have notSecond := ne_of_mem_of_not_mem placed.head.entry_mem notOwned.1
      simp [pushTest, Array.getElem?_push, getElem?_clear, Nat.ne_of_lt isOld, notFirst,
        notSecond]
  | quantify operator body rest =>
      have holesNodup := placed.head.holes_nodup placed.head_nodup
      cases operator with
      | maybe =>
          exact pushed _
      | star | plus =>
          simp [Assembly.quantify, getElem?_fill holesNodup, notHole, pushed]

/-- What is abandoned stays so, if an instruction accounts for the states that it adds. -/
theorem Tracks.next
    (tracks : assembly.Tracks pieces abandoned)
    (executes : assembly.Executes instruction pieces executed)
    {left : List Piece}
    (holds : executed.Holds left)
    {more : List Nat}
    (accounts :
      ∀ number,
        number < executed.states.size ∧ number ∉ left.flatMap (·.owned) ↔
          (number < assembly.states.size ∧ number ∉ pieces.flatMap (·.owned)) ∨
            number ∈ more)
    (cleared :
      ∀ number ∈ more, ∃ tag,
        executed.states[number]? = some (.ofPredicate .epsilon tag)) :
    executed.Tracks left (abandoned ++ more) where
  holds := holds
  abandoned_iff number := by
    rw [List.mem_append, tracks.abandoned_iff, accounts]
  cleared number member := by
    rcases List.mem_append.1 member with isAbandoned | isMore
    · obtain ⟨isOld, notOwned⟩ := (tracks.abandoned_iff number).1 isAbandoned
      obtain ⟨tag, found⟩ := tracks.cleared number isAbandoned
      exact ⟨tag, (executes.getElem?_eq tracks.holds.placed notOwned isOld).trans found⟩
    · exact cleared number isMore

/-- A conjunction leaves behind what its operands own, and clears it. -/
theorem Tracks.conjoin?
    {second first : Piece}
    {rest : List Piece}
    (tracks : assembly.Tracks (second :: first :: rest) abandoned)
    (conjoins :
      assembly.conjoin? first.fragment second.fragment
        (rest.map (·.fragment)) = some executed) :
    ∃ left,
      executed.Tracks left
        (abandoned ++ [second.fragment.entry, first.fragment.entry]) := by
  have placed := tracks.holds.placed
  obtain ⟨piece, _, owned, holds⟩ := conjoin?_holds placed conjoins
  obtain ⟨left, right, leftFound, rightFound, rfl⟩ := exists_of_conjoin? conjoins
  rw [placed.tail.head.singleTest?_eq placed.tail.head_nodup] at leftFound
  rw [placed.head.singleTest?_eq placed.head_nodup] at rightFound
  obtain ⟨firstOwned, firstTag, firstState⟩ :=
    placed.tail.head.single_of_predicate? leftFound
  obtain ⟨secondOwned, secondTag, secondState⟩ :=
    placed.head.single_of_predicate? rightFound
  have firstOld := placed.tail.head.lt_size placed.tail.head.entry_mem
  have secondOld := placed.head.lt_size placed.head.entry_mem
  have differ : second.fragment.entry ≠ first.fragment.entry :=
    ne_of_mem_of_not_mem placed.head.entry_mem
      (placed.apart List.mem_cons_self placed.tail.head.entry_mem)
  refine ⟨piece :: rest, tracks.next (.and conjoins) holds ?_ ?_⟩
  · intro number
    have separate := placed.separate
    simp only [List.flatMap_cons, firstOwned, secondOwned] at separate
    simp only [List.flatMap_cons, owned, firstOwned, secondOwned, pushTest, nextState,
      Array.size_push, size_clear, List.mem_append, List.mem_singleton]
    grind
  · intro number member
    rcases List.mem_pair.1 member with rfl | rfl
    · refine ⟨secondTag, ?_⟩
      simp [pushTest, Array.getElem?_push, getElem?_clear, State.ofPredicate,
        Nat.ne_of_lt secondOld, differ.symm, secondState]
    · refine ⟨firstTag, ?_⟩
      simp [pushTest, Array.getElem?_push, getElem?_clear, State.ofPredicate,
        Nat.ne_of_lt firstOld, differ, firstState]

/-- What is abandoned is known after an instruction if it was before. -/
theorem Tracks.execute
    (tracks : assembly.Tracks pieces abandoned)
    {index : Nat}
    (executes : assembly.execute index instruction = .ok executed) :
    ∃ left, executed.Tracks left (abandoned ++ assembly.abandonedBy instruction) := by
  have placed := tracks.holds.placed
  cases executes_of_execute tracks.holds.stack executes with
  | atom test =>
      obtain ⟨piece, _, owned, holds⟩ := atom_holds tracks.holds test
      refine ⟨piece :: pieces,
        tracks.next (.atom test pieces) holds ?_ (by simp [abandonedBy])⟩
      intro number
      simp only [List.flatMap_cons, owned, pushTest, nextState, abandonedBy,
        Array.size_push, List.mem_append, List.mem_singleton, List.not_mem_nil]
      grind
  | concat second first rest =>
      obtain ⟨piece, _, owned, holds⟩ := concatenate_holds placed
      refine ⟨piece :: rest,
        tracks.next (.concat second first rest) holds ?_ (by simp [abandonedBy])⟩
      intro number
      simp only [List.flatMap_cons, owned, concatenate, size_fill, abandonedBy,
        List.mem_append, List.not_mem_nil]
      grind
  | or second first rest =>
      obtain ⟨piece, _, owned, holds⟩ := alternate_holds placed
      refine ⟨piece :: rest,
        tracks.next (.or second first rest) holds ?_ (by simp [abandonedBy])⟩
      intro number
      simp only [List.flatMap_cons, owned, alternate, nextState, abandonedBy,
        Array.size_push, List.mem_append, List.mem_cons, List.not_mem_nil]
      grind
  | and conjoins =>
      simpa [abandonedBy, tracks.holds.stack] using tracks.conjoin? conjoins
  | quantify operator body rest =>
      obtain ⟨piece, _, owned, holds⟩ := quantify_holds placed operator
      refine ⟨piece :: rest,
        tracks.next (.quantify operator body rest) holds ?_ (by simp [abandonedBy])⟩
      intro number
      have size :
          (assembly.quantify operator body.fragment
            (rest.map (·.fragment))).states.size = assembly.states.size + 1 := by
        cases operator <;> simp [quantify]
      simp only [List.flatMap_cons, owned, size, nextState, abandonedBy,
        List.mem_append, List.mem_cons, List.not_mem_nil]
      grind

/-- What is abandoned is known throughout a run. -/
theorem Tracks.executeAll
    (tracks : assembly.Tracks pieces abandoned)
    {index : Nat}
    {instructions : List Instruction}
    (executes : assembly.executeAll index instructions = .ok executed) :
    ∃ left,
      executed.Tracks left (abandoned ++ assembly.abandonedAlong index instructions) := by
  induction instructions generalizing assembly pieces abandoned index with
  | nil =>
      cases executes
      exact ⟨pieces, by simpa [abandonedAlong] using tracks⟩
  | cons instruction rest inductionHypothesis =>
      rw [Assembly.executeAll] at executes
      split at executes
      · rename_i between headExecutes
        obtain ⟨betweenPieces, betweenTracks⟩ := tracks.execute headExecutes
        obtain ⟨left, leftTracks⟩ := inductionHypothesis betweenTracks executes
        refine ⟨left, ?_⟩
        simpa [abandonedAlong, headExecutes] using leftTracks
      · cases executes

/--
Wherever a list of instructions has got to, the fragments on the stack do not interfere.

The instructions up to there are a list of their own, so this holds after each of them.
-/
theorem exists_keepsApart
    {instructions : List Instruction}
    (executes : empty.executeAll 0 instructions = .ok assembly) :
    ∃ owned, assembly.KeepsApart owned (empty.abandonedAlong 0 instructions) := by
  obtain ⟨pieces, tracks⟩ := empty_tracks.executeAll executes
  exact ⟨_, tracks.keepsApart⟩

/-- A conjunction abandons the states of its operands, and a loop beside it none. -/
theorem exists_keepsApart_of_conjunction_and_loop :
    ∃ assembly owned,
      empty.executeAll 0
          [.atom (.word "a"), .atom (.word "b"), .connect .and,
            .atom (.word "c"), .quantify .star] = .ok assembly ∧
        assembly.stack = [⟨4, [4]⟩, ⟨2, [2]⟩] ∧
        assembly.KeepsApart owned [1, 0] := by
  have executes :
      empty.executeAll 0
          [.atom (.word "a"), .atom (.word "b"), .connect .and,
            .atom (.word "c"), .quantify .star] = .ok _ :=
    rfl
  obtain ⟨owned, apart⟩ := exists_keepsApart executes
  exact ⟨_, owned, executes, rfl, apart⟩

end Assembly

end TokenPattern
