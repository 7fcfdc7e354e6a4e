import TokenPattern.Proofs.CanonicalForm
import TokenPattern.Proofs.ProgramErrors
import TokenPattern.Proofs.WellFormed

namespace TokenPattern

/-!
# Regrouped programs

Trees that differ by the grouping of concatenations and conjunctions have the
same layouts, and the layouts of one tree are the same but for their numbers.
Numbers of the canonical form depend on nothing else, so programs of such
trees have the same automaton.
-/

/-- Trees that differ by the grouping of concatenations and conjunctions, anywhere in them. -/
inductive PatternTree.Regroups : PatternTree → PatternTree → Prop where
  | refl (tree : PatternTree) : Regroups tree tree
  | symm {tree other : PatternTree} (regroups : Regroups tree other) : Regroups other tree
  | trans
      {first second third : PatternTree}
      (left : Regroups first second)
      (right : Regroups second third) :
      Regroups first third
  | concat
      {first second otherFirst otherSecond : PatternTree}
      (firsts : Regroups first otherFirst)
      (seconds : Regroups second otherSecond) :
      Regroups (.concat first second) (.concat otherFirst otherSecond)
  | connect
      (operator : Connective)
      {left right otherLeft otherRight : PatternTree}
      (lefts : Regroups left otherLeft)
      (rights : Regroups right otherRight) :
      Regroups (.connect operator left right) (.connect operator otherLeft otherRight)
  | quantify
      (operator : Quantifier)
      {body otherBody : PatternTree}
      (bodies : Regroups body otherBody) :
      Regroups (.quantify operator body) (.quantify operator otherBody)
  | concatAssoc (first second third : PatternTree) :
      Regroups (.concat (.concat first second) third) (.concat first (.concat second third))
  | andAssoc (first second third : PatternTree) :
      Regroups
        (.connect .and (.connect .and first second) third)
        (.connect .and first (.connect .and second third))

/-- Layouts make one of a concatenation if the first leads to the entry of the second. -/
theorem LaidOut.concat_of_entry_eq
    {states : Array State}
    {first second : PatternTree}
    {firstFragment secondFragment : Fragment}
    {entry : Nat}
    {exits firstOwned secondOwned : List Nat}
    (firstLaid : LaidOut states first firstFragment [entry] firstOwned)
    (secondLaid : LaidOut states second secondFragment exits secondOwned)
    (isEntry : secondFragment.entry = entry) :
    LaidOut states (.concat first second) ⟨firstFragment.entry, secondFragment.holes⟩ exits
      (firstOwned ++ secondOwned) := by
  subst isEntry
  exact .concat firstLaid secondLaid

namespace PatternTree

/-- Each conjunction in a tree is one of tests. -/
def Conjoins : PatternTree → Prop
  | .atom _ => True
  | .concat first second => first.Conjoins ∧ second.Conjoins
  | .connect .or left right => left.Conjoins ∧ right.Conjoins
  | .connect .and left right => left.isSingle = true ∧ right.isSingle = true
  | .quantify _ body => body.Conjoins

/-- Within a single test there are no other conjunctions. -/
theorem conjoins_of_isSingle
    {tree : PatternTree}
    (single : tree.isSingle = true) :
    tree.Conjoins := by
  cases tree with
  | atom test =>
      trivial
  | concat first second =>
      cases single
  | connect operator left right =>
      cases operator with
      | or =>
          cases single
      | and =>
          rw [isSingle_and, Bool.and_eq_true] at single
          exact single
  | quantify operator body =>
      cases single

/-- Two programs and an operator behind them are carried out one after the other. -/
theorem singlesAfter?_operands
    {first second : List Instruction}
    {operator : Instruction}
    {stack left : List Bool} :
    singlesAfter? (first ++ second ++ [operator]) stack = some left ↔
      ∃ between both,
        singlesAfter? first stack = some between ∧
          singlesAfter? second between = some both ∧
          operator.onSingles? both = some left := by
  simp [singlesAfter?_append, singlesAfter?, Option.bind_eq_some_iff]

/-- A tree's program leaves one more operand exactly if the tree's conjunctions are of tests. -/
theorem singlesAfter?_program
    (tree : PatternTree)
    (stack left : List Bool) :
    singlesAfter? tree.program stack = some left ↔
      tree.Conjoins ∧ tree.isSingle :: stack = left := by
  induction tree generalizing stack left with
  | atom test =>
      simp [program, singlesAfter?, Instruction.onSingles?, Conjoins, isSingle, tests?]
  | concat first second firstHypothesis secondHypothesis =>
      rw [program, singlesAfter?_operands]
      simp [firstHypothesis, secondHypothesis, Instruction.onSingles?, Conjoins, isSingle,
        tests?, and_assoc]
  | connect operator first second firstHypothesis secondHypothesis =>
      rw [program, singlesAfter?_operands]
      simp only [firstHypothesis, secondHypothesis]
      cases operator with
      | or =>
          simp [Instruction.onSingles?, Conjoins, isSingle, tests?, and_assoc]
      | and =>
          constructor
          · intro runs
            obtain ⟨between, both, ⟨_, rfl⟩, ⟨_, rfl⟩, joins⟩ := runs
            by_cases single : first.isSingle = true ∧ second.isSingle = true
            · rw [Instruction.onSingles?, if_pos single] at joins
              cases joins
              refine ⟨single, ?_⟩
              rw [isSingle_and, single.1, single.2, Bool.and_self]
            · rw [Instruction.onSingles?, if_neg single] at joins
              cases joins
          · intro conjoined
            obtain ⟨single, rfl⟩ := conjoined
            change first.isSingle = true ∧ second.isSingle = true at single
            refine ⟨_, _, ⟨conjoins_of_isSingle single.1, rfl⟩,
              ⟨conjoins_of_isSingle single.2, rfl⟩, ?_⟩
            rw [Instruction.onSingles?, if_pos single, isSingle_and, single.1, single.2,
              Bool.and_self]
  | quantify operator body bodyHypothesis =>
      rw [program, singlesAfter?_append, Option.bind_eq_some_iff]
      simp [bodyHypothesis, singlesAfter?, Instruction.onSingles?, Conjoins, isSingle, tests?]

/-- A program has an automaton exactly if the conjunctions of its tree are of tests. -/
theorem exists_ofProgram_iff_conjoins
    {program : List Instruction}
    {tree : PatternTree}
    (reads : PatternTree.ofProgram? program = some tree)
    (defaultAttribute : String) :
    (∃ automaton, Automaton.ofProgram defaultAttribute program = .ok automaton) ↔
      tree.Conjoins := by
  rw [Automaton.exists_ofProgram_iff, ← ofProgram?_eq_some_iff.1 reads]
  simp [singlesAfter?_program]

namespace Regroups

variable {tree other : PatternTree}

/-- Regrouping keeps the tests of a single token and their order. -/
theorem tests?_eq (regroups : Regroups tree other) : tree.tests? = other.tests? := by
  induction regroups with
  | refl | concat | quantify | concatAssoc =>
      rfl
  | symm _ same =>
      exact same.symm
  | trans _ _ first second =>
      exact first.trans second
  | connect operator _ _ lefts rights =>
      cases operator with
      | or =>
          rfl
      | and =>
          simp only [tests?, lefts, rights]
  | andAssoc first second third =>
      cases firstFound : first.tests? <;> cases secondFound : second.tests? <;>
        cases thirdFound : third.tests? <;>
        simp [tests?, firstFound, secondFound, thirdFound]

/-- Regrouping keeps what conjunctions are of. -/
theorem conjoins_iff (regroups : Regroups tree other) : tree.Conjoins ↔ other.Conjoins := by
  induction regroups with
  | refl =>
      rfl
  | symm _ same =>
      exact same.symm
  | trans _ _ first second =>
      exact first.trans second
  | concat _ _ firsts seconds =>
      exact and_congr firsts seconds
  | connect operator lefts rights leftHypothesis rightHypothesis =>
      cases operator with
      | or =>
          exact and_congr leftHypothesis rightHypothesis
      | and =>
          simp only [Conjoins, isSingle, lefts.tests?_eq, rights.tests?_eq]
  | quantify _ _ same =>
      exact same
  | concatAssoc =>
      exact and_assoc
  | andAssoc =>
      simp only [Conjoins, isSingle_and, Bool.and_eq_true, and_assoc]

/-- Regrouped trees have the same layouts. -/
theorem laidOut_iff
    (regroups : Regroups tree other)
    {states : Array State}
    {fragment : Fragment}
    {exits owned : List Nat} :
    LaidOut states tree fragment exits owned ↔ LaidOut states other fragment exits owned := by
  induction regroups generalizing fragment exits owned with
  | refl =>
      rfl
  | symm _ same =>
      exact same.symm
  | trans _ _ first second =>
      exact first.trans second
  | concat _ _ firsts seconds =>
      constructor
      · intro laid
        cases laid with
        | concat first second => exact .concat (firsts.1 first) (seconds.1 second)
      · intro laid
        cases laid with
        | concat first second => exact .concat (firsts.2 first) (seconds.2 second)
  | connect operator lefts rights leftHypothesis rightHypothesis =>
      have sameTests := tests?_eq (.connect .and lefts rights)
      constructor
      · intro laid
        cases laid with
        | or found left right =>
            exact .or found (leftHypothesis.1 left) (rightHypothesis.1 right)
        | and single found =>
            exact .and (sameTests ▸ single) found
      · intro laid
        cases laid with
        | or found left right =>
            exact .or found (leftHypothesis.2 left) (rightHypothesis.2 right)
        | and single found =>
            exact .and (sameTests ▸ single) found
  | quantify operator _ same =>
      constructor
      · intro laid
        cases laid with
        | maybe found body => exact .maybe found (same.1 body)
        | star found body => exact .star found (same.1 body)
        | plus found body => exact .plus found (same.1 body)
      · intro laid
        cases laid with
        | maybe found body => exact .maybe found (same.2 body)
        | star found body => exact .star found (same.2 body)
        | plus found body => exact .plus found (same.2 body)
  | concatAssoc first second third =>
      constructor
      · intro laid
        cases laid with
        | concat front back =>
            cases front with
            | concat front middle =>
                rw [List.append_assoc]
                have behind := LaidOut.concat middle back
                have whole := LaidOut.concat_of_entry_eq front behind rfl
                exact whole
      · intro laid
        cases laid with
        | concat front back =>
            cases back with
            | concat middle back =>
                rw [← List.append_assoc]
                have before := LaidOut.concat_of_entry_eq front middle rfl
                have whole := LaidOut.concat_of_entry_eq before back rfl
                exact whole
  | andAssoc first second third =>
      have sameTests := tests?_eq (.andAssoc first second third)
      constructor
      · intro laid
        cases laid with
        | and single found => exact .and (sameTests ▸ single) found
      · intro laid
        cases laid with
        | and single found => exact .and (sameTests ▸ single) found

end Regroups

end PatternTree

namespace LaidOut

variable {states others : Array State}
variable {tree : PatternTree}
variable {fragment otherFragment : Fragment}
variable {exits owned otherExits otherOwned : List Nat}
variable {place : Nat → Nat}

/-- Layouts of one tree have equally many states. -/
theorem length_owned_eq
    (laid : LaidOut states tree fragment exits owned)
    (otherLaid : LaidOut others tree otherFragment otherExits otherOwned) :
    owned.length = otherOwned.length := by
  have counts := laid.length_owned
  rw [← otherLaid.length_owned] at counts
  exact Nat.add_right_cancel counts

/-- A renaming of what a layout owns and leads to carries its fragment and its states over. -/
theorem carries
    (laid : LaidOut states tree fragment exits owned)
    (otherLaid : LaidOut others tree otherFragment otherExits otherOwned)
    (sameOwned : owned.map place = otherOwned)
    (sameExits : exits.map place = otherExits) :
    otherFragment = ⟨place fragment.entry, fragment.holes.map place⟩ ∧
      ∀ state ∈ owned,
        others[place state]? = states[state]?.map (·.mapSuccessors place) := by
  induction laid generalizing otherFragment otherExits otherOwned with
  | atom found =>
      cases otherLaid with
      | atom otherFound =>
          obtain ⟨rfl, _⟩ := List.cons.inj sameOwned
          subst sameExits
          refine ⟨rfl, ?_⟩
          intro state isEntry
          cases List.mem_singleton.1 isEntry
          rw [otherFound, found]
          rfl
  | concat firstLaid secondLaid firstHypothesis secondHypothesis =>
      cases otherLaid with
      | concat otherFirst otherSecond =>
          rw [List.map_append] at sameOwned
          obtain ⟨sameFirst, sameSecond⟩ := List.append_inj sameOwned
            ((List.length_map _).trans (firstLaid.length_owned_eq otherFirst))
          obtain ⟨rfl, carriesSecond⟩ := secondHypothesis otherSecond sameSecond sameExits
          obtain ⟨rfl, carriesFirst⟩ := firstHypothesis otherFirst sameFirst rfl
          refine ⟨rfl, ?_⟩
          intro state member
          rcases List.mem_append.1 member with inFirst | inSecond
          · exact carriesFirst state inFirst
          · exact carriesSecond state inSecond
  | or found leftLaid rightLaid leftHypothesis rightHypothesis =>
      cases otherLaid with
      | or otherFound otherLeft otherRight =>
          obtain ⟨rfl, sameOperands⟩ := List.cons.inj sameOwned
          rw [List.map_append] at sameOperands
          obtain ⟨sameLeft, sameRight⟩ := List.append_inj sameOperands
            ((List.length_map _).trans (leftLaid.length_owned_eq otherLeft))
          obtain ⟨rfl, carriesLeft⟩ := leftHypothesis otherLeft sameLeft sameExits
          obtain ⟨rfl, carriesRight⟩ := rightHypothesis otherRight sameRight sameExits
          refine ⟨by simp, ?_⟩
          intro state member
          rcases List.mem_cons.1 member with rfl | inOperands
          · rw [otherFound, found]
            rfl
          · rcases List.mem_append.1 inOperands with inLeft | inRight
            · exact carriesLeft state inLeft
            · exact carriesRight state inRight
  | and single found =>
      cases otherLaid with
      | and otherSingle otherFound =>
          cases single.symm.trans otherSingle
          obtain ⟨rfl, _⟩ := List.cons.inj sameOwned
          subst sameExits
          refine ⟨rfl, ?_⟩
          intro state isEntry
          cases List.mem_singleton.1 isEntry
          rw [otherFound, found]
          rfl
  | maybe found bodyLaid bodyHypothesis =>
      cases otherLaid with
      | maybe otherFound otherBody =>
          obtain ⟨rfl, sameBody⟩ := List.cons.inj sameOwned
          obtain ⟨rfl, carriesBody⟩ := bodyHypothesis otherBody sameBody sameExits
          subst sameExits
          refine ⟨by simp, ?_⟩
          intro state member
          rcases List.mem_cons.1 member with rfl | inBody
          · rw [otherFound, found]
            rfl
          · exact carriesBody state inBody
  | star found bodyLaid bodyHypothesis =>
      cases otherLaid with
      | star otherFound otherBody =>
          obtain ⟨rfl, sameBody⟩ := List.cons.inj sameOwned
          obtain ⟨rfl, carriesBody⟩ := bodyHypothesis otherBody sameBody rfl
          subst sameExits
          refine ⟨rfl, ?_⟩
          intro state member
          rcases List.mem_cons.1 member with rfl | inBody
          · rw [otherFound, found]
            rfl
          · exact carriesBody state inBody
  | plus found bodyLaid bodyHypothesis =>
      cases otherLaid with
      | plus otherFound otherBody =>
          obtain ⟨rfl, sameBody⟩ := List.cons.inj sameOwned
          obtain ⟨rfl, carriesBody⟩ := bodyHypothesis otherBody sameBody rfl
          subst sameExits
          refine ⟨rfl, ?_⟩
          intro state member
          rcases List.mem_cons.1 member with rfl | inBody
          · rw [otherFound, found]
            rfl
          · exact carriesBody state inBody

end LaidOut

/-- Lists of the same length are the same but for a renaming if the first has no duplicates. -/
theorem exists_map_eq
    {items images : List Nat}
    (noDuplicates : items.Nodup)
    (sameLength : items.length = images.length) :
    ∃ place : Nat → Nat, items.map place = images := by
  induction items generalizing images with
  | nil =>
      exact ⟨id, (List.length_eq_zero_iff.1 sameLength.symm).symm⟩
  | cons first rest inductionHypothesis =>
      obtain ⟨notInRest, restNodup⟩ := List.nodup_cons.1 noDuplicates
      cases images with
      | nil =>
          cases sameLength
      | cons image restImages =>
          obtain ⟨place, isPlaced⟩ :=
            inductionHypothesis restNodup (Nat.succ.inj sameLength)
          refine ⟨Function.update place first image, ?_⟩
          rw [List.map_cons, Function.update_self, ← isPlaced]
          apply congrArg
          apply List.map_congr_left
          intro item isRest
          exact Function.update_of_ne (ne_of_mem_of_not_mem isRest notInRest) _ _

namespace Automaton

variable {automaton other : Automaton}
variable {tree : PatternTree}
variable {holes owned otherHoles otherOwned : List Nat}

/-- Automata that embody one tree are the same but for the numbers of their states. -/
theorem Embodies.exists_carriedOver
    (embodies : automaton.Embodies tree holes owned)
    (otherEmbodies : other.Embodies tree otherHoles otherOwned) :
    ∃ place,
      place automaton.start = other.start ∧
        CarriedOver automaton.states {state | state < automaton.size}
          other.states {state | state < other.size} place := by
  have sameLength :
      (automaton.accept :: owned).length = (other.accept :: otherOwned).length :=
    congrArg Nat.succ (embodies.laidOut.length_owned_eq otherEmbodies.laidOut)
  obtain ⟨place, places⟩ := exists_map_eq embodies.nodup sameLength
  obtain ⟨acceptPlaced, ownedPlaced⟩ := List.cons.inj places
  obtain ⟨sameFragment, carries⟩ :=
    embodies.laidOut.carries otherEmbodies.laidOut ownedPlaced
      (congrArg (fun accept => [accept]) acceptPlaced)
  have isState (state : Nat) :
      state < automaton.size ↔ state ∈ automaton.accept :: owned := by
    rw [embodies.mem_iff, List.mem_cons]
  have isOtherState (state : Nat) :
      state < other.size ↔ ∃ origin ∈ automaton.accept :: owned, place origin = state := by
    rw [otherEmbodies.mem_iff, ← List.mem_cons, ← places, List.mem_map]
  refine ⟨place, (congrArg Fragment.entry sameFragment).symm, ⟨?_, ?_, ?_⟩, ?_⟩
  · intro state inRange
    exact (isOtherState _).2 ⟨state, (isState state).1 inRange, rfl⟩
  · intro first firstInRange second secondInRange same
    have apart : ((automaton.accept :: owned).map place).Nodup := by
      rw [places]
      exact otherEmbodies.nodup
    exact List.inj_on_of_nodup_map apart ((isState first).1 firstInRange)
      ((isState second).1 secondInRange) same
  · intro state inRange
    obtain ⟨origin, isOrigin, isPlace⟩ := (isOtherState state).1 inRange
    exact ⟨origin, (isState origin).2 isOrigin, isPlace⟩
  · intro number inRange
    rcases (embodies.mem_iff number).1 inRange with rfl | isOwned
    · rw [acceptPlaced, embodies.final, otherEmbodies.final]
      rfl
    · exact carries number isOwned

/-- What embodies a tree embodies the regrouped trees. -/
theorem Embodies.regroup
    {regrouped : PatternTree}
    (embodies : automaton.Embodies tree holes owned)
    (regroups : tree.Regroups regrouped) :
    automaton.Embodies regrouped holes owned :=
  { embodies with laidOut := regroups.laidOut_iff.1 embodies.laidOut }

section Regrouped

variable {first second : List Instruction}
variable {firstTree secondTree : PatternTree}

/-- Automata of programs whose trees differ by grouping are equal. -/
theorem eq_of_regroups
    (firstReads : PatternTree.ofProgram? first = some firstTree)
    (secondReads : PatternTree.ofProgram? second = some secondTree)
    (regroups : firstTree.Regroups secondTree)
    {defaultAttribute : String}
    (firstBuilt : ofProgram defaultAttribute first = .ok automaton)
    (secondBuilt : ofProgram defaultAttribute second = .ok other) :
    automaton = other := by
  obtain ⟨_, _, _, firstIsTree, embodies, sameAttribute⟩ := ofProgram_embodies firstBuilt
  cases firstReads.symm.trans firstIsTree
  obtain ⟨_, _, _, secondIsTree, otherEmbodies, otherSameAttribute⟩ :=
    ofProgram_embodies secondBuilt
  cases secondReads.symm.trans secondIsTree
  obtain ⟨place, start, carried⟩ :=
    (embodies.regroup regroups).exists_carriedOver otherEmbodies
  have inOrder := ofProgram_inWalkOrder firstBuilt
  have otherInOrder := ofProgram_inWalkOrder secondBuilt
  exact inOrder.eq_of_carriedOver otherInOrder
    (otherSameAttribute.trans sameAttribute.symm) start carried

/-- Programs whose trees differ by grouping have the same automaton, or neither has one. -/
theorem ofProgram_regroups
    (firstReads : PatternTree.ofProgram? first = some firstTree)
    (secondReads : PatternTree.ofProgram? second = some secondTree)
    (regroups : firstTree.Regroups secondTree)
    (defaultAttribute : String)
    (automaton : Automaton) :
    ofProgram defaultAttribute first = .ok automaton ↔
      ofProgram defaultAttribute second = .ok automaton := by
  have bothBuild :
      (∃ automaton, ofProgram defaultAttribute first = .ok automaton) ↔
        ∃ automaton, ofProgram defaultAttribute second = .ok automaton := by
    rw [PatternTree.exists_ofProgram_iff_conjoins firstReads,
      PatternTree.exists_ofProgram_iff_conjoins secondReads]
    exact regroups.conjoins_iff
  constructor
  · intro built
    obtain ⟨other, otherBuilt⟩ := bothBuild.1 ⟨automaton, built⟩
    rwa [eq_of_regroups firstReads secondReads regroups built otherBuilt]
  · intro built
    obtain ⟨other, otherBuilt⟩ := bothBuild.2 ⟨automaton, built⟩
    rwa [← eq_of_regroups firstReads secondReads regroups otherBuilt built]

end Regrouped

/-- A sequence and a conjunction of three, grouped from the left, any number of times. -/
def leftGrouped : List Instruction :=
  [.atom (.word "a"), .atom (.word "b"), .concat, .atom (.word "c"), .concat,
    .atom (.word "d"), .atom (.word "e"), .connect .and,
    .atom (.attributeIs "tag" (.literal "f")), .connect .and, .concat, .quantify .star]

/-- The same sequence and conjunction, grouped from the right. -/
def rightGrouped : List Instruction :=
  [.atom (.word "a"), .atom (.word "b"), .atom (.word "c"),
    .atom (.word "d"), .atom (.word "e"), .atom (.attributeIs "tag" (.literal "f")),
    .connect .and, .connect .and, .concat, .concat, .concat, .quantify .star]

/-- However it is grouped, the repeated sequence has one automaton. -/
theorem ofProgram_leftGrouped_rightGrouped :
    ∃ automaton,
      ofProgram "word" leftGrouped = .ok automaton ∧
        ofProgram "word" rightGrouped = .ok automaton := by
  have leftReads :
      ∃ tree, PatternTree.ofProgram? leftGrouped = some tree ∧ tree.Conjoins :=
    ⟨_, rfl, by simp [PatternTree.Conjoins, PatternTree.isSingle, PatternTree.tests?]⟩
  obtain ⟨tree, reads, conjoins⟩ := leftReads
  obtain ⟨automaton, built⟩ :=
    (PatternTree.exists_ofProgram_iff_conjoins reads "word").2 conjoins
  refine ⟨automaton, built, ?_⟩
  refine (ofProgram_regroups rfl rfl (.quantify .star ?_) "word" automaton).1 built
  -- First the two outer concatenations are regrouped, then the conjunction behind them.
  refine .trans (.concatAssoc _ _ _) (.trans (.concatAssoc _ _ _) ?_)
  exact .concat (.refl _) (.concat (.refl _) (.concat (.refl _) (.andAssoc _ _ _)))

end Automaton

end TokenPattern
