import TokenPattern.Proofs.Embodiment
import TokenPattern.Proofs.Threads

namespace TokenPattern

/-!
# Layouts recognize the languages of their trees

A walk through a layout, from its entry to an exit, reads a word of the tree's
language, and each such word can be read by a walk.
-/

/-- The tokens from one position up to another one are a word. -/
structure Spells
    {ρ : Type}
    (tokens : Array ρ)
    (start : Nat)
    (word : List ρ)
    (stop : Nat) : Prop where
  stop_eq : stop = start + word.length
  text : tokens.toList.drop start = word ++ tokens.toList.drop stop

namespace Spells

variable {ρ : Type}
variable {tokens : Array ρ}
variable {start middle stop : Nat}

/-- The empty word does not move. -/
theorem nil : Spells tokens start [] start where
  stop_eq := rfl
  text := rfl

/-- Words side by side are one word. -/
theorem append
    {front back : List ρ}
    (spellsFront : Spells tokens start front middle)
    (spellsBack : Spells tokens middle back stop) :
    Spells tokens start (front ++ back) stop where
  stop_eq := by
    rw [spellsBack.stop_eq, spellsFront.stop_eq, List.length_append,
      Nat.add_assoc]
  text := by
    rw [spellsFront.text, spellsBack.text, List.append_assoc]

/-- A word of two parts can be cut between them. -/
theorem split
    {front back : List ρ}
    (spells : Spells tokens start (front ++ back) stop) :
    Spells tokens start front (start + front.length) ∧
      Spells tokens (start + front.length) back stop := by
  have atMiddle :
      tokens.toList.drop (start + front.length) =
        back ++ tokens.toList.drop stop := by
    rw [← List.drop_drop, spells.text]
    simp
  refine ⟨⟨rfl, ?_⟩, ⟨?_, atMiddle⟩⟩
  · rw [atMiddle, spells.text, List.append_assoc]
  · rw [spells.stop_eq, List.length_append, Nat.add_assoc]

/-- A word of one token is the token at its position. -/
theorem singleton_iff
    {token : ρ} :
    Spells tokens start [token] stop ↔
      tokens[start]? = some token ∧ stop = start + 1 := by
  constructor
  · intro spells
    refine ⟨?_, spells.stop_eq⟩
    rw [← Array.getElem?_toList, ← List.head?_drop, spells.text]
    rfl
  · rintro ⟨found, rfl⟩
    obtain ⟨inRange, rfl⟩ := Array.getElem?_eq_some_iff.1 found
    refine ⟨rfl, ?_⟩
    rw [List.drop_eq_getElem_cons (by simpa using inRange)]
    simp

/-- The word from the beginning up to a position in range is known. -/
theorem zero_iff
    {word : List ρ}
    (inRange : stop ≤ tokens.size) :
    Spells tokens 0 word stop ↔ word = tokens.toList.take stop := by
  constructor
  · intro spells
    have same := spells.text
    rw [List.drop_zero, spells.stop_eq, Nat.zero_add] at same
    rw [spells.stop_eq, Nat.zero_add, same]
    simp
  · rintro rfl
    refine ⟨?_, by simp⟩
    simpa using inRange

end Spells

variable {ρ : Type} [Record ρ]
variable {dialect : Dialect}
variable {automaton : Automaton}
variable {tokens : Array ρ}

/--
From a state that branches into a body and past it, any number of words of the
body can be read before coming back to that state.
-/
theorem Automaton.Connects.loop
    {hub bodyEntry : Nat}
    {tag : String}
    {exits : List Nat}
    {language : Language ρ}
    (found :
      automaton.states[hub]? = some (.branching tag (bodyEntry :: exits)))
    (bodyConnects :
      ∀ {word start stop},
        word ∈ language →
        Spells tokens start word stop →
        automaton.Connects dialect tokens ⟨start, bodyEntry⟩ ⟨stop, hub⟩)
    {words : List (List ρ)}
    (inLanguage : ∀ word ∈ words, word ∈ language)
    {start stop : Nat}
    (spells : Spells tokens start words.flatten stop) :
    automaton.Connects dialect tokens ⟨start, hub⟩ ⟨stop, hub⟩ := by
  induction words generalizing start with
  | nil =>
      rw [show stop = start from spells.stop_eq]
      exact .refl _
  | cons word rest inductionHypothesis =>
      rw [List.flatten_cons] at spells
      obtain ⟨wordSpells, restSpells⟩ := spells.split
      have bodyRead :=
        bodyConnects (inLanguage word List.mem_cons_self) wordSpells
      have restRead := inductionHypothesis
        (fun other member => inLanguage other (List.mem_cons_of_mem _ member))
        restSpells
      exact ((Automaton.Connects.of_branching found List.mem_cons_self).trans
        bodyRead).trans restRead

namespace LaidOut

variable {tree : PatternTree}
variable {fragment : Fragment}
variable {exits owned : List Nat}

/-- Each word of the tree's language leads from the entry to each exit. -/
theorem connects
    (laid : LaidOut automaton.states tree fragment exits owned)
    {word : List ρ}
    (inLanguage : word ∈ tree.language ρ dialect automaton.defaultAttribute)
    {start stop exit : Nat}
    (spells : Spells tokens start word stop)
    (isExit : exit ∈ exits) :
    automaton.Connects dialect tokens ⟨start, fragment.entry⟩ ⟨stop, exit⟩ := by
  induction laid generalizing word start stop exit with
  | atom found =>
      obtain ⟨record, rfl, holds⟩ := inLanguage
      obtain ⟨next, rfl⟩ := Spells.singleton_iff.1 spells
      exact .of_move (.consume found next
        (Predicate.outcome_atom_eq_pass_iff.2 holds) isExit)
  | and single found =>
      obtain ⟨record, rfl, hold⟩ :=
        (PatternTree.mem_language_of_tests? single word).1 inLanguage
      obtain ⟨next, rfl⟩ := Spells.singleton_iff.1 spells
      exact .of_move (.consume found next
        (Predicate.outcome_conjunction_eq_pass_iff.2 hold) isExit)
  | concat firstLaid secondLaid firstHypothesis secondHypothesis =>
      obtain ⟨front, inFirst, back, inSecond, rfl⟩ :=
        Language.mem_mul.1 inLanguage
      obtain ⟨frontSpells, backSpells⟩ := spells.split
      exact (firstHypothesis inFirst frontSpells List.mem_cons_self).trans
        (secondHypothesis inSecond backSpells isExit)
  | or found leftLaid rightLaid leftHypothesis rightHypothesis =>
      rcases inLanguage with inLeft | inRight
      · exact (Automaton.Connects.of_branching found (by simp)).trans
          (leftHypothesis inLeft spells isExit)
      · exact (Automaton.Connects.of_branching found (by simp)).trans
          (rightHypothesis inRight spells isExit)
  | maybe found bodyLaid bodyHypothesis =>
      rcases inLanguage with isEmpty | inBody
      · rw [(Language.mem_one word).1 isEmpty] at spells
        rw [show stop = start from spells.stop_eq]
        exact .of_branching found (List.mem_cons_of_mem _ isExit)
      · exact (Automaton.Connects.of_branching found List.mem_cons_self).trans
          (bodyHypothesis inBody spells isExit)
  | star found bodyLaid bodyHypothesis =>
      obtain ⟨words, rfl, inBody⟩ := Language.mem_kstar.1 inLanguage
      have loops := Automaton.Connects.loop found
        (fun inBody spells => bodyHypothesis inBody spells List.mem_cons_self)
        inBody spells
      exact loops.trans (.of_branching found (List.mem_cons_of_mem _ isExit))
  | plus found bodyLaid bodyHypothesis =>
      obtain ⟨front, inFront, back, inBack, rfl⟩ :=
        Language.mem_mul.1 inLanguage
      obtain ⟨words, rfl, inBody⟩ := Language.mem_kstar.1 inBack
      obtain ⟨frontSpells, backSpells⟩ := spells.split
      have loops := Automaton.Connects.loop found
        (fun inBody spells => bodyHypothesis inBody spells List.mem_cons_self)
        inBody backSpells
      exact ((bodyHypothesis inFront frontSpells List.mem_cons_self).trans
        loops).trans (.of_branching found (List.mem_cons_of_mem _ isExit))

end LaidOut

/--
What is left of a walk when it comes to one of the exits: it has read a word of
the language, and no more moves remain than there were.
-/
def ReadsTo
    (dialect : Dialect)
    (automaton : Automaton)
    (tokens : Array ρ)
    (language : Language ρ)
    (exits : List Nat)
    (moves start : Nat)
    (goal : Thread) : Prop :=
  ∃ word ∈ language, ∃ exit ∈ exits, ∃ stop rest,
    rest ≤ moves ∧
      Spells tokens start word stop ∧
      automaton.Walk dialect tokens rest ⟨stop, exit⟩ goal

/--
A walk that starts at a state which branches into a body and past it, and that
goes on behind that state, has read a number of words of the body.
-/
theorem ReadsTo.loop
    {hub bodyEntry : Nat}
    {tag : String}
    {exits : List Nat}
    {language : Language ρ}
    {goal : Thread}
    (found :
      automaton.states[hub]? = some (.branching tag (bodyEntry :: exits)))
    (leaves : goal.state ≠ hub)
    (bodyReads :
      ∀ {moves start},
        automaton.Walk dialect tokens moves ⟨start, bodyEntry⟩ goal →
        ReadsTo dialect automaton tokens language [hub] moves start goal)
    {moves start : Nat}
    (walk : automaton.Walk dialect tokens moves ⟨start, hub⟩ goal) :
    ReadsTo dialect automaton tokens (KStar.kstar language) exits moves start
      goal := by
  -- The body may take no token, so the induction is on the moves that remain.
  induction moves using Nat.strong_induction_on generalizing start with
  | _ moves inductionHypothesis =>
      cases walk with
      | here =>
          exact (leaves rfl).elim
      | @move remaining _ next _ head walkRest =>
          obtain ⟨target, edge, rfl⟩ :=
            (Automaton.move_branching_iff found).1 head
          rcases List.mem_cons.1 edge with rfl | isExit
          · obtain ⟨word, inBody, back, backIsHub, middle, left, leftLe,
              wordSpells, walkLeft⟩ := bodyReads walkRest
            rw [List.mem_singleton.1 backIsHub] at walkLeft
            obtain ⟨words, inStar, exit, isExit, stop, rest, restLe,
              wordsSpell, walkOn⟩ :=
              inductionHypothesis left (Nat.lt_succ_of_le leftLe) walkLeft
            refine ⟨word ++ words, ?_, exit, isExit, stop, rest,
              by omega, wordSpells.append wordsSpell, walkOn⟩
            obtain ⟨parts, rfl, inLanguage⟩ := Language.mem_kstar.1 inStar
            exact Language.join_mem_kstar (List.forall_mem_cons.2
              ⟨inBody, inLanguage⟩)
          · exact ⟨[], Language.nil_mem_kstar language, target, isExit, start,
              remaining, Nat.le_succ remaining, .nil, walkRest⟩

namespace LaidOut

variable {tree : PatternTree}
variable {fragment : Fragment}
variable {exits owned : List Nat}

/-- A walk that leaves a layout has read a word of the tree's language. -/
theorem readsTo
    (laid : LaidOut automaton.states tree fragment exits owned)
    {moves start : Nat}
    {goal : Thread}
    (leaves : goal.state ∉ owned)
    (walk :
      automaton.Walk dialect tokens moves ⟨start, fragment.entry⟩ goal) :
    ReadsTo dialect automaton tokens
      (tree.language ρ dialect automaton.defaultAttribute) exits moves start
      goal := by
  induction laid generalizing moves start with
  | atom found =>
      cases walk with
      | here =>
          simp at leaves
      | move head rest =>
          obtain ⟨token, next, passes, target, edge, rfl⟩ :=
            (Automaton.move_consuming_iff found (by simp)).1 head
          exact ⟨[token],
            ⟨token, rfl, Predicate.outcome_atom_eq_pass_iff.1 passes⟩,
            target, edge, start + 1, _, Nat.le_succ _,
            Spells.singleton_iff.2 ⟨next, rfl⟩, rest⟩
  | and single found =>
      cases walk with
      | here =>
          simp at leaves
      | move head rest =>
          obtain ⟨token, next, passes, target, edge, rfl⟩ :=
            (Automaton.move_consuming_iff found (by simp)).1 head
          exact ⟨[token],
            (PatternTree.mem_language_of_tests? single [token]).2
              ⟨token, rfl,
                Predicate.outcome_conjunction_eq_pass_iff.1 passes⟩,
            target, edge, start + 1, _, Nat.le_succ _,
            Spells.singleton_iff.2 ⟨next, rfl⟩, rest⟩
  | concat firstLaid secondLaid firstHypothesis secondHypothesis =>
      rw [List.mem_append, not_or] at leaves
      obtain ⟨front, inFirst, between, isSecondEntry, middle, left, leftLe,
        frontSpells, walkLeft⟩ := firstHypothesis leaves.1 walk
      rw [List.mem_singleton.1 isSecondEntry] at walkLeft
      obtain ⟨back, inSecond, exit, isExit, stop, rest, restLe, backSpells,
        walkOn⟩ := secondHypothesis leaves.2 walkLeft
      exact ⟨front ++ back, Language.append_mem_mul inFirst inSecond, exit,
        isExit, stop, rest, Nat.le_trans restLe leftLe,
        frontSpells.append backSpells, walkOn⟩
  | or found leftLaid rightLaid leftHypothesis rightHypothesis =>
      simp only [List.mem_cons, List.mem_append, not_or] at leaves
      cases walk with
      | here =>
          exact (leaves.1 rfl).elim
      | move head walkRest =>
          obtain ⟨target, edge, rfl⟩ :=
            (Automaton.move_branching_iff found).1 head
          simp only [List.mem_cons, List.not_mem_nil, or_false] at edge
          rcases edge with rfl | rfl
          · obtain ⟨word, inLeft, exit, isExit, stop, rest, restLe, spells,
              walkOn⟩ := leftHypothesis leaves.2.1 walkRest
            exact ⟨word, .inl inLeft, exit, isExit, stop, rest,
              Nat.le_succ_of_le restLe, spells, walkOn⟩
          · obtain ⟨word, inRight, exit, isExit, stop, rest, restLe, spells,
              walkOn⟩ := rightHypothesis leaves.2.2 walkRest
            exact ⟨word, .inr inRight, exit, isExit, stop, rest,
              Nat.le_succ_of_le restLe, spells, walkOn⟩
  | maybe found bodyLaid bodyHypothesis =>
      simp only [List.mem_cons, not_or] at leaves
      cases walk with
      | here =>
          exact (leaves.1 rfl).elim
      | move head walkRest =>
          obtain ⟨target, edge, rfl⟩ :=
            (Automaton.move_branching_iff found).1 head
          rcases List.mem_cons.1 edge with rfl | isExit
          · obtain ⟨word, inBody, exit, isExit, stop, rest, restLe, spells,
              walkOn⟩ := bodyHypothesis leaves.2 walkRest
            exact ⟨word, .inr inBody, exit, isExit, stop, rest,
              Nat.le_succ_of_le restLe, spells, walkOn⟩
          · exact ⟨[], .inl rfl, target, isExit, start, _, Nat.le_succ _, .nil,
              walkRest⟩
  | star found bodyLaid bodyHypothesis =>
      simp only [List.mem_cons, not_or] at leaves
      exact ReadsTo.loop found leaves.1 (bodyHypothesis leaves.2) walk
  | plus found bodyLaid bodyHypothesis =>
      simp only [List.mem_cons, not_or] at leaves
      obtain ⟨front, inBody, between, isHub, middle, left, leftLe, frontSpells,
        walkLeft⟩ := bodyHypothesis leaves.2 walk
      rw [List.mem_singleton.1 isHub] at walkLeft
      obtain ⟨back, inStar, exit, isExit, stop, rest, restLe, backSpells,
        walkOn⟩ :=
        ReadsTo.loop found leaves.1 (bodyHypothesis leaves.2) walkLeft
      exact ⟨front ++ back, Language.append_mem_mul inBody inStar, exit, isExit,
        stop, rest, Nat.le_trans restLe leftLe, frontSpells.append backSpells,
        walkOn⟩

end LaidOut

end TokenPattern
