import TokenPattern.Proofs.Progress

namespace TokenPattern

/-!
# Which groups are open

Where each delimiter has its partner, no group is open.  Otherwise the innermost
open group starts at an opening delimiter behind which each delimiter has its
partner.  The groups that the parser keeps are these, with their opening
delimiters.
-/

/-- Lexemes in which each delimiter has its partner. -/
inductive Balanced : List Lexeme → Prop where
  | nothing :
      Balanced []
  | other
      {lexeme : Lexeme}
      {rest : List Lexeme}
      (notOpener : ∀ shape, lexeme.symbol ≠ .opener shape)
      (notCloser : ∀ shape, lexeme.symbol ≠ .closer shape)
      (behind : Balanced rest) :
      Balanced (lexeme :: rest)
  | group
      {shape : Delimiter}
      {opener closer : Lexeme}
      {inside rest : List Lexeme}
      (opens : opener.symbol = .opener shape)
      (closes : closer.symbol = .closer shape)
      (inner : Balanced inside)
      (behind : Balanced rest) :
      Balanced (opener :: (inside ++ closer :: rest))

/-- A group of a shape is the innermost one that is open behind some lexemes. -/
structure InnermostGroup
    (front : List Lexeme)
    (shape : Delimiter)
    (before : List Lexeme)
    (opener : Lexeme)
    (inside : List Lexeme) : Prop where
  parts : front = before ++ opener :: inside
  opens : opener.symbol = .opener shape
  balanced : Balanced inside

namespace Balanced

variable {front back : List Lexeme}

theorem append
    (balanced : Balanced front)
    (others : Balanced back) :
    Balanced (front ++ back) := by
  induction balanced with
  | nothing =>
      exact others
  | other notOpener notCloser _ inductionHypothesis =>
      exact .other notOpener notCloser inductionHypothesis
  | group opens closes inner _ _ inductionHypothesis =>
      rw [List.cons_append, List.append_assoc, List.cons_append]
      exact .group opens closes inner inductionHypothesis

theorem of_blanks (areBlank : ∀ lexeme ∈ front, lexeme.symbol = .blank) :
    Balanced front := by
  induction front with
  | nil =>
      exact .nothing
  | cons first rest inductionHypothesis =>
      obtain ⟨isBlank, restBlank⟩ := List.forall_mem_cons.1 areBlank
      exact .other (by simp [isBlank]) (by simp [isBlank]) (inductionHypothesis restBlank)

end Balanced

/-- The open groups of a parser, with what was read between their opening delimiters. -/
inductive Nested : List OpenGroup → List Lexeme → Prop where
  | nowhere
      {lexemes : List Lexeme}
      (balanced : Balanced lexemes) :
      Nested [] lexemes
  | within
      {group : OpenGroup}
      {groups : List OpenGroup}
      {before inside : List Lexeme}
      {opener : Lexeme}
      (around : Nested groups before)
      (opens : opener.symbol = .opener group.shape)
      (span : group.opener = opener.spanBehind before)
      (balanced : Balanced inside) :
      Nested (group :: groups) (before ++ opener :: inside)

namespace Nested

variable {groups : List OpenGroup}
variable {front back : List Lexeme}

/-- Lexemes with their partners may follow. -/
theorem append
    (nested : Nested groups front)
    (balanced : Balanced back) :
    Nested groups (front ++ back) := by
  cases nested with
  | nowhere before =>
      exact .nowhere (before.append balanced)
  | within around opens span inside =>
      rw [List.append_assoc, List.cons_append]
      exact .within around opens span (inside.append balanced)

variable {parser next last : Parser}
variable {sequence nextSequence lastSequence : Sequence}
variable {lexeme : Lexeme}

/-- Reading a lexeme keeps the open groups with their opening delimiters. -/
theorem advance
    (nested : Nested parser.groups front)
    (offset : parser.offset = Text.width (front.flatMap Lexeme.text))
    (advances : parser.Advances sequence lexeme next nextSequence) :
    Nested next.groups (front ++ [lexeme]) := by
  have other
      (notOpener : ∀ shape, lexeme.symbol ≠ .opener shape)
      (notCloser : ∀ shape, lexeme.symbol ≠ .closer shape) :
      Nested parser.groups (front ++ [lexeme]) :=
    nested.append (.other notOpener notCloser .nothing)
  cases advances with
  | blank symbol | atom symbol | connective symbol | quantifier symbol =>
      exact other (by simp [symbol]) (by simp [symbol])
  | opener symbol =>
      refine .within nested symbol ?_ .nothing
      simp [Parser.spanOf, Lexeme.spanBehind, offset]
  | closer symbol innermost =>
      rw [innermost] at nested
      cases nested with
      | within around opens _ inside =>
          -- With its closing delimiter the group stands among the lexemes around it.
          rw [List.append_assoc, List.cons_append]
          exact around.append (.group opens symbol inside .nothing)

theorem reads
    {lexemes : List Lexeme}
    (nested : Nested parser.groups front)
    (offset : parser.offset = Text.width (front.flatMap Lexeme.text))
    (reads : parser.Reads sequence lexemes last lastSequence) :
    Nested last.groups (front ++ lexemes) := by
  induction reads generalizing front with
  | nothing =>
      simpa using nested
  | lexeme advances _ inductionHypothesis =>
      have offsetNext := advances.next_place.2.1
      rw [offset, Lexeme.width, ← Text.width_append] at offsetNext
      simpa using inductionHypothesis (nested.advance offset advances) (by simpa using offsetNext)

end Nested

namespace Parser

variable {parser next last : Parser}
variable {sequence nextSequence lastSequence : Sequence}
variable {lexeme : Lexeme}
variable {shape : Delimiter}

/-- An opening delimiter opens the innermost group. -/
theorem Advances.groups_of_opener
    (advances : parser.Advances sequence lexeme next nextSequence)
    (opens : lexeme.symbol = .opener shape) :
    next.groups = ⟨shape, parser.spanOf lexeme, sequence.finished⟩ :: parser.groups := by
  cases advances with
  | opener symbol =>
      cases symbol.symm.trans opens
      rfl
  | blank symbol | atom symbol | closer symbol | connective symbol | quantifier symbol =>
      cases symbol.symm.trans opens

/-- A closing delimiter closes the innermost group. -/
theorem Advances.groups_of_closer
    (advances : parser.Advances sequence lexeme next nextSequence)
    (closes : lexeme.symbol = .closer shape) :
    ∃ group, parser.groups = group :: next.groups := by
  cases advances with
  | closer _ innermost =>
      exact ⟨_, innermost⟩
  | blank symbol | atom symbol | opener symbol | connective symbol | quantifier symbol =>
      cases symbol.symm.trans closes

/-- No other lexeme opens or closes a group. -/
theorem Advances.groups_of_other
    (advances : parser.Advances sequence lexeme next nextSequence)
    (notOpener : ∀ shape, lexeme.symbol ≠ .opener shape)
    (notCloser : ∀ shape, lexeme.symbol ≠ .closer shape) :
    next.groups = parser.groups := by
  cases advances with
  | blank | atom | connective | quantifier =>
      rfl
  | opener symbol =>
      exact (notOpener _ symbol).elim
  | closer symbol =>
      exact (notCloser _ symbol).elim

/-- Lexemes with their partners leave the open groups as they were. -/
theorem Reads.groups_of_balanced
    {lexemes : List Lexeme}
    (reads : parser.Reads sequence lexemes last lastSequence)
    (balanced : Balanced lexemes) :
    last.groups = parser.groups := by
  induction balanced generalizing parser sequence last lastSequence with
  | nothing =>
      cases reads
      rfl
  | other notOpener notCloser _ inductionHypothesis =>
      cases reads with
      | lexeme advances reads =>
          rw [inductionHypothesis reads, advances.groups_of_other notOpener notCloser]
  | group opens closes _ _ insideHypothesis behindHypothesis =>
      cases reads with
      | lexeme opensGroup reads =>
          obtain ⟨middle, middleSequence, readsInside, readsOn⟩ := reads.split
          cases readsOn with
          | lexeme closesGroup readsBehind =>
              obtain ⟨group, closed⟩ := closesGroup.groups_of_closer closes
              rw [insideHypothesis readsInside, opensGroup.groups_of_opener opens] at closed
              rw [behindHypothesis readsBehind]
              exact (List.cons.inj closed).2.symm

variable {dialect : Dialect}
variable {pattern : String}
variable {front before inside : List Lexeme}
variable {opener : Lexeme}

theorem nested_of_reads
    (reads : (ofPattern dialect pattern).Reads .empty front last lastSequence) :
    Nested last.groups front := by
  have start : Nested (ofPattern dialect pattern).groups [] := .nowhere .nothing
  simpa using start.reads rfl reads

/-- No group is open exactly where each delimiter has its partner. -/
theorem groups_eq_nil_iff
    (reads : (ofPattern dialect pattern).Reads .empty front last lastSequence) :
    last.groups = [] ↔ Balanced front := by
  constructor
  · intro noGroup
    have nested := nested_of_reads reads
    rw [noGroup] at nested
    cases nested with
    | nowhere balanced =>
        exact balanced
  · exact reads.groups_of_balanced

/-- The parser keeps the shape and the opening delimiter of the innermost open group. -/
theorem exists_groups_of_innermost
    (reads : (ofPattern dialect pattern).Reads .empty front last lastSequence)
    (innermost : InnermostGroup front shape before opener inside) :
    ∃ group outerGroups,
      last.groups = group :: outerGroups ∧
        group.shape = shape ∧
        group.opener = opener.spanBehind before := by
  obtain ⟨rfl, opens, balanced⟩ := innermost
  obtain ⟨middle, middleSequence, readsBefore, readsOn⟩ := reads.split
  cases readsOn with
  | lexeme advances readsInside =>
      refine ⟨_, _, (readsInside.groups_of_balanced balanced).trans
        (advances.groups_of_opener opens), rfl, ?_⟩
      rw [spanOf, offset_of_reads readsBefore]
      rfl

/-- The first group that the parser keeps is the innermost open one. -/
theorem exists_innermost_of_groups
    (reads : (ofPattern dialect pattern).Reads .empty front last lastSequence)
    {group : OpenGroup}
    {outerGroups : List OpenGroup}
    (isFirst : last.groups = group :: outerGroups) :
    ∃ before opener inside,
      InnermostGroup front group.shape before opener inside ∧
        group.opener = opener.spanBehind before := by
  have nested := nested_of_reads reads
  rw [isFirst] at nested
  cases nested with
  | within _ opens span balanced =>
      exact ⟨_, _, _, ⟨rfl, opens, balanced⟩, span⟩

end Parser

end TokenPattern
