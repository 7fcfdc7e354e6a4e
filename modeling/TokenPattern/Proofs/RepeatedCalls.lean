import TokenPattern.Proofs.ParserPlace

namespace TokenPattern

/-!
# Repeated calls settle down

Each call of a parser either leaves less to do, in text that is not read and in
groups that are open, or finds nothing that it can do: then it leaves the parser
as it was, and all later calls end in the same way.  A pattern bounds what there
is to do, so that this happens after a number of calls that the pattern bounds.
-/

namespace Parser

/-- What is left to do: twice the bytes that are not read and the groups that are open. -/
def remaining (parser : Parser) : Nat :=
  2 * Text.width (parser.pending.flatMap Lexeme.text) + parser.groups.length

/-- A parser whose next call fails and changes nothing. -/
def Rests (parser : Parser) : Prop :=
  ∃ error, parser.parse = (.error error, parser)

/-- At the beginning all of the pattern is left. -/
theorem remaining_ofPattern (dialect : Dialect) (pattern : String) :
    (ofPattern dialect pattern).remaining = 2 * pattern.utf8ByteSize := by
  simp [remaining, ofPattern, Lexeme.text_lexemes, Text.width_eq_utf8ByteSize]

variable {dialect : Dialect}
variable {pattern : String}
variable {parser next left : Parser}
variable {sequence nextSequence : Sequence}
variable {lexeme : Lexeme}
variable {back : List Lexeme}
variable {error : SyntaxError}

/-- A parser behind the next lexeme has less to do, even if it opened a group. -/
theorem InText.remaining_behind
    (inText : parser.InText dialect pattern)
    (isNext : parser.pending = lexeme :: back)
    {groups : List OpenGroup}
    (opened : groups.length ≤ parser.groups.length + 1)
    (emitted : List Instruction)
    (preceding : Preceding) :
    (parser.behind lexeme groups emitted preceding).remaining < parser.remaining := by
  obtain ⟨first, rest, isLexeme, _⟩ := inText.exists_cut isNext
  have positive : 0 < Text.width lexeme.text :=
    Text.width_pos (isLexeme ▸ Lexeme.text_cut_ne_nil dialect first rest)
  simp only [remaining, Parser.behind, isNext, List.tail_cons, List.flatMap_cons,
    Text.width_append]
  omega

/-- Reading a lexeme leaves less to do. -/
theorem InText.remaining_advances
    (inText : parser.InText dialect pattern)
    (isNext : parser.pending = lexeme :: back)
    (advances : parser.Advances sequence lexeme next nextSequence) :
    next.remaining < parser.remaining := by
  cases advances with
  | blank | atom | connective | quantifier =>
      exact inText.remaining_behind isNext (Nat.le_succ _) _ _
  | opener =>
      exact inText.remaining_behind isNext (Nat.le_refl _) _ _
  | closer _ innermost =>
      apply inText.remaining_behind isNext
      simp only [innermost, List.length_cons]
      omega

/-- Giving up a group leaves less to do, whatever was emitted. -/
theorem remaining_give_up
    {group : OpenGroup}
    {outerGroups : List OpenGroup}
    (innermost : parser.groups = group :: outerGroups)
    (emitted : List Instruction) :
    ({ parser with groups := outerGroups, emitted := emitted } : Parser).remaining <
      parser.remaining := by
  simp only [remaining, innermost, List.length_cons]
  omega

/-- Stopping at a lexeme leaves less to do, or it changes nothing but what was emitted. -/
theorem InText.stopsAt_cases
    (inText : parser.InText dialect pattern)
    (isNext : parser.pending = lexeme :: back)
    (stops : parser.StopsAt sequence lexeme error left) :
    left.remaining < parser.remaining ∨
      ∃ emitted,
        left = { parser with emitted := emitted } ∧
          (sequence = .empty → emitted = parser.emitted) := by
  cases stops with
  | stray | quantifier | outsideBracket | noLeftOperand =>
      exact .inr ⟨parser.emitted, rfl, fun _ => rfl⟩
  | unopened =>
      -- The pending term is finished, if there is one.
      refine .inr ⟨_, rfl, ?_⟩
      rintro rfl
      rfl
  | broken =>
      exact .inl (inText.remaining_behind isNext (Nat.le_succ _) _ _)
  | mismatch _ innermost =>
      exact .inl (remaining_give_up innermost _)
  | emptyGroup _ innermost =>
      apply Or.inl
      apply inText.remaining_behind isNext
      simp only [innermost, List.length_cons]
      omega

/-- Ending with the text leaves less to do, or it changes nothing but what was emitted. -/
theorem endsWith_cases
    {result : Except SyntaxError (List Instruction)}
    (ends : parser.EndsWith sequence result left) :
    left.remaining < parser.remaining ∨
      ∃ emitted,
        left = { parser with emitted := emitted } ∧
          (sequence = .empty →
            emitted = parser.emitted ∧ ∃ error, result = .error error) := by
  cases ends with
  | unclosed innermost =>
      exact .inl (remaining_give_up innermost _)
  | empty =>
      exact .inr ⟨parser.emitted, rfl, fun _ => ⟨rfl, _, rfl⟩⟩
  | complete _ nonempty =>
      refine .inr ⟨[], rfl, ?_⟩
      rintro rfl
      exact (nonempty rfl).elim

/-- A call that has read something has less to do. -/
theorem Passes.start_or_lt
    (passes : parser.Passes next nextSequence)
    (inText : parser.InText dialect pattern) :
    (next = parser ∧ nextSequence = .empty) ∨ next.remaining < parser.remaining := by
  induction passes with
  | start =>
      exact .inl ⟨rfl, rfl⟩
  | step passes isNext goesOn inductionHypothesis =>
      have less := (passes.inText inText).remaining_advances isNext (advances_of_step goesOn)
      rcases inductionHypothesis with ⟨rfl, _⟩ | before
      · exact .inr less
      · exact .inr (less.trans before)

/-- A call leaves less to do, or it fails and changes nothing. -/
theorem InText.rests_or_lt (inText : parser.InText dialect pattern) :
    parser.Rests ∨ parser.parse.2.remaining < parser.remaining := by
  obtain ⟨final, finalSequence, passes, ends⟩ := parser.parse_ends
  have ended :
      parser.parse.2.remaining < final.remaining ∨
        ∃ emitted,
          parser.parse.2 = { final with emitted := emitted } ∧
            (finalSequence = .empty →
              emitted = final.emitted ∧ ∃ error, parser.parse.1 = .error error) := by
    rcases ends with ⟨_, ends⟩ | ⟨lexeme, back, error, isNext, isError, stops⟩
    · exact endsWith_cases ends
    · apply ((passes.inText inText).stopsAt_cases isNext stops).imp_right
      rintro ⟨emitted, same, unchanged⟩
      exact ⟨emitted, same, fun isEmpty => ⟨unchanged isEmpty, error, isError⟩⟩
  rcases passes.start_or_lt inText with ⟨rfl, rfl⟩ | before
  · rcases ended with less | ⟨_, same, unchanged⟩
    · exact .inr less
    · -- The call ends where it started.
      obtain ⟨rfl, error, isError⟩ := unchanged rfl
      exact .inl ⟨error, Prod.ext isError same⟩
  · rcases ended with less | ⟨_, same, _⟩
    · exact .inr (less.trans before)
    · exact .inr (same ▸ before)

/-- A parser that rests is left as it is by any number of calls. -/
theorem Rests.afterCalls_eq
    (rests : parser.Rests)
    (calls : Nat) :
    parser.afterCalls calls = parser := by
  obtain ⟨error, same⟩ := rests
  exact Function.iterate_fixed (congrArg Prod.snd same) calls

theorem afterCalls_add (parser : Parser) (first more : Nat) :
    parser.afterCalls (first + more) = (parser.afterCalls first).afterCalls more := by
  rw [afterCalls, Nat.add_comm, Function.iterate_add_apply]
  rfl

/-- With each call there is less left to do, until the parser rests. -/
theorem InText.rests_or_le
    (inText : parser.InText dialect pattern)
    (calls : Nat) :
    (parser.afterCalls calls).Rests ∨
      (parser.afterCalls calls).remaining + calls ≤ parser.remaining := by
  induction calls with
  | zero =>
      exact .inr (Nat.le_refl _)
  | succ calls inductionHypothesis =>
      simp only [afterCalls_succ]
      by_cases rests : (parser.afterCalls calls).Rests
      · have same : (parser.afterCalls calls).parse.2 = parser.afterCalls calls :=
          rests.afterCalls_eq 1
        exact .inl (by rwa [same])
      · have before := inductionHypothesis.resolve_left rests
        have less := (inText.afterCalls calls).rests_or_lt.resolve_left rests
        exact .inr (by omega)

/-- After as many calls as there is to do at first the parser rests. -/
theorem InText.rests_afterCalls
    (inText : parser.InText dialect pattern)
    {calls : Nat}
    (enough : parser.remaining ≤ calls) :
    (parser.afterCalls calls).Rests := by
  rcases inText.rests_or_le calls with rests | nothing
  · exact rests
  · apply (inText.afterCalls calls).rests_or_lt.resolve_right
    omega

/-- At the end of the text, with no group open, a call finds an empty pattern. -/
theorem parse_at_end
    (allRead : parser.pending = [])
    (noGroup : parser.groups = []) :
    parser.parse = (.error (parser.errorAt .emptyPattern (.point parser.offset)), parser) := by
  simp [parse, allRead, readAll, finish, finishTerm, noGroup, Sequence.empty, unfinishedFault]

/-- A call that succeeds leaves a parser that rests at the end of its text. -/
theorem InText.parse_after_success
    (inText : parser.InText dialect pattern)
    {program : List Instruction}
    (succeeds : parser.parse.1 = .ok program) :
    parser.parse.2.parse =
      (.error ⟨.emptyPattern, pattern, .point pattern.utf8ByteSize⟩, parser.parse.2) := by
  obtain ⟨final, finalSequence, passes, ends⟩ := parser.parse_ends
  rcases ends with ⟨allRead, ends⟩ | ⟨lexeme, back, error, _, isError, _⟩
  · have place := passes.inText inText
    have atEnd : final.offset = pattern.utf8ByteSize := by
      obtain ⟨before, isText, width⟩ := place.isAt
      simp only [allRead, List.flatMap_nil, List.append_nil] at isText
      rw [← width, ← isText, Text.width_eq_utf8ByteSize, String.ofList_toList]
    rw [succeeds] at ends
    generalize parser.parse.2 = left at ends
    cases ends with
    | complete noGroup =>
        have again : ({ final with emitted := [] } : Parser).parse = _ :=
          parse_at_end allRead noGroup
        simpa only [errorAt, place.pattern_eq, atEnd] using again
  · simp only [isError, reduceCtorEq] at succeeds

/-- A parser that rests never succeeds. -/
theorem Rests.countP_parseRepeatedly
    (rests : parser.Rests)
    (calls : Nat) :
    (parseRepeatedly calls parser).countP Except.isOk = 0 := by
  induction calls with
  | zero =>
      rfl
  | succ calls inductionHypothesis =>
      obtain ⟨error, same⟩ := rests
      simp only [parseRepeatedly, same, List.countP_cons, inductionHypothesis]
      rfl

/-- At most one of a parser's calls succeeds. -/
theorem InText.countP_parseRepeatedly
    (inText : parser.InText dialect pattern)
    (calls : Nat) :
    (parseRepeatedly calls parser).countP Except.isOk ≤ 1 := by
  induction calls generalizing parser with
  | zero =>
      exact Nat.zero_le 1
  | succ calls inductionHypothesis =>
      simp only [parseRepeatedly, List.countP_cons]
      cases result : parser.parse.1 with
      | ok program =>
          have rests : parser.parse.2.Rests := ⟨_, inText.parse_after_success result⟩
          simp [rests.countP_parseRepeatedly, Except.isOk, Except.toBool]
      | error error =>
          simpa [Except.isOk, Except.toBool] using inductionHypothesis inText.parse

/-- What becomes of a parser that is called again and again. -/
structure SettlesDown (dialect : Dialect) (pattern : String) : Prop where
  one_success :
    ∀ calls, (parseRepeatedly calls (ofPattern dialect pattern)).countP Except.isOk ≤ 1
  /-- After a success each call finds an empty pattern at the end of the text. -/
  after_success :
    ∀ calls program,
      ((ofPattern dialect pattern).afterCalls calls).parse.1 = .ok program →
        ∀ later,
          calls < later →
            ((ofPattern dialect pattern).afterCalls later).parse.1 =
              .error ⟨.emptyPattern, pattern, .point pattern.utf8ByteSize⟩
  /-- After twice as many calls as the pattern has bytes all end alike and change nothing. -/
  settles :
    ∃ error,
      ∀ calls,
        2 * pattern.utf8ByteSize ≤ calls →
          ((ofPattern dialect pattern).afterCalls calls).parse =
            (.error error, (ofPattern dialect pattern).afterCalls calls)

/-- Every parser settles down. -/
theorem settlesDown_ofPattern
    (dialect : Dialect)
    (pattern : String) :
    SettlesDown dialect pattern := by
  have inText := inText_ofPattern dialect pattern
  refine ⟨inText.countP_parseRepeatedly, ?_, ?_⟩
  · intro calls program succeeds later isLater
    have next := (inText.afterCalls calls).parse_after_success succeeds
    have rests : ((ofPattern dialect pattern).afterCalls (calls + 1)).Rests := by
      rw [afterCalls_succ]
      exact ⟨_, next⟩
    obtain ⟨more, rfl⟩ := Nat.exists_eq_add_of_le (Nat.succ_le_of_lt isLater)
    rw [afterCalls_add, rests.afterCalls_eq, afterCalls_succ, next]
  · have settled : ((ofPattern dialect pattern).afterCalls (2 * pattern.utf8ByteSize)).Rests :=
      inText.rests_afterCalls (Nat.le_of_eq (remaining_ofPattern dialect pattern))
    obtain ⟨error, same⟩ := settled
    refine ⟨error, ?_⟩
    intro calls enough
    obtain ⟨more, rfl⟩ := Nat.exists_eq_add_of_le enough
    have unchanged := Rests.afterCalls_eq ⟨error, same⟩ more
    rw [afterCalls_add, unchanged, same]

end Parser

end TokenPattern
