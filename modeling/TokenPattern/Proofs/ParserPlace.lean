import Mathlib.Logic.Function.Iterate
import TokenPattern.Proofs.Cursor
import TokenPattern.Proofs.ParserStop
import TokenPattern.Proofs.Settled

namespace TokenPattern

/-!
# The parser never leaves its text

However often a parser is called, and whatever error a call ended with, it
stands between two characters of its pattern, where the next lexeme starts.  So
reading by positions does not fail there, and the spans of all errors are parts
of the pattern, those of groups that an earlier call opened among them.
-/

/-- A span is a part of a pattern: it lies in the pattern and ends between characters. -/
structure Span.IsPartOf (span : Span) (pattern : String) : Prop where
  start_le_stop : span.start ≤ span.stop
  stop_le_size : span.stop ≤ pattern.utf8ByteSize
  start_isValid : (String.Pos.Raw.mk span.start).IsValid pattern
  stop_isValid : (String.Pos.Raw.mk span.stop).IsValid pattern

namespace Cursor

variable {pattern : String}
variable {rest behind : List Char}
variable {start stop : Nat}

theorem IsAt.isValid (isAt : IsAt pattern.toList start rest) :
    (String.Pos.Raw.mk start).IsValid pattern := by
  obtain ⟨before, splits⟩ := isAt.split
  rw [← isSome_split?_iff, splits]
  rfl

/-- From one position to a later one a part of the pattern reaches. -/
theorem IsAt.isPartOf
    (isAt : IsAt pattern.toList start rest)
    (isBehind : IsAt pattern.toList stop behind)
    (ordered : start ≤ stop) :
    Span.IsPartOf ⟨start, stop⟩ pattern :=
  ⟨ordered, isBehind.isValid.le_utf8ByteSize, isAt.isValid, isBehind.isValid⟩

end Cursor

/-- The faulty part of a broken lexeme starts inside the lexeme. -/
theorem Lexeme.exists_append_of_broken
    {dialect : Dialect}
    {first : Char}
    {rest lead : List Char}
    {fault : Fault}
    (broken : (cut dialect first rest).1.symbol = .broken fault lead) :
    ∃ part, (cut dialect first rest).1.text = lead ++ part := by
  rcases broken_cases broken with ⟨_, _, isCut⟩ | ⟨_, faulty⟩
  · rw [isCut] at broken
    cases broken
    exact ⟨_, rfl⟩
  · generalize cut dialect first rest = result at broken faulty
    cases faulty with
    | breaksOff =>
        cases broken
        exact ⟨_, rfl⟩
    | literal =>
        cases broken
        exact ⟨_, rfl⟩

namespace Parser

/-- A parser stands in its pattern, before the lexemes that it has not read. -/
structure InText
    (dialect : Dialect)
    (pattern : String)
    (parser : Parser) :
    Prop where
  pattern_eq : parser.pattern = pattern
  isAt : Cursor.IsAt pattern.toList parser.offset (parser.pending.flatMap Lexeme.text)
  isCut : Lexeme.ofText dialect (parser.pending.flatMap Lexeme.text) = parser.pending
  /-- Each open group was opened before. -/
  opened :
    ∀ group ∈ parser.groups,
      group.opener.IsPartOf pattern ∧ group.opener.stop ≤ parser.offset

theorem inText_ofPattern (dialect : Dialect) (pattern : String) :
    (ofPattern dialect pattern).InText dialect pattern := by
  have texts := Lexeme.text_lexemes dialect pattern.toList
  refine ⟨rfl, ?_, ?_, by simp [ofPattern]⟩
  · rw [ofPattern, texts]
    exact Cursor.IsAt.start _
  · rw [ofPattern, texts]

variable {dialect : Dialect}
variable {pattern : String}
variable {parser next left last : Parser}
variable {sequence nextSequence lastSequence : Sequence}
variable {lexeme : Lexeme}
variable {back : List Lexeme}
variable {error : SyntaxError}

namespace InText

variable (inText : parser.InText dialect pattern)
variable (isNext : parser.pending = lexeme :: back)

include inText isNext

/-- The next lexeme is cut from the text at hand. -/
theorem exists_cut :
    ∃ first rest,
      (Lexeme.cut dialect first rest).1 = lexeme ∧
        (Lexeme.cut dialect first rest).2 = back.flatMap Lexeme.text := by
  have isCut :
      Lexeme.ofText dialect (parser.pending.flatMap Lexeme.text) = [] ++ lexeme :: back := by
    rw [inText.isCut, isNext, List.nil_append]
  obtain ⟨first, rest, isLexeme, _, behind⟩ := Lexeme.exists_cut_of_ofText isCut
  exact ⟨first, rest, isLexeme, behind⟩

theorem isAt_behind :
    Cursor.IsAt pattern.toList (parser.offset + lexeme.width)
      (back.flatMap Lexeme.text) := by
  have isAt := inText.isAt
  rw [isNext, List.flatMap_cons] at isAt
  exact isAt.move

theorem isCut_behind :
    Lexeme.ofText dialect (back.flatMap Lexeme.text) = back := by
  have isCut := inText.isCut
  obtain ⟨first, rest, isLexeme, behind⟩ := inText.exists_cut isNext
  have kept := Lexeme.text_append_cut dialect first rest
  rw [isLexeme, behind] at kept
  rw [isNext, List.flatMap_cons, kept, Lexeme.ofText, isLexeme, behind] at isCut
  exact (List.cons.inj isCut).2

theorem spanOf_isPartOf : (parser.spanOf lexeme).IsPartOf pattern :=
  inText.isAt.isPartOf (inText.isAt_behind isNext) (Nat.le_add_right _ _)

/-- A parser behind the next lexeme is in the text if its open groups are. -/
theorem behind
    {groups : List OpenGroup}
    (opened :
      ∀ group ∈ groups,
        group.opener.IsPartOf pattern ∧
          group.opener.stop ≤ parser.offset + lexeme.width)
    (emitted : List Instruction)
    (preceding : Preceding) :
    (parser.behind lexeme groups emitted preceding).InText dialect pattern := by
  have tail : parser.pending.tail = back := by
    rw [isNext, List.tail_cons]
  refine ⟨inText.pattern_eq, ?_, ?_, opened⟩
  · simpa only [Parser.behind, tail] using inText.isAt_behind isNext
  · simpa only [Parser.behind, tail] using inText.isCut_behind isNext

omit isNext in
theorem opened_behind
    {group : OpenGroup}
    (isOpen : group ∈ parser.groups) :
    group.opener.IsPartOf pattern ∧
      group.opener.stop ≤ parser.offset + lexeme.width :=
  (inText.opened group isOpen).imp_right (Nat.le_add_right_of_le ·)

/-- A parser that reads the next lexeme stays in the text. -/
theorem advances
    (advances : parser.Advances sequence lexeme next nextSequence) :
    next.InText dialect pattern := by
  cases advances with
  | blank | atom | connective | quantifier =>
      exact inText.behind isNext (fun _ => inText.opened_behind) _ _
  | opener =>
      refine inText.behind isNext ?_ _ _
      intro group isOpen
      rcases List.mem_cons.1 isOpen with rfl | wasOpen
      · exact ⟨inText.spanOf_isPartOf isNext, Nat.le_refl _⟩
      · exact inText.opened_behind wasOpen
  | closer _ innermost =>
      refine inText.behind isNext ?_ _ _
      intro group isOpen
      refine inText.opened_behind ?_
      rw [innermost]
      exact List.mem_cons_of_mem _ isOpen

omit isNext in
/-- What was emitted and groups that are given up do not matter. -/
theorem give_up
    {groups : List OpenGroup}
    (kept : ∀ group ∈ groups, group ∈ parser.groups)
    (emitted : List Instruction) :
    InText dialect pattern { parser with groups := groups, emitted := emitted } :=
  ⟨inText.pattern_eq, inText.isAt, inText.isCut,
    fun group isOpen => inText.opened group (kept group isOpen)⟩

/-- A parser that stops at the next lexeme stays in the text. -/
theorem stopsAt
    (stops : parser.StopsAt sequence lexeme error left) :
    left.InText dialect pattern := by
  cases stops with
  | stray | quantifier | outsideBracket | noLeftOperand =>
      exact inText
  | broken =>
      exact inText.behind isNext (fun _ => inText.opened_behind) _ _
  | unopened =>
      exact inText.give_up (fun _ => id) _
  | mismatch _ innermost =>
      refine inText.give_up ?_ _
      intro group isOpen
      rw [innermost]
      exact List.mem_cons_of_mem _ isOpen
  | emptyGroup _ innermost =>
      refine inText.behind isNext ?_ _ _
      intro group isOpen
      refine inText.opened_behind ?_
      rw [innermost]
      exact List.mem_cons_of_mem _ isOpen

/-- The faulty part at the next lexeme is a part of the pattern. -/
theorem isPartOf_of_stopsAt
    (stops : parser.StopsAt sequence lexeme error left) :
    error.span.IsPartOf pattern := by
  have isBehind := inText.isAt_behind isNext
  cases stops with
  | stray | quantifier | outsideBracket | noLeftOperand | unopened | mismatch =>
      exact inText.spanOf_isPartOf isNext
  | @broken fault lead symbol =>
      obtain ⟨first, rest, isLexeme, _⟩ := inText.exists_cut isNext
      subst isLexeme
      obtain ⟨part, sameText⟩ := Lexeme.exists_append_of_broken symbol
      have isAt := inText.isAt
      rw [isNext, List.flatMap_cons, sameText, List.append_assoc] at isAt
      refine isAt.move.isPartOf isBehind ?_
      rw [Lexeme.width, sameText, Text.width_append]
      omega
  | @emptyGroup group outerGroups symbol innermost isEmpty =>
      -- The span starts where the group was opened, perhaps in an earlier call.
      have isOpen : group ∈ parser.groups := by
        rw [innermost]
        exact List.mem_cons_self
      obtain ⟨isPart, before⟩ :
          group.opener.IsPartOf pattern ∧
            group.opener.stop ≤ parser.offset + lexeme.width :=
        inText.opened_behind isOpen
      exact ⟨isPart.start_le_stop.trans before, isBehind.isValid.le_utf8ByteSize,
        isPart.start_isValid, isBehind.isValid⟩

omit isNext in
theorem endsWith
    {result : Except SyntaxError (List Instruction)}
    (ends : parser.EndsWith sequence result left) :
    left.InText dialect pattern := by
  cases ends with
  | unclosed innermost =>
      refine inText.give_up ?_ _
      intro group isOpen
      rw [innermost]
      exact List.mem_cons_of_mem _ isOpen
  | empty =>
      exact inText
  | complete =>
      exact inText.give_up (fun _ => id) _

omit isNext in
/-- At the end of the text the span of an open group or the end itself is at fault. -/
theorem isPartOf_of_endsWith
    (ends : parser.EndsWith sequence (.error error) left) :
    error.span.IsPartOf pattern := by
  cases ends with
  | @unclosed group outerGroups innermost =>
      have isOpen : group ∈ parser.groups := by
        rw [innermost]
        exact List.mem_cons_self
      exact (inText.opened group isOpen).1
  | empty =>
      exact inText.isAt.isPartOf inText.isAt (Nat.le_refl _)

end InText

theorem StopsAt.offset_le (stops : parser.StopsAt sequence lexeme error left) :
    parser.offset ≤ left.offset := by
  cases stops with
  | stray | quantifier | outsideBracket | noLeftOperand | unopened | mismatch =>
      exact Nat.le_refl _
  | broken | emptyGroup =>
      exact Nat.le_add_right _ _

theorem EndsWith.offset_le
    {result : Except SyntaxError (List Instruction)}
    (ends : parser.EndsWith sequence result left) :
    parser.offset ≤ left.offset := by
  cases ends <;> exact Nat.le_refl _

/-- The states that a call of a parser passes through, each before a lexeme or at the end. -/
inductive Passes (parser : Parser) : Parser → Sequence → Prop where
  | start :
      Passes parser parser .empty
  | step
      {middle next : Parser}
      {sequence nextSequence : Sequence}
      {lexeme : Lexeme}
      {back : List Lexeme}
      (passes : Passes parser middle sequence)
      (isNext : middle.pending = lexeme :: back)
      (goesOn : middle.step sequence lexeme = .next next nextSequence) :
      Passes parser next nextSequence

namespace Passes

/-- A call goes on from each state that it passes through. -/
theorem parse_eq (passes : parser.Passes last lastSequence) :
    parser.parse = readAll last.pending last lastSequence := by
  induction passes with
  | start =>
      rfl
  | step _ isNext goesOn inductionHypothesis =>
      have place := (advances_of_step goesOn).next_place.2.2
      rw [inductionHypothesis, isNext, readAll, goesOn, place, isNext, List.tail_cons]

theorem offset_le (passes : parser.Passes last lastSequence) :
    parser.offset ≤ last.offset := by
  induction passes with
  | start =>
      exact Nat.le_refl _
  | step _ _ goesOn inductionHypothesis =>
      rw [(advances_of_step goesOn).next_place.2.1]
      exact Nat.le_add_right_of_le inductionHypothesis

theorem inText
    (passes : parser.Passes last lastSequence)
    (starts : parser.InText dialect pattern) :
    last.InText dialect pattern := by
  induction passes with
  | start =>
      exact starts
  | step _ isNext goesOn inductionHypothesis =>
      exact inductionHypothesis.advances isNext (advances_of_step goesOn)

/-- A call ends at a lexeme or at the end of the text. -/
theorem ends
    (passes : parser.Passes last lastSequence)
    (lexemes : List Lexeme)
    (pending : last.pending = lexemes) :
    ∃ final finalSequence,
      parser.Passes final finalSequence ∧
        last.offset ≤ final.offset ∧
        ((final.pending = [] ∧
            final.EndsWith finalSequence parser.parse.1 parser.parse.2) ∨
          ∃ lexeme back error,
            final.pending = lexeme :: back ∧
              parser.parse.1 = .error error ∧
              final.StopsAt finalSequence lexeme error parser.parse.2) := by
  induction lexemes generalizing last lastSequence with
  | nil =>
      refine ⟨last, lastSequence, passes, Nat.le_refl _, .inl ⟨pending, ?_⟩⟩
      rw [passes.parse_eq, pending, readAll]
      exact endsWith_finish last lastSequence
  | cons lexeme back inductionHypothesis =>
      cases stepEq : last.step lastSequence lexeme with
      | next middle middleSequence =>
          obtain ⟨_, offset, place⟩ := (advances_of_step stepEq).next_place
          rw [pending, List.tail_cons] at place
          obtain ⟨final, finalSequence, reaches, ordered, ends⟩ :=
            inductionHypothesis (passes.step pending stepEq) place
          exact ⟨final, finalSequence, reaches, by omega, ends⟩
      | stop error left =>
          have parseEq := passes.parse_eq
          rw [pending, readAll, stepEq] at parseEq
          refine ⟨last, lastSequence, passes, Nat.le_refl _,
            .inr ⟨lexeme, back, error, pending, ?_, ?_⟩⟩
          · rw [parseEq]
          · rw [parseEq]
            exact stops_of_step stepEq

end Passes

/-- A call passes through states to its end, at a lexeme or at the end of the text. -/
theorem parse_ends (parser : Parser) :
    ∃ final finalSequence,
      parser.Passes final finalSequence ∧
        ((final.pending = [] ∧
            final.EndsWith finalSequence parser.parse.1 parser.parse.2) ∨
          ∃ lexeme back error,
            final.pending = lexeme :: back ∧
              parser.parse.1 = .error error ∧
              final.StopsAt finalSequence lexeme error parser.parse.2) := by
  have starts : parser.Passes parser .empty := .start
  obtain ⟨final, finalSequence, passes, _, ends⟩ := starts.ends parser.pending rfl
  exact ⟨final, finalSequence, passes, ends⟩

/-- A parser after a number of calls, whatever they ended with. -/
def afterCalls (parser : Parser) (calls : Nat) : Parser :=
  (fun parser => parser.parse.2)^[calls] parser

theorem afterCalls_succ (parser : Parser) (calls : Nat) :
    parser.afterCalls (calls + 1) = (parser.afterCalls calls).parse.2 :=
  Function.iterate_succ_apply' _ _ _

/-- The calls that a parser is given one after the other. -/
theorem parseRepeatedly_eq (calls : Nat) (parser : Parser) :
    parseRepeatedly calls parser =
      (List.range calls).map fun earlier => (parser.afterCalls earlier).parse.1 := by
  induction calls generalizing parser with
  | zero =>
      rfl
  | succ calls inductionHypothesis =>
      rw [List.range_succ_eq_map, List.map_cons, List.map_map, parseRepeatedly]
      exact congrArg (_ :: ·) (inductionHypothesis parser.parse.2)

/-- What is known of a call of a parser that stays in the text. -/
structure StaysIn
    (dialect : Dialect)
    (pattern : String)
    (parser : Parser) :
    Prop where
  /-- Wherever the call comes, the next lexeme can be read by positions, and no look fails. -/
  reads :
    ∀ middle sequence,
      parser.Passes middle sequence →
        middle.offset ≤ pattern.utf8ByteSize ∧
          (String.Pos.Raw.mk middle.offset).IsValid pattern ∧
          Cursor.next? dialect pattern.toList middle.offset =
            some (middle.pending.head?.map (Cursor.readingOf middle.offset))
  /-- The call never goes back, nor does it leave the parser before a place where it was. -/
  forward :
    ∀ middle sequence,
      parser.Passes middle sequence →
        parser.offset ≤ middle.offset ∧ middle.offset ≤ parser.parse.2.offset
  located :
    ∀ error,
      parser.parse.1 = .error error →
        error.pattern = pattern ∧ error.span.IsPartOf pattern

namespace InText

variable (inText : parser.InText dialect pattern)

include inText

/-- A call leaves the parser in the text. -/
theorem parse : parser.parse.2.InText dialect pattern := by
  obtain ⟨final, finalSequence, passes, ends⟩ := parser.parse_ends
  have finalInText := passes.inText inText
  rcases ends with ⟨_, ends⟩ | ⟨lexeme, back, error, isNext, _, stops⟩
  · exact finalInText.endsWith ends
  · exact finalInText.stopsAt isNext stops

theorem afterCalls (calls : Nat) :
    (parser.afterCalls calls).InText dialect pattern := by
  induction calls with
  | zero =>
      exact inText
  | succ calls inductionHypothesis =>
      rw [afterCalls_succ]
      exact inductionHypothesis.parse

/-- A parser in the text stays in the text. -/
theorem staysIn : parser.StaysIn dialect pattern := by
  refine ⟨?_, ?_, ?_⟩
  · intro middle sequence passes
    have middleInText := passes.inText inText
    have isValid := middleInText.isAt.isValid
    refine ⟨isValid.le_utf8ByteSize, isValid, ?_⟩
    rw [Cursor.next?_of_isAt middleInText.isAt, middleInText.isCut]
  · intro middle sequence passes
    refine ⟨passes.offset_le, ?_⟩
    obtain ⟨final, finalSequence, _, ordered, ends⟩ := passes.ends middle.pending rfl
    refine ordered.trans ?_
    rcases ends with ⟨_, ends⟩ | ⟨lexeme, back, error, _, _, stops⟩
    · exact ends.offset_le
    · exact stops.offset_le
  · intro error isError
    obtain ⟨final, finalSequence, passes, ends⟩ := parser.parse_ends
    have finalInText := passes.inText inText
    rcases ends with ⟨_, ends⟩ | ⟨lexeme, back, found, isNext, isFound, stops⟩
    · rw [isError] at ends
      exact ⟨ends.pattern_eq.trans finalInText.pattern_eq,
        finalInText.isPartOf_of_endsWith ends⟩
    · rw [isError] at isFound
      cases isFound
      exact ⟨stops.pattern_eq.trans finalInText.pattern_eq,
        finalInText.isPartOf_of_stopsAt isNext stops⟩

end InText

/-- Each call of a parser stays in the text, whatever the calls before it ended with. -/
theorem parseRepeatedly_staysIn
    (dialect : Dialect)
    (pattern : String)
    (calls : Nat) :
    ((ofPattern dialect pattern).afterCalls calls).StaysIn dialect pattern ∧
      parseRepeatedly calls (ofPattern dialect pattern) =
        (List.range calls).map fun earlier =>
          ((ofPattern dialect pattern).afterCalls earlier).parse.1 :=
  ⟨((inText_ofPattern dialect pattern).afterCalls calls).staysIn,
    parseRepeatedly_eq calls _⟩

end Parser

end TokenPattern
