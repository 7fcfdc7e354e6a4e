import Mathlib
import TokenPattern.Proofs.Completion

namespace TokenPattern

/-!
# Groups in their context

What a group becomes depends on nothing around it, and what stands around a
group depends on nothing in it.  A word in parentheses that occurs nowhere else
in a pattern marks the place: whatever pattern takes its place there, in
parentheses or in brackets, its program takes the place of the word.
-/

section Occurrences

variable {α : Type}
variable {part front back before after rest : List α}
variable {char opener closer : α}

/-- A part that starts where a character stands behind it ends before the character. -/
theorem exists_eq_append_of_notMem
    (notInPart : char ∉ part)
    (same : part ++ back = front ++ char :: rest) :
    ∃ more, front = part ++ more ∧ back = more ++ char :: rest := by
  rcases List.append_eq_append_iff.1 same with found | ⟨more, partShape, tail⟩
  · exact found
  · cases more with
    | nil =>
        exact ⟨[], by simpa using partShape.symm, by simpa using tail.symm⟩
    | cons first others =>
        obtain ⟨rfl, _⟩ := List.cons.inj tail
        exact (notInPart (by simp [partShape])).elim

/-- A part that occurs between an opener and a closer, and nowhere else, is found there. -/
theorem eq_of_occurrence
    (noOpener : opener ∉ part)
    (noCloser : closer ∉ part)
    (notBefore : ¬ part <:+: before)
    (notAfter : ¬ part <:+: after)
    (same : front ++ (part ++ back) = before ++ opener :: (part ++ closer :: after)) :
    front = before ++ [opener] ∧ back = closer :: after := by
  have nonempty : part ≠ [] := by
    intro isEmpty
    apply notBefore
    rw [isEmpty]
    exact List.nil_infix
  rcases List.append_eq_append_iff.1 same with
    ⟨between, beforeShape, tail⟩ | ⟨between, frontShape, tail⟩
  · obtain ⟨more, rfl, _⟩ := exists_eq_append_of_notMem noOpener tail
    apply (notBefore ?_).elim
    exact ⟨front, more, by rw [beforeShape, List.append_assoc]⟩
  · cases between with
    | nil =>
        have startsHere : part ++ back = [] ++ opener :: (part ++ closer :: after) :=
          tail.symm
        obtain ⟨more, isEmpty, _⟩ := exists_eq_append_of_notMem noOpener startsHere
        exact (nonempty (List.append_eq_nil_iff.1 isEmpty.symm).1).elim
    | cons first others =>
        obtain ⟨rfl, behindOpener⟩ := List.cons.inj tail
        rcases List.append_eq_append_iff.1 behindOpener with
          ⟨more, _, behindPart⟩ | ⟨more, partShape, behindPart⟩
        · cases more with
          | nil =>
              have startsHere : part ++ back = [] ++ closer :: after :=
                behindPart.symm
              obtain ⟨extra, isEmpty, _⟩ := exists_eq_append_of_notMem noCloser startsHere
              exact (nonempty (List.append_eq_nil_iff.1 isEmpty.symm).1).elim
          | cons second inner =>
              obtain ⟨rfl, afterShape⟩ := List.cons.inj behindPart
              apply (notAfter ?_).elim
              exact ⟨inner, back, by simp [afterShape]⟩
        · obtain ⟨extra, moreShape, backShape⟩ :=
            exists_eq_append_of_notMem noCloser behindPart
          -- The part is no longer than itself, so nothing stands beside it.
          have lengths := congrArg List.length partShape
          rw [moreShape, List.length_append, List.length_append] at lengths
          have noOthers : others = [] := List.length_eq_zero_iff.1 (by omega)
          have noExtra : extra = [] := List.length_eq_zero_iff.1 (by omega)
          rw [noOthers] at frontShape
          rw [noExtra] at backShape
          exact ⟨frontShape, backShape⟩

end Occurrences

/-- The character of an opening delimiter. -/
def Delimiter.opening : Delimiter → Char
  | .round => '('
  | .square => '['

/-- A text with a group in it. -/
def Delimiter.groupIn
    (shape : Delimiter)
    (before inner after : List Char) :
    List Char :=
  before ++ shape.opening :: (inner ++ shape.closing :: after)

namespace Lexeme

variable {dialect : Dialect}
variable {symbol : Symbol}
variable {text before after inner : List Char}
variable {word : String}

/-- The opening delimiter of a shape. -/
def ofOpener (shape : Delimiter) : Lexeme :=
  ⟨.opener shape, [shape.opening]⟩

theorem settled_ofOpener (dialect : Dialect) (shape : Delimiter) :
    Settled dialect (ofOpener shape) := by
  cases shape <;> exact settled_of_cut rfl fun _ => rfl

/-- Lexemes without a fault are cut alone as they are before anything but letters and digits. -/
theorem ofText_append_of_sound
    {rest : List Char}
    (sound : ∀ lexeme ∈ ofText dialect text, lexeme.symbol.IsSound)
    (stops : Stops Char.isAlphanum rest) :
    ofText dialect (text ++ rest) = ofText dialect text ++ ofText dialect rest := by
  have isCut : ofText dialect text = ofText dialect text ++ [] :=
    (List.append_nil _).symm
  have again := ofText_append_of_stops isCut sound stops
  rwa [text_lexemes] at again

/-- A group between texts is cut into its delimiters and what stands around them. -/
theorem ofText_group
    (shape : Delimiter)
    (soundBefore : ∀ lexeme ∈ ofText dialect before, lexeme.symbol.IsSound)
    (soundInner : ∀ lexeme ∈ ofText dialect inner, lexeme.symbol.IsSound)
    (after : List Char) :
    ofText dialect (shape.groupIn before inner after) =
      ofText dialect before ++
        (ofOpener shape :: (ofText dialect inner ++ [ofCloser shape]) ++
          ofText dialect after) := by
  have stopsOpening (rest : List Char) :
      Stops Char.isAlphanum (shape.opening :: rest) :=
    stops_cons (by cases shape <;> decide) rest
  have stopsClosing (rest : List Char) :
      Stops Char.isAlphanum (shape.closing :: rest) :=
    stops_cons (by cases shape <;> decide) rest
  have opens (rest : List Char) :
      ofText dialect (shape.opening :: rest) = ofOpener shape :: ofText dialect rest :=
    settled_ofOpener dialect shape rest
  have closes (rest : List Char) :
      ofText dialect (shape.closing :: rest) = ofCloser shape :: ofText dialect rest :=
    settled_ofCloser dialect shape rest
  rw [Delimiter.groupIn, ofText_append_of_sound soundBefore (stopsOpening _), opens,
    ofText_append_of_sound soundInner (stopsClosing _), closes]
  simp

/-- A word is spelled by its own characters. -/
theorem text_of_written_word
    (written : Symbol.Written dialect (.atom (.word word)) text) :
    text = word.toList ∧ IsWord text := by
  generalize same : Symbol.atom (.word word) = symbol at written
  cases written with
  | word isWord =>
      cases same
      exact ⟨(String.toList_ofList).symm, isWord⟩
  | sign isSign =>
      subst same
      simp [signs] at isSign
  | blank | literal | attributeIs =>
      cases same

/-- A word is cut from where it stands. -/
theorem occurrence_of_word
    {front back : List Lexeme}
    {lexeme : Lexeme}
    (isCut : ofText dialect text = front ++ lexeme :: back)
    (isAtom : lexeme.symbol = .atom (.word word)) :
    IsWord word.toList ∧
      text = front.flatMap Lexeme.text ++ (word.toList ++ back.flatMap Lexeme.text) := by
  obtain ⟨first, rest, rfl, shape, behind⟩ := exists_cut_of_ofText isCut
  have sound : (cut dialect first rest).1.symbol.IsSound := by
    rw [isAtom]
    trivial
  have written := written_of_cut sound
  have kept := text_append_cut dialect first rest
  rw [isAtom] at written
  obtain ⟨sameText, isWord⟩ := text_of_written_word written
  rw [sameText, behind] at kept
  rw [sameText] at isWord
  exact ⟨isWord, by rw [shape, kept]⟩

theorem infix_of_mem_ofText
    {lexeme : Lexeme}
    (member : lexeme ∈ ofText dialect text)
    (isAtom : lexeme.symbol = .atom (.word word)) :
    word.toList <:+: text := by
  obtain ⟨front, back, isCut⟩ := List.append_of_mem member
  obtain ⟨_, shape⟩ := occurrence_of_word isCut isAtom
  exact ⟨front.flatMap Lexeme.text, back.flatMap Lexeme.text, by
    rw [shape, List.append_assoc]⟩

/-- Only the sign of an opening parenthesis ends with one. -/
theorem eq_nil_of_written_opening
    (written : symbol.Written dialect (text ++ ['('])) :
    text = [] := by
  generalize whole : text ++ ['('] = spelling at written
  have last : spelling.getLast? = some '(' := by
    simp [← whole]
  have single (length : spelling.length = 1) : text = [] := by
    rw [← whole, List.length_append, List.length_singleton] at length
    exact List.length_eq_zero_iff.1 (by omega)
  cases written with
  | blank | sign =>
      exact single rfl
  | word isWord =>
      have alphanumeric := isAlphanum_of_isWord isWord '(' (List.mem_of_getLast? last)
      exact absurd alphanumeric (by decide)
  | literal written =>
      obtain ⟨body, source, _, _, _, rfl⟩ := written
      rw [← List.cons_append, List.getLast?_concat] at last
      exact absurd (Option.some.inj last) (by decide)
  | attributeIs =>
      rw [← List.cons_append, List.getLast?_concat] at last
      exact absurd (Option.some.inj last) (by decide)

/-- Where the lexemes of a text reach up to an opening parenthesis, it is one of them. -/
theorem isSound_before_opening
    {front back : List Lexeme}
    (isCut : ofText dialect text = front ++ back)
    (sound : ∀ lexeme ∈ front, lexeme.symbol.IsSound)
    (ends : front.flatMap Lexeme.text = before ++ ['(']) :
    ∀ lexeme ∈ ofText dialect before, lexeme.symbol.IsSound := by
  obtain rfl | ⟨others, opener, rfl⟩ := List.eq_nil_or_concat' front
  · simp at ends
  · rw [List.append_assoc, List.singleton_append] at isCut
    obtain ⟨first, rest, rfl, _, _⟩ := exists_cut_of_ofText isCut
    obtain ⟨soundOthers, soundOpener⟩ := List.forall_mem_append.1 sound
    have written := written_of_cut (soundOpener _ (List.mem_singleton_self _))
    rw [List.flatMap_append, List.flatMap_singleton] at ends
    -- What the opener's text has before its last character is nothing.
    obtain nothing | ⟨start, last, openerText⟩ :=
      List.eq_nil_or_concat' (cut dialect first rest).1.text
    · exact (ne_nil_of_written written nothing).elim
    · rw [openerText, ← List.append_assoc] at ends
      obtain ⟨beforeShape, lastShape⟩ := List.append_inj' ends rfl
      cases lastShape
      rw [openerText] at written
      rw [eq_nil_of_written_opening written, List.append_nil] at beforeShape
      have stops : Stops Char.isAlphanum [] := by
        intro char impossible
        cases impossible
      have again := ofText_append_of_stops isCut soundOthers stops
      rw [List.append_nil, beforeShape, ofText, List.append_nil] at again
      rw [again]
      exact soundOthers

/-- Around a word that occurs nowhere else its parentheses are signs. -/
theorem isSound_of_word_in_group
    (sound :
      ∀ lexeme ∈ ofText dialect (Delimiter.round.groupIn before word.toList after),
        lexeme.symbol.IsSound)
    (notBefore : ¬ word.toList <:+: before)
    (notAfter : ¬ word.toList <:+: after)
    {lexeme : Lexeme}
    (member : lexeme ∈ ofText dialect (Delimiter.round.groupIn before word.toList after))
    (isAtom : lexeme.symbol = .atom (.word word)) :
    IsWord word.toList ∧
      ∀ lexeme ∈ ofText dialect before, lexeme.symbol.IsSound := by
  obtain ⟨front, back, isCut⟩ := List.append_of_mem member
  obtain ⟨isWord, shape⟩ := occurrence_of_word isCut isAtom
  have noSign
      {sign : Char}
      (notAlphanum : sign.isAlphanum = false) :
      sign ∉ word.toList := by
    intro inWord
    have alphanumeric := isAlphanum_of_isWord isWord sign inWord
    rw [notAlphanum] at alphanumeric
    cases alphanumeric
  obtain ⟨frontShape, _⟩ :=
    eq_of_occurrence (noSign (by decide)) (noSign (by decide)) notBefore notAfter
      shape.symm
  have soundFront : ∀ lexeme ∈ front, lexeme.symbol.IsSound := by
    intro other isFront
    apply sound
    simp [isCut, isFront]
  exact ⟨isWord, isSound_before_opening isCut soundFront frontShape⟩

end Lexeme

/-- What decides how an open group goes on. -/
def OpenGroup.context (group : OpenGroup) : Delimiter × Sequence :=
  (group.shape, group.outer)

namespace Parser

/-- Reading what stands behind lexemes goes on from where they were read. -/
theorem Reads.split
    {parser last : Parser}
    {sequence lastSequence : Sequence}
    {front back : List Lexeme}
    (reads : parser.Reads sequence (front ++ back) last lastSequence) :
    ∃ middle middleSequence,
      parser.Reads sequence front middle middleSequence ∧
        middle.Reads middleSequence back last lastSequence := by
  induction front generalizing parser sequence with
  | nil =>
      exact ⟨parser, sequence, .nothing _ _, reads⟩
  | cons lexeme rest inductionHypothesis =>
      cases reads with
      | lexeme advances reads =>
          obtain ⟨middle, middleSequence, readsFront, readsBack⟩ :=
            inductionHypothesis reads
          exact ⟨middle, middleSequence, .lexeme advances readsFront, readsBack⟩

/-- There is one way to read lexemes. -/
theorem Reads.unique
    {parser last other : Parser}
    {sequence lastSequence otherSequence : Sequence}
    {lexemes : List Lexeme}
    (reads : parser.Reads sequence lexemes last lastSequence)
    (readsToo : parser.Reads sequence lexemes other otherSequence) :
    last = other ∧ lastSequence = otherSequence := by
  induction reads with
  | nothing =>
      cases readsToo
      exact ⟨rfl, rfl⟩
  | lexeme advances _ inductionHypothesis =>
      cases readsToo with
      | lexeme advancesToo readsToo =>
          have same := advances.step_eq.symm.trans advancesToo.step_eq
          cases same
          exact inductionHypothesis readsToo

/-- Parsers that read on alike, and emitted the same behind some instructions. -/
structure Alike
    (base otherBase : List Instruction)
    (parser other : Parser) : Prop where
  groups_eq : parser.groups.map OpenGroup.context = other.groups.map OpenGroup.context
  preceding_eq : parser.preceding = other.preceding
  emitted_since :
    ∃ since, parser.emitted = since ++ base ∧ other.emitted = since ++ otherBase

namespace Alike

variable {base otherBase : List Instruction}
variable {parser other next last : Parser}
variable {sequence nextSequence lastSequence : Sequence}

/-- What stands in the open groups decides where operators may stand. -/
theorem insideBrackets_eq
    (alike : Alike base otherBase parser other) :
    parser.insideBrackets = other.insideBrackets := by
  have shapes := congrArg List.head? alike.groups_eq
  rw [List.head?_map, List.head?_map] at shapes
  unfold insideBrackets
  cases parserGroup : parser.groups.head? <;> cases otherGroup : other.groups.head? <;>
    simp_all [OpenGroup.context]

theorem advances
    (alike : Alike base otherBase parser other)
    {lexeme : Lexeme}
    (advances : parser.Advances sequence lexeme next nextSequence) :
    ∃ otherNext,
      other.Advances sequence lexeme otherNext nextSequence ∧
        Alike base otherBase next otherNext := by
  obtain ⟨groups, preceding, since, emitted, otherEmitted⟩ := alike
  cases advances with
  | blank symbol =>
      exact ⟨_, .blank symbol, groups, rfl, since, emitted, otherEmitted⟩
  | @atom test symbol =>
      refine ⟨_, .atom symbol, groups, rfl, .atom test :: (sequence.joint ++ since), ?_, ?_⟩
      · simp [behind, emitted]
      · simp [behind, otherEmitted]
  | opener symbol =>
      refine ⟨_, .opener symbol, ?_, rfl, sequence.joint ++ since, ?_, ?_⟩
      · simp [behind, OpenGroup.context, groups]
      · simp [behind, emitted]
      · simp [behind, otherEmitted]
  | @closer group outerGroups symbol innermost nonempty =>
      rw [innermost, List.map_cons] at groups
      obtain ⟨otherGroup, otherOuter, otherInnermost, sameContext, sameOuter⟩ :=
        List.map_eq_cons_iff.1 groups.symm
      obtain ⟨sameShape, sameSequence⟩ := Prod.ext_iff.1 sameContext
      dsimp only [OpenGroup.context] at sameShape sameSequence
      have closes : lexeme.symbol = .closer otherGroup.shape := by
        rw [sameShape, symbol]
      rw [← sameSequence]
      refine ⟨_, .closer closes otherInnermost nonempty, sameOuter.symm, rfl,
        emittedOperators sequence.operators ++ (sequence.joint ++ since), ?_, ?_⟩
      · simp [behind, emitted]
      · simp [behind, otherEmitted]
  | @connective operator symbol inside nonempty => 
      have alike : Alike base otherBase parser other :=
        ⟨groups, preceding, since, emitted, otherEmitted⟩
      rw [alike.insideBrackets_eq] at inside
      refine ⟨_, .connective symbol inside nonempty, groups, rfl,
        emittedOperators (sequence.operators.takeWhile operator.binds) ++
          (sequence.joint ++ since), ?_, ?_⟩
      · simp [behind, emitted]
      · simp [behind, otherEmitted]
  | @quantifier operator symbol direct =>
      rw [preceding] at direct
      refine ⟨_, .quantifier symbol direct, groups, rfl, .quantify operator :: since, ?_, ?_⟩
      · simp [behind, emitted]
      · simp [behind, otherEmitted]

/-- Parsers that are alike read the same lexemes and are alike behind them. -/
theorem reads
    (alike : Alike base otherBase parser other)
    {lexemes : List Lexeme}
    (reads : parser.Reads sequence lexemes last lastSequence) :
    ∃ otherLast,
      other.Reads sequence lexemes otherLast lastSequence ∧
        Alike base otherBase last otherLast := by
  induction reads generalizing other with
  | nothing =>
      exact ⟨other, .nothing _ _, alike⟩
  | lexeme advances _ inductionHypothesis =>
      obtain ⟨otherMiddle, otherAdvances, middleAlike⟩ := alike.advances advances
      obtain ⟨otherLast, otherReads, lastAlike⟩ := inductionHypothesis middleAlike
      exact ⟨otherLast, .lexeme otherAdvances otherReads, lastAlike⟩

end Alike

/-- An understood operand can take the place of another one, whose program it replaces. -/
theorem Reads.replace
    {parser last : Parser}
    {sequence lastSequence : Sequence}
    {part other back : List Lexeme}
    {tree otherTree : PatternTree}
    (understood : Understands .operand part tree)
    (otherUnderstood : Understands .operand other otherTree)
    (reads : parser.Reads sequence (part ++ back) last lastSequence) :
    ∃ otherLast since,
      parser.Reads sequence (other ++ back) otherLast lastSequence ∧
        last.groups.map OpenGroup.context = otherLast.groups.map OpenGroup.context ∧
        last.emitted =
          since ++ (tree.program.reverse ++ (sequence.joint ++ parser.emitted)) ∧
        otherLast.emitted =
          since ++ (otherTree.program.reverse ++ (sequence.joint ++ parser.emitted)) := by
  obtain ⟨middle, middleSequence, readsPart, readsBack⟩ := reads.split
  obtain ⟨next, readsNext, groups, direct, emitted⟩ := understood parser sequence
  obtain ⟨rfl, rfl⟩ := readsPart.unique readsNext
  obtain ⟨otherNext, readsOther, otherGroups, otherDirect, otherEmitted⟩ :=
    otherUnderstood parser sequence
  have alike :
      Alike (tree.program.reverse ++ (sequence.joint ++ parser.emitted))
        (otherTree.program.reverse ++ (sequence.joint ++ parser.emitted))
        middle otherNext :=
    ⟨by rw [groups, otherGroups], by rw [direct, otherDirect], [], emitted, otherEmitted⟩
  obtain ⟨otherLast, readsBehind, lastGroups, _, since, lastEmitted, otherLastEmitted⟩ :=
    alike.reads readsBack
  exact ⟨otherLast, since, readsOther.append readsBehind, lastGroups, lastEmitted,
    otherLastEmitted⟩

end Parser

/-- The atoms of a tree are those of the symbols that it derives from. -/
theorem Derives.count_atom
    {category : Category}
    {symbols : List Symbol}
    {tree : PatternTree}
    (derives : Derives category symbols tree)
    (test : Atom) :
    tree.program.count (.atom test) = symbols.count (.atom test) := by
  induction derives with
  | atom other =>
      by_cases same : other = test
      · simp [PatternTree.program, same]
      · simp [PatternTree.program, same]
  | _ =>
      simp_all [PatternTree.program]

/-- A run in delimiters of either shape is read as an operand. -/
theorem Parser.understands_enclosed
    {symbols : List Symbol}
    {tree : PatternTree}
    {lexemes : List Lexeme}
    (run : Derives .run symbols tree)
    (same : lexemes.map Lexeme.symbol = symbols)
    (shape : Delimiter) :
    Understands .operand (.ofOpener shape :: (lexemes ++ [.ofCloser shape])) tree := by
  have derives :
      Derives .operand (.opener shape :: (symbols ++ [.closer shape])) tree := by
    cases shape with
    | round =>
        exact run.parentheses
    | square =>
        exact run.oneRun.oneConjunction.brackets
  apply understands_of_derives derives
  simp [Lexeme.ofOpener, Lexeme.ofCloser, same]

/-- A text with a word in parentheses that occurs nowhere else is cut around them. -/
theorem Lexeme.ofText_around_word
    {dialect : Dialect}
    {before after : List Char}
    {word : String}
    {symbols : List Symbol}
    (isCut : Cut dialect (Delimiter.round.groupIn before word.toList after) symbols)
    (isRead : .atom (.word word) ∈ symbols)
    (notBefore : ¬ word.toList <:+: before)
    (notAfter : ¬ word.toList <:+: after) :
    (∀ lexeme ∈ ofText dialect before, lexeme.symbol.IsSound) ∧
      ofText dialect (Delimiter.round.groupIn before word.toList after) =
        ofText dialect before ++
          (ofOpener .round :: ([⟨.atom (.word word), word.toList⟩] ++ [ofCloser .round]) ++
            ofText dialect after) ∧
      symbols.count (.atom (.word word)) = 1 := by
  obtain ⟨sameSymbols, sound⟩ := cut_iff.1 isCut
  have soundLexemes :
      ∀ lexeme ∈ ofText dialect (Delimiter.round.groupIn before word.toList after),
        lexeme.symbol.IsSound := by
    intro lexeme member
    apply sound
    rw [← sameSymbols]
    exact List.mem_map_of_mem member
  rw [← sameSymbols] at isRead
  obtain ⟨lexeme, member, isAtom⟩ := List.mem_map.1 isRead
  obtain ⟨isWord, soundBefore⟩ :=
    isSound_of_word_in_group soundLexemes notBefore notAfter member isAtom
  have wordCut :
      ofText dialect word.toList = [⟨.atom (.word word), word.toList⟩] := by
    have ends : EndsBefore word.toList [] := by
      intro char impossible
      cases impossible
    have isLexeme :
        ofText dialect (word.toList ++ []) =
          ⟨.atom (.word (String.ofList word.toList)), word.toList⟩ :: ofText dialect [] :=
      ofText_of_endsBefore (.word isWord) ends
    rwa [List.append_nil, String.ofList_toList, ofText] at isLexeme
  have soundWord : ∀ lexeme ∈ ofText dialect word.toList, lexeme.symbol.IsSound := by
    rw [wordCut]
    intro lexeme isSingle
    rw [List.mem_singleton.1 isSingle]
    trivial
  have whole := ofText_group .round soundBefore soundWord after
  rw [wordCut] at whole
  have notRead
      {text : List Char}
      (notIn : ¬ word.toList <:+: text) :
      ((ofText dialect text).map Lexeme.symbol).count (.atom (.word word)) = 0 := by
    apply List.count_eq_zero_of_not_mem
    intro isRead
    obtain ⟨other, otherMember, otherAtom⟩ := List.mem_map.1 isRead
    exact notIn (infix_of_mem_ofText otherMember otherAtom)
  refine ⟨soundBefore, whole, ?_⟩
  rw [← sameSymbols, whole]
  simp [notRead notBefore, notRead notAfter, ofOpener, ofCloser]

/-- What takes the place of a marked word does so in the program. -/
theorem parse_groupIn
    {dialect : Dialect}
    {before after inner word : String}
    {marked whole : String}
    {front back program : List Instruction}
    {shape : Delimiter}
    (markedText :
      marked.toList = Delimiter.round.groupIn before.toList word.toList after.toList)
    (wholeText : whole.toList = shape.groupIn before.toList inner.toList after.toList)
    (notBefore : ¬ word.toList <:+: before.toList)
    (notAfter : ¬ word.toList <:+: after.toList)
    (parsesMarked : parse dialect marked = .ok (front ++ .atom (.word word) :: back))
    (parsesInner : parse dialect inner = .ok program) :
    parse dialect whole = .ok (front ++ (program ++ back)) := by
  -- The word is read once, so it stands at one place in the program.
  obtain ⟨symbols, tree, isCut, derives, treeProgram⟩ :=
    exists_derivation_of_parse parsesMarked
  have counts := derives.count_atom (.word word)
  rw [treeProgram] at counts
  have isRead : .atom (.word word) ∈ symbols := by
    apply List.count_pos_iff.1
    rw [← counts]
    apply List.count_pos_iff.2
    simp
  rw [markedText] at isCut
  obtain ⟨soundBefore, lexemes, once⟩ :=
    Lexeme.ofText_around_word isCut isRead notBefore notAfter
  rw [once, List.count_append, List.count_cons_self] at counts
  have notInFront : .atom (.word word) ∉ front := by
    apply List.count_eq_zero.1
    omega
  have notInBack : .atom (.word word) ∉ back := by
    apply List.count_eq_zero.1
    omega
  -- From the place of the word on, both patterns are read alike.
  obtain ⟨innerSymbols, innerTree, innerCut, run, innerProgram⟩ :=
    exists_derivation_of_parse parsesInner
  obtain ⟨sameInner, innerSound⟩ := Lexeme.cut_iff.1 innerCut
  have soundInner : ∀ lexeme ∈ Lexeme.ofText dialect inner.toList, lexeme.symbol.IsSound := by
    intro lexeme member
    apply innerSound
    rw [← sameInner]
    exact List.mem_map_of_mem member
  have understood := Parser.understands_enclosed run sameInner shape
  have wordUnderstood :
      Parser.Understands .operand
        (.ofOpener .round ::
          ([⟨.atom (.word word), word.toList⟩] ++ [.ofCloser .round]))
        (.atom (.word word)) :=
    Parser.understands_enclosed (Derives.atom (.word word)).bare.single rfl .round
  obtain ⟨last, lastSequence, reads, finishes⟩ :=
    Parser.exists_reads_of_readAll parsesMarked
  obtain ⟨noGroup, nonempty, markedProgram⟩ := Parser.finish_eq_ok_iff.1 finishes
  change Parser.Reads _ _ (Lexeme.ofText dialect marked.toList) _ _ at reads
  rw [markedText, lexemes] at reads
  obtain ⟨middle, middleSequence, readsBefore, readsBehind⟩ := reads.split
  obtain ⟨otherLast, since, readsOther, sameGroups, emitted, otherEmitted⟩ :=
    readsBehind.replace wordUnderstood understood
  have wholeCut :=
    Lexeme.ofText_group shape soundBefore soundInner after.toList
  rw [← wholeText] at wholeCut
  have readsThere :=
    Parser.reads_elsewhere (readsBefore.append readsOther)
      (wholeCut.trans (List.append_nil _).symm)
  have otherNoGroup : otherLast.groups = [] := by
    rw [noGroup, List.map_nil] at sameGroups
    exact List.map_eq_nil_iff.1 sameGroups.symm
  have result := readsThere.readAll_eq
  rw [← wholeCut] at result
  apply (congrArg Prod.fst result).trans
  apply Parser.finish_eq_ok_iff.2
  refine ⟨otherNoGroup, nonempty, ?_⟩
  rw [emitted] at markedProgram
  have places :
      front ++ .atom (.word word) :: back =
        (middleSequence.joint ++ middle.emitted).reverse ++
          .atom (.word word) ::
            (emittedOperators lastSequence.operators ++
              (lastSequence.joint ++ since)).reverse := by
    simpa [PatternTree.program] using markedProgram
  obtain ⟨sameFront, _, sameBack⟩ :=
    (List.append_cons_inj_of_notMem notInFront notInBack).1 places
  rw [sameFront, sameBack, ← innerProgram]
  simp [Parser.elsewhere, otherEmitted]

/--
A pattern in parentheses or brackets is read as it is alone, wherever it stands,
and leaves what is read around it as a single word does.
-/
theorem parse_group
    {dialect : Dialect}
    {before after inner word : String}
    {front back program : List Instruction}
    (notBefore : ¬ word.toList <:+: before.toList)
    (notAfter : ¬ word.toList <:+: after.toList)
    (parsesWord :
      parse dialect (before ++ "(" ++ word ++ ")" ++ after) =
        .ok (front ++ [.atom (.word word)] ++ back))
    (parsesInner : parse dialect inner = .ok program) :
    parse dialect (before ++ "(" ++ inner ++ ")" ++ after) = .ok (front ++ program ++ back) ∧
      parse dialect (before ++ "[" ++ inner ++ "]" ++ after) =
        .ok (front ++ program ++ back) := by
  have text
      (shape : Delimiter)
      (middle : String) :
      (before ++ String.singleton shape.opening ++ middle ++
          String.singleton shape.closing ++ after).toList =
        shape.groupIn before.toList middle.toList after.toList := by
    simp [Delimiter.groupIn]
  rw [List.append_assoc, List.singleton_append] at parsesWord
  rw [List.append_assoc]
  exact ⟨parse_groupIn (text .round word) (text .round inner) notBefore notAfter
      parsesWord parsesInner,
    parse_groupIn (text .round word) (text .square inner) notBefore notAfter
      parsesWord parsesInner⟩

/-- Inside brackets, between an operator and a quantifier. -/
theorem parse_group_betweenOperators :
    let before := "a [b & "
    let after := "* | c]+"
    let inner := "x [y | \x7btag:NN\x7d]?"
    let front : List Instruction := [.atom (.word "a"), .atom (.word "b")]
    let back : List Instruction :=
      [.quantify .star, .connect .and, .atom (.word "c"), .connect .or, .quantify .plus,
        .concat]
    let program : List Instruction :=
      [.atom (.word "x"), .atom (.word "y"), .atom (.attributeIs "tag" (.literal "NN")),
        .connect .or, .quantify .maybe, .concat]
    ¬ "w".toList <:+: before.toList ∧
      ¬ "w".toList <:+: after.toList ∧
      parse .standard (before ++ "(" ++ "w" ++ ")" ++ after) =
        .ok (front ++ [.atom (.word "w")] ++ back) ∧
      parse .standard inner = .ok program ∧
      parse .standard (before ++ "(" ++ inner ++ ")" ++ after) =
        .ok (front ++ program ++ back) ∧
      parse .standard (before ++ "[" ++ inner ++ "]" ++ after) =
        .ok (front ++ program ++ back) := by
  intro before after inner front back program
  have notBefore : ¬ "w".toList <:+: before.toList := by
    decide +kernel
  have notAfter : ¬ "w".toList <:+: after.toList := by
    decide +kernel
  have parsesWord :
      parse .standard (before ++ "(" ++ "w" ++ ")" ++ after) =
        .ok (front ++ [.atom (.word "w")] ++ back) := by
    cbv
  have parsesInner : parse .standard inner = .ok program := by
    cbv
  exact ⟨notBefore, notAfter, parsesWord, parsesInner,
    parse_group notBefore notAfter parsesWord parsesInner⟩

end TokenPattern
