import TokenPattern.Proofs.ParserCorrectness
import TokenPattern.Proofs.ParserStop
import TokenPattern.Proofs.Settled

namespace TokenPattern

/-!
# Completing a pattern

Wherever the parser stands in a text, an atom and the closing delimiters of the
open groups make a pattern of what was read.
-/

/-- The character of a closing delimiter. -/
def Delimiter.closing : Delimiter → Char
  | .round => ')'
  | .square => ']'

/-- The closing delimiter of a shape. -/
def Lexeme.ofCloser (shape : Delimiter) : Lexeme :=
  ⟨.closer shape, [shape.closing]⟩

/-- A text that some continuation makes a pattern. -/
def Completable (dialect : Dialect) (text : String) : Prop :=
  ∃ more program, parse dialect (text ++ more) = .ok program

theorem Lexeme.settled_ofCloser (dialect : Dialect) (shape : Delimiter) :
    Settled dialect (ofCloser shape) := by
  cases shape <;> exact settled_of_cut rfl fun _ => rfl

namespace Parser

/-- The closing delimiters of open groups. -/
def closers (groups : List OpenGroup) : List Lexeme :=
  groups.map fun group => .ofCloser group.shape

theorem ofText_closers (dialect : Dialect) (groups : List OpenGroup) :
    Lexeme.ofText dialect ((closers groups).flatMap Lexeme.text) = closers groups := by
  induction groups with
  | nil =>
      simp [closers, Lexeme.ofText]
  | cons group outerGroups inductionHypothesis =>
      have settled := Lexeme.settled_ofCloser dialect group.shape
      rw [closers, List.map_cons, List.flatMap_cons, settled]
      exact congrArg _ inductionHypothesis

theorem stops_closers (groups : List OpenGroup) :
    Lexeme.Stops Char.isAlphanum ((closers groups).flatMap Lexeme.text) := by
  cases groups with
  | nil =>
      simp [closers, Lexeme.Stops]
  | cons group outerGroups =>
      refine Lexeme.stops_cons ?_ _
      cases group.shape <;> decide

theorem ofText_letter_closers (dialect : Dialect) (groups : List OpenGroup) :
    Lexeme.ofText dialect ('a' :: (closers groups).flatMap Lexeme.text) =
      ⟨.atom (.word (String.ofList ['a'])), ['a']⟩ :: closers groups := by
  have ends := Lexeme.endsBefore_of_stops (stops_closers groups) ['a']
  rw [← List.singleton_append, Lexeme.ofText_of_endsBefore (.word Lexeme.isWord_letter) ends,
    ofText_closers]

/-- The closing delimiters of all open groups can be read behind a term. -/
theorem exists_reads_closers
    (groups : List OpenGroup)
    {parser : Parser}
    {sequence : Sequence}
    (isOpen : parser.groups = groups)
    (nonempty : sequence.finished.terms ≠ 0) :
    ∃ last lastSequence,
      parser.Reads sequence (closers groups) last lastSequence ∧
        last.groups = [] ∧
        lastSequence.finished.terms ≠ 0 := by
  induction groups generalizing parser sequence with
  | nil =>
      exact ⟨parser, sequence, .nothing _ _, isOpen, nonempty⟩
  | cons group outerGroups inductionHypothesis =>
      obtain ⟨next, nextSequence, closes, outerOpen, hasTerm⟩ :
          ∃ next nextSequence,
            parser.Advances sequence (.ofCloser group.shape) next nextSequence ∧
              next.groups = outerGroups ∧
              nextSequence.finished.terms ≠ 0 :=
        ⟨_, _, .closer rfl isOpen nonempty, rfl, Nat.succ_ne_zero _⟩
      obtain ⟨last, lastSequence, reads, noGroup, lastNonempty⟩ :=
        inductionHypothesis outerOpen hasTerm
      exact ⟨last, lastSequence, .lexeme closes reads, noGroup, lastNonempty⟩

variable {dialect : Dialect}
variable {pattern : String}
variable {front : List Lexeme}
variable {last : Parser}
variable {lastSequence : Sequence}

theorem reads_elsewhere
    (reads : (ofPattern dialect pattern).Reads .empty front last lastSequence)
    {other : String}
    {back : List Lexeme}
    (isCut : Lexeme.ofText dialect other.toList = front ++ back) :
    (ofPattern dialect other).Reads .empty front
      (last.elsewhere other back) lastSequence := by
  have readsThere := reads.elsewhere other back
  rw [← isCut] at readsThere
  exact readsThere

/-- What was read is a pattern with one more atom and the closing delimiters. -/
theorem exists_program_of_atom
    (reads : (ofPattern dialect pattern).Reads .empty front last lastSequence)
    {other : String}
    {lexeme : Lexeme}
    {test : Atom}
    (symbol : lexeme.symbol = .atom test)
    (isCut :
      Lexeme.ofText dialect other.toList =
        front ++ lexeme :: closers last.groups) :
    ∃ program, TokenPattern.parse dialect other = .ok program := by
  have readsFront := reads_elsewhere reads isCut
  obtain ⟨next, nextSequence, readsAtom, sameGroups, hasTerm⟩ :
      ∃ next nextSequence,
        (last.elsewhere other (lexeme :: closers last.groups)).Advances
            lastSequence lexeme next nextSequence ∧
          next.groups = last.groups ∧
          nextSequence.finished.terms ≠ 0 :=
    ⟨_, _, .atom symbol, rfl, Nat.succ_ne_zero _⟩
  obtain ⟨final, finalSequence, readsClosers, noGroup, nonempty⟩ :=
    exists_reads_closers last.groups sameGroups hasTerm
  have readsAll := readsFront.append (.lexeme readsAtom readsClosers)
  have result := readsAll.readAll_eq
  rw [← isCut] at result
  exact ⟨_, (congrArg Prod.fst result).trans
    (finish_eq_ok_iff.2 ⟨noGroup, nonempty, rfl⟩)⟩

/-- A text can be completed where an atom starts or goes on. -/
theorem completable_of_atom
    (reads : (ofPattern dialect pattern).Reads .empty front last lastSequence)
    (before more : List Char)
    {lexeme : Lexeme}
    {test : Atom}
    (symbol : lexeme.symbol = .atom test)
    (isCut :
      Lexeme.ofText dialect
          (before ++ (more ++ (closers last.groups).flatMap Lexeme.text)) =
        front ++ lexeme :: closers last.groups) :
    Completable dialect (String.ofList before) := by
  have isCutAgain :
      Lexeme.ofText dialect
          (String.ofList before ++
            String.ofList (more ++ (closers last.groups).flatMap Lexeme.text)).toList =
        front ++ lexeme :: closers last.groups := by
    rw [← String.ofList_append, String.toList_ofList]
    exact isCut
  obtain ⟨program, parses⟩ := exists_program_of_atom reads symbol isCutAgain
  exact ⟨_, program, parses⟩

theorem sound_of_reads
    (reads : (ofPattern dialect pattern).Reads .empty front last lastSequence) :
    ∀ lexeme ∈ front, lexeme.symbol.IsSound :=
  fun _ member => reads.isSound _ (List.mem_map_of_mem member)

/-- What was read can be completed. -/
theorem completable_of_reads
    (reads : (ofPattern dialect pattern).Reads .empty front last lastSequence)
    {back : List Lexeme}
    (isCut : Lexeme.ofText dialect pattern.toList = front ++ back) :
    Completable dialect (String.ofList (front.flatMap Lexeme.text)) := by
  -- A blank keeps the letter from going on with a word that was read last.
  have readsBlank := reads.snoc (.blank (rfl : (Lexeme.mk .blank [' ']).symbol = .blank))
  have again :
      Lexeme.ofText dialect
          (front.flatMap Lexeme.text ++
            ' ' :: 'a' :: (closers last.groups).flatMap Lexeme.text) =
        front ++ ⟨.blank, [' ']⟩ ::
          ⟨.atom (.word (String.ofList ['a'])), ['a']⟩ :: closers last.groups := by
    rw [Lexeme.ofText_append_of_stops isCut (sound_of_reads reads)
      (Lexeme.stops_cons (by decide) _), Lexeme.ofText,
      Lexeme.cut_of_isBlank (by decide), ofText_letter_closers]
  have symbol :
      (Lexeme.mk (.atom (.word (String.ofList ['a']))) ['a']).symbol = .atom _ := rfl
  refine completable_of_atom readsBlank _ [' ', 'a'] symbol ?_
  rw [List.append_assoc front]
  exact again

/-- What was read can be completed inside a test of an attribute. -/
theorem completable_in_attribute
    (reads : (ofPattern dialect pattern).Reads .empty front last lastSequence)
    {back : List Lexeme}
    (isCut : Lexeme.ofText dialect pattern.toList = front ++ back)
    {start more : List Char}
    {test : Atom}
    (completes :
      ∀ other,
        Lexeme.cutAttribute dialect (start ++ (more ++ other)) =
          (⟨.atom test, '\x7b' :: (start ++ more)⟩, other)) :
    Completable dialect
      (String.ofList (front.flatMap Lexeme.text ++ '\x7b' :: start)) := by
  have symbol :
      (Lexeme.mk (.atom test) ('\x7b' :: (start ++ more))).symbol = .atom test := rfl
  refine completable_of_atom reads _ more symbol ?_
  rw [List.append_assoc, List.cons_append, Lexeme.ofText_append_of_stops isCut
    (sound_of_reads reads) (Lexeme.stops_cons (by decide) _), Lexeme.ofText,
    Lexeme.cut_brace, completes, ofText_closers]

end Parser

end TokenPattern
