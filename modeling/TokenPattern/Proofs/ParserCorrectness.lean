import TokenPattern.Proofs.Cutting
import TokenPattern.Proofs.ParserCompleteness
import TokenPattern.Proofs.ParserSoundness

namespace TokenPattern

/-!
# Parsing is deriving

A pattern is parsed exactly if it is cut into symbols that derive from the
grammar, and the instructions are the program of the derived tree.
-/

namespace Parser

variable {parser next : Parser}
variable {sequence nextSequence : Sequence}

/-- No fault is read. -/
theorem Advances.isSound
    {lexeme : Lexeme}
    (advances : parser.Advances sequence lexeme next nextSequence) :
    lexeme.symbol.IsSound := by
  cases advances with
  | blank symbol | atom symbol | opener symbol | closer symbol
  | connective symbol | quantifier symbol =>
      rw [symbol]
      trivial

/-- No faults are read. -/
theorem Reads.isSound
    {lexemes : List Lexeme}
    (reads : parser.Reads sequence lexemes next nextSequence) :
    ∀ symbol ∈ lexemes.map Lexeme.symbol, symbol.IsSound := by
  induction reads with
  | nothing =>
      simp
  | lexeme advances _ inductionHypothesis =>
      exact List.forall_mem_cons.2 ⟨advances.isSound, inductionHypothesis⟩

/-- At the beginning of a pattern nothing has been read or emitted. -/
theorem parsed_ofPattern
    (dialect : Dialect)
    (pattern : String) :
    Parsed (ofPattern dialect pattern) .empty [] :=
  .intro .nowhere .nothing (by simp [Sequence.empty])
    (.outset (by simp [ofPattern]) allBlank_nil) rfl rfl

end Parser

/-- A pattern that is parsed is cut into symbols that derive from the grammar. -/
theorem exists_derivation_of_parse
    {dialect : Dialect}
    {pattern : String}
    {program : List Instruction}
    (parses : parse dialect pattern = .ok program) :
    ∃ symbols tree,
      Cut dialect pattern.toList symbols ∧
        Derives .run symbols tree ∧
        tree.program = program := by
  obtain ⟨last, lastSequence, reads, finishes⟩ :=
    Parser.exists_reads_of_readAll parses
  obtain ⟨noGroup, nonempty, rfl⟩ := Parser.finish_eq_ok_iff.1 finishes
  have parsed := (Parser.parsed_ofPattern dialect pattern).reads reads
  obtain ⟨tree, run, treeProgram⟩ := parsed.exists_run noGroup nonempty
  exact ⟨_, tree, Lexeme.cut_iff.2 ⟨rfl, reads.isSound⟩, run, treeProgram⟩

/-- The parser accepts what derives from the grammar and emits the derived program. -/
theorem parse_eq_ok_iff
    (dialect : Dialect)
    (pattern : String)
    (program : List Instruction) :
    parse dialect pattern = .ok program ↔
      ∃ symbols tree,
        Cut dialect pattern.toList symbols ∧
          Derives .run symbols tree ∧
          tree.program = program := by
  constructor
  · exact exists_derivation_of_parse
  · rintro ⟨symbols, tree, isCut, run, rfl⟩
    obtain ⟨same, _⟩ := Lexeme.cut_iff.1 isCut
    obtain ⟨last, others, reads, groups, emitted⟩ :=
      Parser.understands_of_derives run same (.ofPattern dialect pattern) []
    have finishes :
        (last.finish (Parser.afterTerm others [])).1 = .ok tree.program := by
      refine Parser.finish_eq_ok_iff.2 ⟨groups, Nat.succ_ne_zero others, ?_⟩
      rw [Parser.joint_afterTerm, emitted]
      simp [Parser.ofPattern, Parser.afterTerm, emittedOperators]
    rw [← finishes, ← reads.readAll_eq]
    rfl

example :
    parse .standard "a [b&c|d]*" =
      .ok [.atom (.word "a"), .atom (.word "b"), .atom (.word "c"),
        .connect .and, .atom (.word "d"), .connect .or, .quantify .star,
        .concat] := by
  cbv

end TokenPattern
