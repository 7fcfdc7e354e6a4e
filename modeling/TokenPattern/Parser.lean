import TokenPattern.Lexeme.OfText

namespace TokenPattern

/-!
# Parsing

The parser takes lexemes from the left and emits instructions as it goes. It
keeps, for each open group, what was known of the sequence around the group.

`parse` may be called again after an error: the parser keeps its place, its
open groups, what it emitted and what it saw last, and only the sequence at
hand starts anew. Whether the lexeme at fault is read again depends on the
fault; a successful call takes the emitted instructions away.
-/

/-- What stood before the next lexeme, as far as quantifiers ask. -/
inductive Preceding where
  | nothing
  | blank
  | operand
  | quantifier
  deriving Repr, DecidableEq

/-- What is known of the sequence that is being read. -/
structure Sequence where
  /-- The finished terms of the current run. -/
  terms : Nat
  /-- Whether a term has been read that a quantifier may still follow. -/
  pendingTerm : Bool
  /-- The operators whose right operand is being read, the latest first. -/
  operators : List Connective
  deriving Repr, DecidableEq

/-- A sequence of which nothing has been read. -/
def Sequence.empty : Sequence :=
  ⟨0, false, []⟩

/-- A group that is open. -/
structure OpenGroup where
  shape : Delimiter
  /-- The opening delimiter. -/
  opener : Span
  /-- What is known of the sequence around the group. -/
  outer : Sequence
  deriving Repr, DecidableEq

/-- A parser between two lexemes. -/
structure Parser where
  pattern : String
  /-- The number of bytes before the next lexeme. -/
  offset : Nat
  /-- The lexemes that have not been read. -/
  pending : List Lexeme
  /-- The open groups, innermost first. -/
  groups : List OpenGroup
  /-- The emitted instructions, newest first. -/
  emitted : List Instruction
  preceding : Preceding
  deriving Repr, DecidableEq

/-- How a step of the parser ends. -/
inductive StepOutcome where
  /-- The lexeme is read; go on with the next one. -/
  | next (parser : Parser) (sequence : Sequence)
  /-- The call fails and leaves this parser. -/
  | stop (error : SyntaxError) (parser : Parser)
  deriving Repr, DecidableEq

namespace Parser

/-- A parser at the beginning of a pattern. -/
def ofPattern (dialect : Dialect) (pattern : String) : Parser :=
  ⟨pattern, 0, Lexeme.ofText dialect pattern.toList, [], [], .nothing⟩

/-- An error in the parser's pattern. -/
def errorAt (parser : Parser) (fault : Fault) (span : Span) : SyntaxError :=
  ⟨fault, parser.pattern, span⟩

/-- The span of a lexeme that comes next. -/
def spanOf (parser : Parser) (lexeme : Lexeme) : Span :=
  ⟨parser.offset, parser.offset + lexeme.width⟩

/-- Emit an instruction. -/
def emit (parser : Parser) (instruction : Instruction) : Parser :=
  { parser with emitted := instruction :: parser.emitted }

/-- Move past a lexeme, the first of those not read. -/
def skip (parser : Parser) (lexeme : Lexeme) : Parser :=
  { parser with offset := parser.offset + lexeme.width, pending := parser.pending.tail }

/-- Remember what stands before the next lexeme. -/
def after (parser : Parser) (preceding : Preceding) : Parser :=
  { parser with preceding := preceding }

/-- Emit the operators that wait in a sequence, the latest first. -/
def emitOperators (parser : Parser) (operators : List Connective) : Parser :=
  operators.foldl (fun parser operator => parser.emit (.connect operator)) parser

/-- Finish the pending term and join it to the run before it. -/
def finishTerm (parser : Parser) (sequence : Sequence) : Parser × Sequence :=
  if sequence.pendingTerm then
    let finished : Sequence :=
      { sequence with terms := sequence.terms + 1, pendingTerm := false }
    if finished.terms ≥ 2 then (parser.emit .concat, finished) else (parser, finished)
  else
    (parser, sequence)

/-- Read an atom. -/
def readAtom
    (parser : Parser)
    (sequence : Sequence)
    (lexeme : Lexeme)
    (test : Atom) :
    StepOutcome :=
  let (parser, sequence) := parser.finishTerm sequence
  .next
    (((parser.emit (.atom test)).skip lexeme).after .operand)
    { sequence with pendingTerm := true }

/-- Read an opening delimiter. -/
def readOpener
    (parser : Parser)
    (sequence : Sequence)
    (lexeme : Lexeme)
    (shape : Delimiter) :
    StepOutcome :=
  let (parser, sequence) := parser.finishTerm sequence
  let group : OpenGroup := ⟨shape, parser.spanOf lexeme, sequence⟩
  .next
    (({ parser with groups := group :: parser.groups }.skip lexeme).after .nothing)
    .empty

/-- The fault of a sequence that ends before its last run has a term. -/
def unfinishedFault (sequence : Sequence) (whenEmpty : Fault) : Fault :=
  if sequence.operators.isEmpty then whenEmpty else .missingOperand

/-- Read a closing delimiter. -/
def readCloser
    (parser : Parser)
    (sequence : Sequence)
    (lexeme : Lexeme)
    (shape : Delimiter) :
    StepOutcome :=
  let (parser, sequence) := parser.finishTerm sequence
  match parser.groups with
  | [] => .stop (parser.errorAt .groupUnopened (parser.spanOf lexeme)) parser
  | group :: outerGroups =>
      let left := { parser with groups := outerGroups }
      if group.shape ≠ shape then
        .stop (parser.errorAt .groupMismatch (parser.spanOf lexeme)) left
      else
        let closed := left.skip lexeme
        if sequence.terms = 0 then
          let fault := unfinishedFault sequence .emptyGroup
          .stop (parser.errorAt fault ⟨group.opener.start, closed.offset⟩) closed
        else
          .next
            ((closed.emitOperators sequence.operators).after .operand)
            { group.outer with pendingTerm := true }

/-- Whether operators may stand here: directly inside brackets. -/
def insideBrackets (parser : Parser) : Bool :=
  parser.groups.head?.any fun group => group.shape = .square

/-- Read an operator between operands. -/
def readConnective
    (parser : Parser)
    (sequence : Sequence)
    (lexeme : Lexeme)
    (operator : Connective) :
    StepOutcome :=
  if parser.insideBrackets then
    let (parser, sequence) := parser.finishTerm sequence
    if sequence.terms = 0 then
      .stop (parser.errorAt .missingOperand (parser.spanOf lexeme)) parser
    else
      let binds := fun (earlier : Connective) => operator.precedence ≤ earlier.precedence
      let applied := sequence.operators.takeWhile binds
      let waiting := sequence.operators.dropWhile binds
      .next
        (((parser.emitOperators applied).skip lexeme).after .nothing)
        ⟨0, false, operator :: waiting⟩
  else
    .stop (parser.errorAt .operatorOutsideBracket (parser.spanOf lexeme)) parser

/-- What is wrong with a quantifier here, if anything. -/
def quantifierFault? (parser : Parser) (sequence : Sequence) : Option Fault :=
  match parser.preceding with
  | .operand => none
  | .quantifier => some .repetitionStacked
  | .blank =>
      if sequence.pendingTerm then some .repetitionAfterWhitespace else some .repetitionMissing
  | .nothing => some .repetitionMissing

/-- Read a quantifier. -/
def readQuantifier
    (parser : Parser)
    (sequence : Sequence)
    (lexeme : Lexeme)
    (operator : Quantifier) :
    StepOutcome :=
  match parser.quantifierFault? sequence with
  | some fault => .stop (parser.errorAt fault (parser.spanOf lexeme)) parser
  | none =>
      .next (((parser.emit (.quantify operator)).skip lexeme).after .quantifier) sequence

/-- Read one lexeme, the first of those not read. -/
def step
    (parser : Parser)
    (sequence : Sequence)
    (lexeme : Lexeme) :
    StepOutcome :=
  match lexeme.symbol with
  | .blank => .next ((parser.skip lexeme).after .blank) sequence
  | .atom test => parser.readAtom sequence lexeme test
  | .opener shape => parser.readOpener sequence lexeme shape
  | .closer shape => parser.readCloser sequence lexeme shape
  | .connective operator => parser.readConnective sequence lexeme operator
  | .quantifier operator => parser.readQuantifier sequence lexeme operator
  | .stray => .stop (parser.errorAt .unexpectedChar (parser.spanOf lexeme)) parser
  | .broken fault lead =>
      let span : Span := ⟨parser.offset + Text.width lead, parser.offset + lexeme.width⟩
      .stop (parser.errorAt fault span) (parser.skip lexeme)

/-- End a call at the end of the text. -/
def finish
    (parser : Parser)
    (sequence : Sequence) :
    Except SyntaxError (List Instruction) × Parser :=
  let (parser, sequence) := parser.finishTerm sequence
  match parser.groups with
  | group :: outerGroups =>
      (.error (parser.errorAt .groupUnclosed group.opener), { parser with groups := outerGroups })
  | [] =>
      if sequence.terms = 0 then
        let fault := unfinishedFault sequence .emptyPattern
        (.error (parser.errorAt fault (.point parser.offset)), parser)
      else
        let complete := parser.emitOperators sequence.operators
        (.ok complete.emitted.reverse, { complete with emitted := [] })

/-- Read the given lexemes, which are those that the parser has not read. -/
def readAll :
    List Lexeme →
    Parser →
    Sequence →
    Except SyntaxError (List Instruction) × Parser
  | [], parser, sequence => parser.finish sequence
  | lexeme :: rest, parser, sequence =>
      match parser.step sequence lexeme with
      | .next parser sequence => readAll rest parser sequence
      | .stop error parser => (.error error, parser)

/-- Parse from where the parser stands to the end of the text or to an error. -/
def parse (parser : Parser) : Except SyntaxError (List Instruction) × Parser :=
  readAll parser.pending parser .empty

/-- The results of calling a parser again and again. -/
def parseRepeatedly : Nat → Parser → List (Except SyntaxError (List Instruction))
  | 0, _ => []
  | calls + 1, parser =>
      let (result, parser) := parser.parse
      result :: parseRepeatedly calls parser

end Parser

/-- The postfix program of a pattern. -/
def parse
    (dialect : Dialect)
    (pattern : String) :
    Except SyntaxError (List Instruction) :=
  (Parser.ofPattern dialect pattern).parse.1

end TokenPattern
