import TokenPattern.Proofs.Language
import TokenPattern.Proofs.TextPieces

namespace TokenPattern

/-!
# The language of pieces

What a pattern describes can be said of the pieces of a text, without tokens
and without a name for their attribute: a word accepts the piece equal to it
and a character pattern the pieces in which it is found.
-/

/-- The sequences that a tree describes over what its tests accept. -/
def PatternTree.languageOf {α : Type} (accepts : Atom → α → Prop) : PatternTree → Language α
  | .atom test => {word | ∃ item, word = [item] ∧ accepts test item}
  | .concat first second => first.languageOf accepts * second.languageOf accepts
  | .connect .or left right => left.languageOf accepts + right.languageOf accepts
  | .connect .and left right =>
      {word | (∃ item, word = [item]) ∧
        word ∈ left.languageOf accepts ∧ word ∈ right.languageOf accepts}
  | .quantify .maybe body => 1 + body.languageOf accepts
  | .quantify .star body => KStar.kstar (body.languageOf accepts)
  | .quantify .plus body => body.languageOf accepts * KStar.kstar (body.languageOf accepts)

namespace PatternTree

/-- The language of a tree is that over the records of which its tests hold. -/
theorem language_eq_languageOf
    {ρ : Type}
    [Record ρ]
    (dialect : Dialect)
    (defaultAttribute : String)
    (tree : PatternTree) :
    tree.language ρ dialect defaultAttribute =
      tree.languageOf fun test record => test.Holds dialect defaultAttribute record := by
  induction tree with
  | atom test =>
      rfl
  | concat first second firstHypothesis secondHypothesis =>
      rw [language, languageOf, firstHypothesis, secondHypothesis]
  | connect operator left right leftHypothesis rightHypothesis =>
      cases operator <;> rw [language, languageOf, leftHypothesis, rightHypothesis]
  | quantify operator body bodyHypothesis =>
      cases operator <;> rw [language, languageOf, bodyHypothesis]

end PatternTree

section Renaming

variable {α β : Type}

/-- The words whose renaming is in a language. -/
def renamedIn (rename : α → β) (language : Language β) : Language α :=
  {word | word.map rename ∈ language}

variable (rename : α → β)

theorem mem_renamedIn {language : Language β} {word : List α} :
    word ∈ renamedIn rename language ↔ word.map rename ∈ language :=
  Iff.rfl

/-- A renamed word is cut in two where the word is. -/
theorem renamedIn_mul (first second : Language β) :
    renamedIn rename (first * second) = renamedIn rename first * renamedIn rename second := by
  ext word
  rw [mem_renamedIn, Language.mem_mul, Language.mem_mul]
  constructor
  · intro isSequence
    obtain ⟨renamedFront, isFirst, renamedBack, isSecond, whole⟩ := isSequence
    obtain ⟨front, back, rfl, rfl, rfl⟩ := List.map_eq_append_iff.1 whole.symm
    exact ⟨front, isFirst, back, isSecond, rfl⟩
  · intro isSequence
    obtain ⟨front, isFirst, back, isSecond, rfl⟩ := isSequence
    exact ⟨_, isFirst, _, isSecond, List.map_append.symm⟩

/-- A renamed word is cut into parts where the word is. -/
theorem renamedIn_kstar (language : Language β) :
    renamedIn rename (KStar.kstar language) = KStar.kstar (renamedIn rename language) := by
  ext word
  rw [mem_renamedIn, Language.mem_kstar, Language.mem_kstar]
  constructor
  · intro isSequence
    obtain ⟨renamedParts, whole, allIn⟩ := isSequence
    induction renamedParts generalizing word with
    | nil =>
        cases List.map_eq_nil_iff.1 whole
        exact ⟨[], rfl, by simp⟩
    | cons first rest inductionHypothesis =>
        obtain ⟨front, back, rfl, rfl, isRest⟩ := List.map_eq_append_iff.1 whole
        obtain ⟨firstIn, restIn⟩ := List.forall_mem_cons.1 allIn
        obtain ⟨parts, rfl, partsIn⟩ := inductionHypothesis back isRest restIn
        exact ⟨front :: parts, rfl, List.forall_mem_cons.2 ⟨firstIn, partsIn⟩⟩
  · intro isSequence
    obtain ⟨parts, rfl, allIn⟩ := isSequence
    refine ⟨parts.map (List.map rename), List.map_flatten, ?_⟩
    intro renamed isRenamed
    obtain ⟨part, isPart, rfl⟩ := List.mem_map.1 isRenamed
    exact allIn part isPart

/-- A renamed word is described by a tree if the tests accept what they accept renamed. -/
theorem renamedIn_languageOf
    {tree : PatternTree}
    {accepts : Atom → β → Prop}
    {otherAccepts : Atom → α → Prop}
    (same :
      ∀ test,
        .atom test ∈ tree.program →
          ∀ item, accepts test (rename item) ↔ otherAccepts test item) :
    renamedIn rename (tree.languageOf accepts) = tree.languageOf otherAccepts := by
  induction tree with
  | atom test =>
      ext word
      rw [mem_renamedIn]
      constructor
      · intro isItem
        obtain ⟨renamed, isRenamed, accepted⟩ := isItem
        obtain ⟨item, rfl, rfl⟩ := List.map_eq_singleton_iff.1 isRenamed
        exact ⟨item, rfl, (same test (by simp [PatternTree.program]) item).1 accepted⟩
      · intro isItem
        obtain ⟨item, rfl, accepted⟩ := isItem
        exact ⟨_, rfl, (same test (by simp [PatternTree.program]) item).2 accepted⟩
  | concat first second firstHypothesis secondHypothesis =>
      have sameFirst := firstHypothesis fun test isTest =>
        same test (by simp [PatternTree.program, isTest])
      have sameSecond := secondHypothesis fun test isTest =>
        same test (by simp [PatternTree.program, isTest])
      rw [PatternTree.languageOf, renamedIn_mul, sameFirst, sameSecond]
      rfl
  | connect operator left right leftHypothesis rightHypothesis =>
      have sameLeft := leftHypothesis fun test isTest =>
        same test (by simp [PatternTree.program, isTest])
      have sameRight := rightHypothesis fun test isTest =>
        same test (by simp [PatternTree.program, isTest])
      cases operator with
      | or =>
          rw [PatternTree.languageOf, PatternTree.languageOf, ← sameLeft, ← sameRight]
          rfl
      | and =>
          ext word
          rw [mem_renamedIn, PatternTree.languageOf, PatternTree.languageOf, ← sameLeft,
            ← sameRight]
          refine and_congr ?_ Iff.rfl
          constructor
          · intro isItem
            obtain ⟨renamed, isRenamed⟩ := isItem
            obtain ⟨item, rfl, _⟩ := List.map_eq_singleton_iff.1 isRenamed
            exact ⟨item, rfl⟩
          · intro isItem
            obtain ⟨item, rfl⟩ := isItem
            exact ⟨_, rfl⟩
  | quantify operator body bodyHypothesis =>
      have sameBody := bodyHypothesis fun test isTest =>
        same test (by simp [PatternTree.program, isTest])
      cases operator with
      | maybe =>
          ext word
          rw [mem_renamedIn, PatternTree.languageOf, PatternTree.languageOf, ← sameBody,
            Language.mem_add, Language.mem_add, Language.mem_one, Language.mem_one,
            List.map_eq_nil_iff]
          rfl
      | star =>
          rw [PatternTree.languageOf, renamedIn_kstar, sameBody]
          rfl
      | plus =>
          rw [PatternTree.languageOf, renamedIn_mul, renamedIn_kstar, sameBody]
          rfl

end Renaming

/-- What a test accepts of a piece; no piece has another attribute than the default one. -/
def Atom.AcceptsPiece (dialect : Dialect) : Atom → String → Prop
  | .word text, piece => piece = text
  | .found charPattern, piece => dialect.finds charPattern.source piece = true
  | .attributeIs _ _, _ => False

/-- The sequences of pieces that a tree describes. -/
def PatternTree.pieceLanguage (dialect : Dialect) (tree : PatternTree) : Language String :=
  tree.languageOf fun test piece => test.AcceptsPiece dialect piece

/-- Some test of a tree asks for the attribute of that name. -/
def PatternTree.Mentions (tree : PatternTree) (name : String) : Prop :=
  ∃ value, .atom (.attributeIs name value) ∈ tree.program

/-- The token of a piece. -/
def pieceToken (name piece : String) : Token :=
  Tokenizer.tokenOf name piece.toList

/-- The standard tokenizer makes a token of each piece. -/
theorem tokenize_spaces (name text : String) :
    (Tokenizer.spaces name).tokenize text = (textPieces text).map (pieceToken name) := by
  simp [Tokenizer.spaces, textPieces, pieceToken, Function.comp_def]

/-- The token of a piece has the piece as its only attribute. -/
theorem attribute?_pieceToken (name piece other : String) :
    Record.attribute? (pieceToken name piece) other =
      if other = name then some piece else none := by
  change (Std.TreeMap.insert ∅ name (String.ofList piece.toList))[other]? = _
  rw [Std.TreeMap.getElem?_insert]
  by_cases isName : other = name
  · simp [isName]
  · simp [isName, Ne.symm isName]

/-- Under a name that no test asks for, what holds of a piece's token is what it accepts. -/
theorem Atom.holds_pieceToken_iff
    {dialect : Dialect}
    {name piece : String}
    {test : Atom}
    (otherName : ∀ value, test ≠ .attributeIs name value) :
    test.Holds dialect name (pieceToken name piece) ↔ test.AcceptsPiece dialect piece := by
  cases test with
  | word text =>
      rw [Holds, attribute?_pieceToken, if_pos rfl, AcceptsPiece, Option.some.injEq]
  | found charPattern =>
      rw [Holds, attribute?_pieceToken, if_pos rfl, AcceptsPiece]
      simp
  | attributeIs asked value =>
      have notAsked : asked ≠ name := by
        rintro rfl
        exact otherName value rfl
      cases value <;> simp [Holds, attribute?_pieceToken, notAsked, AcceptsPiece]

/-- Tokens of pieces are described exactly if the pieces are. -/
theorem PatternTree.map_pieceToken_mem_language_iff
    {tree : PatternTree}
    {name : String}
    (unmentioned : ¬ tree.Mentions name)
    (dialect : Dialect)
    (pieces : List String) :
    pieces.map (pieceToken name) ∈ tree.language Token dialect name ↔
      pieces ∈ tree.pieceLanguage dialect := by
  have sameLanguage :
      renamedIn (pieceToken name) (tree.language Token dialect name) =
        tree.pieceLanguage dialect := by
    rw [language_eq_languageOf]
    apply renamedIn_languageOf
    intro test isTest piece
    apply Atom.holds_pieceToken_iff
    intro value asks
    exact unmentioned ⟨value, asks ▸ isTest⟩
  rw [← sameLanguage, mem_renamedIn]

/-- Some tokens of pieces from the first on are described exactly if some pieces are. -/
theorem PatternTree.exists_prefix_pieceTokens_iff
    {tree : PatternTree}
    {name : String}
    (unmentioned : ¬ tree.Mentions name)
    (dialect : Dialect)
    (pieces : List String) :
    (∃ front,
      front <+: pieces.map (pieceToken name) ∧ front ∈ tree.language Token dialect name) ↔
      ∃ front, front <+: pieces ∧ front ∈ tree.pieceLanguage dialect := by
  constructor
  · intro described
    obtain ⟨tokens, isPrefix, inLanguage⟩ := described
    obtain ⟨front, isFront, rfl⟩ := List.prefix_map_iff.1 isPrefix
    exact ⟨front, isFront, (map_pieceToken_mem_language_iff unmentioned dialect front).1 inLanguage⟩
  · intro described
    obtain ⟨front, isFront, inLanguage⟩ := described
    refine ⟨front.map (pieceToken name), List.prefix_map_iff.2 ⟨front, isFront, rfl⟩, ?_⟩
    exact (map_pieceToken_mem_language_iff unmentioned dialect front).2 inLanguage

end TokenPattern
