import Mathlib.Data.List.Basic
import TokenPattern.Tokenizer

namespace TokenPattern

/-!
# The pieces of a text

Cutting a text at each of its spaces undoes joining pieces without spaces by
spaces, and there is no other way to cut it.
-/

/-- A text is cut into pieces without spaces, which single spaces join to it. -/
structure CutAtSpaces (text : String) (pieces : List String) : Prop where
  ne_nil : pieces ≠ []
  space_not_mem : ∀ piece ∈ pieces, ' ' ∉ piece.toList
  join_eq : String.intercalate " " pieces = text

/-- The pieces of a text are what splitting it at spaces leaves. -/
theorem piecesOf_eq_splitOn (text : List Char) : piecesOf text = text.splitOn ' ' := by
  induction text with
  | nil =>
      rfl
  | cons char rest inductionHypothesis =>
      rw [piecesOf, List.splitOn_cons_eq_if_modifyHead, inductionHypothesis]
      by_cases isSpace : char = ' '
      · simp [isSpace]
      · cases pieces : rest.splitOn ' ' with
        | nil =>
            exact (List.splitOn_ne_nil _ _ pieces).elim
        | cons piece more =>
            simp [isSpace]

/-- No piece has a space. -/
theorem space_not_mem_piecesOf
    {text piece : List Char}
    (isPiece : piece ∈ piecesOf text) :
    ' ' ∉ piece := by
  induction text generalizing piece with
  | nil =>
      rw [List.mem_singleton.1 isPiece]
      exact List.not_mem_nil
  | cons char rest inductionHypothesis =>
      rw [piecesOf] at isPiece
      by_cases isSpace : char = ' '
      · rw [if_pos isSpace] at isPiece
        rcases List.mem_cons.1 isPiece with rfl | isLater
        · exact List.not_mem_nil
        · exact inductionHypothesis isLater
      · rw [if_neg isSpace] at isPiece
        cases pieces : piecesOf rest with
        | nil =>
            rw [pieces] at isPiece
            rw [List.mem_singleton.1 isPiece, List.mem_singleton]
            exact Ne.symm isSpace
        | cons first more =>
            rw [pieces] at isPiece inductionHypothesis
            rcases List.mem_cons.1 isPiece with rfl | isLater
            · intro isMember
              rcases List.mem_cons.1 isMember with same | isMember
              · exact isSpace same.symm
              · exact inductionHypothesis List.mem_cons_self isMember
            · exact inductionHypothesis (List.mem_cons_of_mem _ isLater)

/-- The pieces of a text as texts. -/
def textPieces (text : String) : List String :=
  (piecesOf text.toList).map String.ofList

theorem cutAtSpaces_textPieces (text : String) : CutAtSpaces text (textPieces text) where
  ne_nil := by
    rw [textPieces, piecesOf_eq_splitOn]
    intro isNil
    exact List.splitOn_ne_nil _ _ (List.map_eq_nil_iff.1 isNil)
  space_not_mem := by
    intro piece isPiece
    obtain ⟨chars, isChars, rfl⟩ := List.mem_map.1 isPiece
    rw [String.toList_ofList]
    exact space_not_mem_piecesOf isChars
  join_eq := by
    apply String.toList_injective
    rw [String.toList_intercalate, textPieces, List.map_map, piecesOf_eq_splitOn]
    simp [Function.comp_def, List.intercalate_splitOn]

/-- A text is cut in one way. -/
theorem CutAtSpaces.eq_textPieces
    {text : String}
    {pieces : List String}
    (cut : CutAtSpaces text pieces) :
    pieces = textPieces text := by
  have lists : ∀ chars ∈ pieces.map String.toList, ' ' ∉ chars := by
    intro chars isChars
    obtain ⟨piece, isPiece, rfl⟩ := List.mem_map.1 isChars
    exact cut.space_not_mem piece isPiece
  have notNil : pieces.map String.toList ≠ [] := mt List.map_eq_nil_iff.1 cut.ne_nil
  have split := List.splitOn_intercalate ' ' lists notNil
  have joined : [' '].intercalate (pieces.map String.toList) = text.toList := by
    rw [← cut.join_eq, String.toList_intercalate]
    rfl
  rw [textPieces, piecesOf_eq_splitOn, ← joined, split, List.map_map]
  simp [Function.comp_def]

/-- There is exactly one way to cut a text. -/
theorem existsUnique_cutAtSpaces (text : String) : ∃! pieces, CutAtSpaces text pieces :=
  ⟨textPieces text, cutAtSpaces_textPieces text, fun _ cut => cut.eq_textPieces⟩

/-- Spaces at an end or side by side leave empty pieces. -/
example : textPieces " a  b" = ["", "a", "", "b"] := by
  cbv

end TokenPattern
