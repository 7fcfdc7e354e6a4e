namespace TokenPattern.Text

/-!
# Widths in bytes

Offsets into a pattern count the bytes of its UTF-8 form.
-/

/-- The number of bytes that characters take in UTF-8. -/
def width : List Char → Nat
  | [] => 0
  | char :: rest => char.utf8Size + width rest

@[simp] theorem width_nil : width [] = 0 := rfl

@[simp] theorem width_cons
    (char : Char)
    (rest : List Char) :
    width (char :: rest) = char.utf8Size + width rest := rfl

@[simp] theorem width_append
    (front back : List Char) :
    width (front ++ back) = width front + width back := by
  induction front with
  | nil =>
      simp
  | cons char rest inductionHypothesis =>
      simp [inductionHypothesis, Nat.add_assoc]

/-- Each character takes a byte. -/
theorem width_pos
    {text : List Char}
    (nonempty : text ≠ []) :
    0 < width text := by
  cases text with
  | nil =>
      exact (nonempty rfl).elim
  | cons first rest =>
      exact Nat.add_pos_left first.utf8Size_pos _

/-- The width of characters is the number of bytes of their string. -/
theorem width_eq_utf8ByteSize (text : List Char) :
    width text = (String.ofList text).utf8ByteSize := by
  induction text with
  | nil =>
      rfl
  | cons char rest inductionHypothesis =>
      rw [← List.singleton_append, String.ofList_append,
        String.utf8ByteSize_append, ← inductionHypothesis]
      simp

end TokenPattern.Text
