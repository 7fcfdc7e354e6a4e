import Mathlib.Data.Set.Function
import TokenPattern.Proofs.Cutting

namespace TokenPattern

/-!
# Escaping slashes

A text is read from the left as units: a backslash belongs to the character
behind it, and any other character stands for itself.  A source is written as the
body of a literal by giving a backslash to each slash that has none, and read from
it by taking these backslashes away.  Both put one unit in the place of another
that the text lacks, so that one undoes the other.
-/

/-- A character with a backslash or without one. -/
inductive EscapeUnit where
  | pair (char : Char)
  | single (char : Char)
  deriving Repr, DecidableEq

namespace EscapeUnit

/-- The unit as it is written. -/
def text : EscapeUnit → List Char
  | .pair char => ['\\', char]
  | .single char => [char]

/-- A backslash with no character behind it. -/
def lone : EscapeUnit :=
  .single '\\'

/-- The new unit if the unit is the old one. -/
def replace (old new unit : EscapeUnit) : EscapeUnit :=
  if unit = old then new else unit

end EscapeUnit

/-- The units of a text, from the left; a backslash is alone only at the end. -/
def unitsOf : List Char → List EscapeUnit
  | [] => []
  | '\\' :: char :: rest => .pair char :: unitsOf rest
  | char :: rest => .single char :: unitsOf rest

/-- The text with a new unit in each place of an old one. -/
def replaceUnits (old new : EscapeUnit) (text : List Char) : List Char :=
  ((unitsOf text).map (EscapeUnit.replace old new)).flatMap EscapeUnit.text

/-- A text in which a unit does not occur and no backslash is alone. -/
def Lacks (absent : EscapeUnit) (text : List Char) : Prop :=
  ∀ unit ∈ unitsOf text, unit ≠ absent ∧ unit ≠ .lone

/-- A source in which no slash has a backslash and no backslash is alone. -/
def IsAdmissible (source : List Char) : Prop :=
  Lacks (.pair '/') source

/-- A text in which each slash has a backslash and no backslash is alone. -/
def IsLiteralBody (body : List Char) : Prop :=
  Lacks (.single '/') body

/-- The source with a backslash before each slash that has none. -/
def escape (source : List Char) : List Char :=
  replaceUnits (.single '/') (.pair '/') source

/-- The body without the backslashes before slashes. -/
def unescape (body : List Char) : List Char :=
  replaceUnits (.pair '/') (.single '/') body

namespace EscapeUnit

variable {old new unit : EscapeUnit}

theorem replace_replace (notNew : unit ≠ new) : replace new old (replace old new unit) = unit := by
  unfold replace
  by_cases isOld : unit = old
  · simp [isOld]
  · simp [isOld, notNew]

theorem replace_ne_old
    (differ : new ≠ old)
    (unit : EscapeUnit) :
    replace old new unit ≠ old := by
  unfold replace
  by_cases isOld : unit = old
  · simpa [isOld] using differ
  · simp [isOld]

theorem replace_ne_lone
    (newNotLone : new ≠ .lone)
    (notLone : unit ≠ .lone) :
    replace old new unit ≠ .lone := by
  unfold replace
  by_cases isOld : unit = old
  · simpa [isOld] using newNotLone
  · simpa [isOld] using notLone

end EscapeUnit

theorem unitsOf_cons
    {char : Char}
    (notBackslash : char ≠ '\\')
    (rest : List Char) :
    unitsOf (char :: rest) = .single char :: unitsOf rest := by
  simp [unitsOf, notBackslash]

/-- A text is made up of its units. -/
theorem flatMap_text_unitsOf (text : List Char) :
    (unitsOf text).flatMap EscapeUnit.text = text := by
  fun_induction unitsOf text with
  | case1 =>
      rfl
  | case2 char rest inductionHypothesis | case3 char rest _ inductionHypothesis =>
      rw [List.flatMap_cons, inductionHypothesis]
      rfl

/-- Units are read from their text as they are, unless a backslash among them is alone. -/
theorem unitsOf_flatMap_text
    {units : List EscapeUnit}
    (noneLone : ∀ unit ∈ units, unit ≠ .lone) :
    unitsOf (units.flatMap EscapeUnit.text) = units := by
  induction units with
  | nil =>
      rfl
  | cons unit rest inductionHypothesis =>
      obtain ⟨notLone, restNotLone⟩ := List.forall_mem_cons.1 noneLone
      rw [List.flatMap_cons]
      cases unit with
      | pair char =>
          exact congrArg (EscapeUnit.pair char :: ·) (inductionHypothesis restNotLone)
      | single char =>
          have notBackslash : char ≠ '\\' := by
            rintro rfl
            exact notLone rfl
          rw [EscapeUnit.text, List.singleton_append, unitsOf_cons notBackslash,
            inductionHypothesis restNotLone]

namespace Lacks

variable {old new : EscapeUnit}
variable {text : List Char}

/-- The units with the new one in place of the old one are those of the new text. -/
theorem unitsOf_replaceUnits
    (lacks : Lacks new text)
    (notLone : new ≠ .lone)
    (old : EscapeUnit) :
    unitsOf (replaceUnits old new text) = (unitsOf text).map (EscapeUnit.replace old new) := by
  apply unitsOf_flatMap_text
  intro replaced isReplaced
  obtain ⟨unit, isUnit, rfl⟩ := List.mem_map.1 isReplaced
  exact EscapeUnit.replace_ne_lone notLone (lacks unit isUnit).2

/-- What is put in the place of a unit can be taken back where it was not there before. -/
theorem replaceUnits_back
    (lacks : Lacks new text)
    (notLone : new ≠ .lone) :
    replaceUnits new old (replaceUnits old new text) = text := by
  have unchanged :
      (unitsOf text).map (EscapeUnit.replace new old ∘ EscapeUnit.replace old new) =
        (unitsOf text).map id :=
    List.map_congr_left fun unit isUnit => EscapeUnit.replace_replace (lacks unit isUnit).1
  rw [replaceUnits, lacks.unitsOf_replaceUnits notLone, List.map_map, unchanged, List.map_id,
    flatMap_text_unitsOf]

/-- What another unit takes the place of is lacking. -/
theorem replaceUnits
    (lacks : Lacks new text)
    (notLone : new ≠ .lone)
    (differ : new ≠ old) :
    Lacks old (replaceUnits old new text) := by
  intro replaced isReplaced
  rw [lacks.unitsOf_replaceUnits notLone] at isReplaced
  obtain ⟨unit, isUnit, rfl⟩ := List.mem_map.1 isReplaced
  exact ⟨EscapeUnit.replace_ne_old differ unit,
    EscapeUnit.replace_ne_lone notLone (lacks unit isUnit).2⟩

end Lacks

section Bodies

variable {source body : List Char}

/-- An escaped source stands for the source. -/
theorem unescape_escape (isAdmissible : IsAdmissible source) :
    unescape (escape source) = source :=
  isAdmissible.replaceUnits_back (by decide)

/-- What a body stands for is escaped as the body. -/
theorem escape_unescape (isBody : IsLiteralBody body) :
    escape (unescape body) = body :=
  isBody.replaceUnits_back (by decide)

example :
    escape ['\\', '\\', '/', 'é'] = ['\\', '\\', '\\', '/', 'é'] ∧
      unescape ['\\', '\\', '\\', '/', 'é'] = ['\\', '\\', '/', 'é'] := by
  decide

theorem isLiteralBody_escape (isAdmissible : IsAdmissible source) :
    IsLiteralBody (escape source) :=
  isAdmissible.replaceUnits (by decide) (by decide)

theorem isAdmissible_unescape (isBody : IsLiteralBody body) :
    IsAdmissible (unescape body) :=
  isBody.replaceUnits (by decide) (by decide)

/-- Bodies and admissible sources correspond to each other. -/
theorem unescape_bijOn :
    Set.BijOn unescape {body | IsLiteralBody body} {source | IsAdmissible source} := by
  have inverse :
      Set.InvOn escape unescape {body | IsLiteralBody body} {source | IsAdmissible source} :=
    ⟨fun _ => escape_unescape, fun _ => unescape_escape⟩
  exact inverse.bijOn (fun _ => isAdmissible_unescape) (fun _ => isLiteralBody_escape)

theorem isLiteralBody_nil : IsLiteralBody [] := by
  intro unit isUnit
  cases isUnit

theorem isLiteralBody_pair_iff (char : Char) (body : List Char) :
    IsLiteralBody ('\\' :: char :: body) ↔ IsLiteralBody body := by
  simp [IsLiteralBody, Lacks, unitsOf, EscapeUnit.lone]

theorem isLiteralBody_cons_iff
    {char : Char}
    (notBackslash : char ≠ '\\')
    (body : List Char) :
    IsLiteralBody (char :: body) ↔ char ≠ '/' ∧ IsLiteralBody body := by
  simp [IsLiteralBody, Lacks, unitsOf_cons notBackslash, EscapeUnit.lone, notBackslash]

theorem unescape_slash (body : List Char) :
    unescape ('\\' :: '/' :: body) = '/' :: unescape body :=
  rfl

theorem unescape_pair
    {char : Char}
    (notSlash : char ≠ '/')
    (body : List Char) :
    unescape ('\\' :: char :: body) = '\\' :: char :: unescape body := by
  simp [unescape, replaceUnits, unitsOf, EscapeUnit.replace, EscapeUnit.text, notSlash]

theorem unescape_cons
    {char : Char}
    (notBackslash : char ≠ '\\')
    (body : List Char) :
    unescape (char :: body) = char :: unescape body := by
  simp [unescape, replaceUnits, unitsOf_cons notBackslash, EscapeUnit.replace, EscapeUnit.text]

/-- A body, read character by character, stands for the source that it is unescaped to. -/
theorem escaped_iff_unescape :
    Escaped body source ↔ IsLiteralBody body ∧ source = unescape body := by
  constructor
  · intro escaped
    induction escaped with
    | nil =>
        exact ⟨isLiteralBody_nil, rfl⟩
    | slash _ inductionHypothesis =>
        rw [isLiteralBody_pair_iff, unescape_slash]
        exact ⟨inductionHypothesis.1, congrArg _ inductionHypothesis.2⟩
    | pair notSlash _ inductionHypothesis =>
        rw [isLiteralBody_pair_iff, unescape_pair notSlash]
        exact ⟨inductionHypothesis.1, congrArg _ (congrArg _ inductionHypothesis.2)⟩
    | plain notSlash notBackslash _ inductionHypothesis =>
        rw [isLiteralBody_cons_iff notBackslash, unescape_cons notBackslash]
        exact ⟨⟨notSlash, inductionHypothesis.1⟩, congrArg _ inductionHypothesis.2⟩
  · rintro ⟨isBody, rfl⟩
    -- The induction takes a body apart as the reading of units does.
    fun_induction unitsOf body with
    | case1 =>
        exact .nil
    | case2 char rest inductionHypothesis =>
        rw [isLiteralBody_pair_iff] at isBody
        by_cases isSlash : char = '/'
        · subst isSlash
          exact .slash (inductionHypothesis isBody)
        · rw [unescape_pair isSlash]
          exact .pair isSlash (inductionHypothesis isBody)
    | case3 char rest notPair inductionHypothesis =>
        have notBackslash : char ≠ '\\' := by
          rintro rfl
          cases rest with
          | nil =>
              exact (isBody .lone (by simp [unitsOf, EscapeUnit.lone])).2 rfl
          | cons next tail =>
              exact notPair next tail rfl rfl
        rw [isLiteralBody_cons_iff notBackslash] at isBody
        rw [unescape_cons notBackslash]
        exact .plain isBody.1 notBackslash (inductionHypothesis isBody.2)

/-- A source is read from the body that it is escaped as, and from no other. -/
theorem escaped_iff_escape :
    Escaped body source ↔ IsAdmissible source ∧ body = escape source := by
  rw [escaped_iff_unescape]
  constructor
  · rintro ⟨isBody, rfl⟩
    exact ⟨isAdmissible_unescape isBody, (escape_unescape isBody).symm⟩
  · rintro ⟨isAdmissible, rfl⟩
    exact ⟨isLiteralBody_escape isAdmissible, (unescape_escape isAdmissible).symm⟩

end Bodies

end TokenPattern
