namespace TokenPattern

/-!
# Settings

Words and bare character patterns test the default attribute; the step limit
bounds the rounds of a search.
-/

/-- The default attribute unless the settings name another one. -/
def standardAttribute : String := "word"

/-- Settings of a matcher. -/
structure Settings where
  defaultAttribute : String := standardAttribute
  /-- The greatest number of rounds of a search, or none for no bound. -/
  stepLimit : Option Nat := none
  deriving Repr, DecidableEq

namespace Settings

/-- The settings that hold unless others are given. -/
def standard : Settings := {}

/-- The settings with another default attribute. -/
def withDefaultAttribute (settings : Settings) (name : String) : Settings :=
  { settings with defaultAttribute := name }

/-- The settings with another step limit. -/
def withStepLimit (settings : Settings) (limit : Option Nat) : Settings :=
  { settings with stepLimit := limit }

end Settings

end TokenPattern
