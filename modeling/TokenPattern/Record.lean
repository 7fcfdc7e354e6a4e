import TokenPattern.Settings
import Std.Data.HashMap
import Std.Data.TreeMap

namespace TokenPattern

/-!
# Token records

All that matching asks of a token is the value of an attribute. Whatever
answers that is a record: a token of this library or a map.
-/

/-- Types whose values have attributes. -/
class Record (ρ : Type) where
  /-- The value of the named attribute, if the record has it. -/
  attribute? : ρ → String → Option String

instance : Record (Std.HashMap String String) where
  attribute? map name := map[name]?

instance : Record (Std.TreeMap String String) where
  attribute? map name := map[name]?

/-- A token with attributes, kept in the order of their names. -/
structure Token where
  attributes : Std.TreeMap String String

namespace Token

/-- A token without attributes. -/
def empty : Token :=
  ⟨∅⟩

/-- The token with an attribute set, whether or not it had one of that name. -/
def withAttribute (token : Token) (name value : String) : Token :=
  ⟨token.attributes.insert name value⟩

/-- A token with nothing but the standard attribute. -/
def ofWord (word : String) : Token :=
  empty.withAttribute standardAttribute word

/-- A token with the given attributes; of two with one name the later counts. -/
def ofList (attributes : List (String × String)) : Token :=
  attributes.foldl (fun token (name, value) => token.withAttribute name value) empty

/-- The attributes in the order of their names. -/
def toList (token : Token) : List (String × String) :=
  token.attributes.toList

end Token

instance : Record Token where
  attribute? token name := token.attributes[name]?

end TokenPattern
