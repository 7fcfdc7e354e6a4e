import TokenPattern.CharPattern.CharClass

namespace TokenPattern.CharPattern

/-!
# Flags

Letters in `(?…)` switch rules on and, after a hyphen, off: `i` ignores case,
`m` lets `^` and `$` hold at line ends, `s` lets the dot match a line feed,
`R` takes carriage returns for line ends too, `u` reads classes by Unicode,
`x` skips white space and comments, `U` makes lazy the repetitions that would be
greedy, and the other way round.
-/

/-- The rules that flags switch. -/
structure Flags where
  ignoreCase : Bool := false
  multiLine : Bool := false
  dotAll : Bool := false
  crlf : Bool := false
  unicode : Bool := true
  extended : Bool := false
  swapGreed : Bool := false
  deriving Repr, DecidableEq

namespace Flags

/-- The letters of the flags. -/
def letters : List Char :=
  ['i', 'm', 's', 'U', 'u', 'R', 'x']

/-- The flags after the one of a letter is switched. -/
def set (flags : Flags) (value : Bool) : Char → Flags
  | 'i' => { flags with ignoreCase := value }
  | 'm' => { flags with multiLine := value }
  | 's' => { flags with dotAll := value }
  | 'R' => { flags with crlf := value }
  | 'u' => { flags with unicode := value }
  | 'x' => { flags with extended := value }
  | 'U' => { flags with swapGreed := value }
  | _ => flags

/-- The case rule of single characters and ranges. -/
def caseRule (flags : Flags) : CaseRule :=
  if !flags.ignoreCase then .exact
  else if flags.unicode then .simple
  else .ascii

end Flags

end TokenPattern.CharPattern
