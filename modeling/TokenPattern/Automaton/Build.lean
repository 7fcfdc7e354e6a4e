import TokenPattern.Automaton.Assembly
import TokenPattern.Automaton.Numbering

namespace TokenPattern

/-!
# Building automata

An automaton is assembled from a postfix program and then numbered from its
entry, which becomes state zero.
-/

namespace Automaton

/-- Build the automaton of a program, which tests words on the default attribute. -/
def ofProgram
    (defaultAttribute : String)
    (program : List Instruction) :
    Except ProgramError Automaton :=
  match Assembly.ofProgram program with
  | .error error => .error error
  | .ok draft =>
      let states := (Numbering.ofEntry draft.states draft.entry).renumbered draft.states
      match states.findIdx? (·.accepting) with
      | some accept => .ok ⟨states, 0, accept, defaultAttribute⟩
      | none => .error (.malformed 0 .unreachableAcceptance)

end Automaton

end TokenPattern
