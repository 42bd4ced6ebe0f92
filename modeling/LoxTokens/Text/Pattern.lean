import LoxTokens.Text.Pattern.Step

/-!
# Patterns

A text is a pattern if it is a regular expression that can be searched for by an automaton: the
reader gets through it, everything that was opened is closed, and nothing is nested too deeply.
-/

namespace LoxTokens

namespace Pattern

/-- The depth that a pattern may have. -/
def depthLimit : Nat :=
  250

/-- Whether a pattern may end here. -/
def State.isComplete (state : State) : Bool :=
  (state.mode = .outside || state.mode = .repetition) && state.outer = [] &&
    state.group.depth ≤ depthLimit

/-- Reads a text to its end. -/
def readFrom (state : State) : Text → Option State
  | [] => some state
  | c :: rest => (state.step c rest).bind fun state => readFrom state rest

end Pattern

/-- The text is a regular expression. -/
def isPattern (s : Text) : Bool :=
  (Pattern.readFrom .start s).any Pattern.State.isComplete

end LoxTokens
