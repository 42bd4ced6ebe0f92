import LoxTokens.Description
import LoxTokens.Token.Mark

/-!
# Tokens

A token is a piece of a source text that a parser would consume: a mark, a string, or the end of the
source. Its listing is one entry of what a run prints. The lexeme and the literal stand there as they
are, so the listing of a string that holds line feeds takes several lines.
-/

namespace LoxTokens

inductive Kind where
  | mark (m : Mark)
  | string
  | eof
deriving DecidableEq

namespace Kind

def all : List Kind :=
  Mark.all.map mark ++ [string, eof]

theorem mem_all (k : Kind) : k ∈ all := by
  cases k with
  | mark m => simp [all, Mark.mem_all]
  | string => simp [all]
  | eof => simp [all]

/-- The name of a kind in a listing. -/
def name : Kind → String
  | mark m => m.name
  | string => "STRING"
  | eof => "EOF"

/-- The name of a kind in a description. -/
def title : Kind → String
  | mark m => m.title
  | string => "String"
  | eof => "Eof"

end Kind

/-- A token. The lexeme is the token's text in the source; the literal is the value of a string. -/
structure Token where
  kind : Kind
  lexeme : Text
  literal : Option Text
  /-- The line on which the token starts, the first line being 1. -/
  line : UInt32
deriving DecidableEq

namespace Token

def ofMark (m : Mark) (line : UInt32) : Token :=
  ⟨.mark m, m.spelling, none, line⟩

/-- The token of a string with a given value, which no quote may occur in. -/
def ofString (value : Text) (line : UInt32) : Token :=
  ⟨.string, '"' :: (value ++ ['"']), some value, line⟩

/-- The end of a source. -/
def eof (line : UInt32) : Token :=
  ⟨.eof, [], none, line⟩

/-- One entry of a token listing, without a line end. -/
def listing (t : Token) : Text :=
  t.kind.name.toList ++ [' '] ++ t.lexeme ++ [' '] ++ t.literal.getD "null".toList

def describe (t : Token) : Description :=
  .record "Token"
    [("t", .word t.kind.title.toList),
      ("lexeme", .quoted t.lexeme),
      ("literal", .optional (t.literal.map fun value => .applied "String" (.quoted value))),
      ("line", .number t.line.toNat)]

end Token

end LoxTokens
