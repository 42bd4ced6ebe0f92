import LoxTokens.Description

/-!
# Diagnostics

A fault is what is wrong at a place of a source text; a diagnostic is what is said about it. A
diagnostic may say anything, since a reporter also takes messages that no fault gave rise to.
-/

namespace LoxTokens

/-- What can be wrong with a source text. -/
inductive Fault where
  /-- The character begins no token. -/
  | unexpectedCharacter (c : Char)
  /-- A string is opened and never closed. -/
  | unterminatedString
deriving DecidableEq

namespace Fault

/-- What is said about a fault. It does not name the character. -/
def message : Fault → Text
  | unexpectedCharacter _ => "Unexpected character.".toList
  | unterminatedString => "Unterminated string.".toList

def describe : Fault → Description
  | unexpectedCharacter c => .applied "UnexpectedCharacter" (.word (Quoted.char c))
  | unterminatedString => .word "UnterminatedString".toList

end Fault

/-- A message about a line. -/
structure Diagnostic where
  line : UInt32
  message : Text
deriving DecidableEq

namespace Diagnostic

/-- The diagnostic of a fault found on a line. -/
def ofFault (line : UInt32) (fault : Fault) : Diagnostic :=
  ⟨line, fault.message⟩

/-- A diagnostic as a console shows it, without a line end. -/
def listing (d : Diagnostic) : Text :=
  "[line ".toList ++ Text.decimal d.line.toNat ++ "] Error: ".toList ++ d.message

def describe (d : Diagnostic) : Description :=
  .record "Diagnostic" [("line", .number d.line.toNat), ("message", .quoted d.message)]

end Diagnostic

end LoxTokens
