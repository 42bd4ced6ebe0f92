import LoxTokens.Log
import LoxTokens.Piece

/-!
# Scans

A scan gives each piece of a source its line and reads off what the piece stands for: a token, a
fault, or nothing. Tokens, diagnostics and the order in which things are said are three readings of
one list of placed pieces. A token belongs to the line on which it starts; a string that is never
closed is reported on the line on which the source ends, since only there its fault is known.
-/

namespace LoxTokens

/-- A piece and the number of the line on which it starts. -/
structure Placed where
  piece : Piece
  line : Nat
deriving DecidableEq

/-- What is said while a source is scanned. -/
inductive Emission where
  /-- A record is logged. -/
  | log (record : Log.Record)
  /-- A diagnostic is handed to the reporter. -/
  | report (d : Diagnostic)
deriving DecidableEq

/-- The diagnostic that is handed over, if one is. -/
def Emission.diagnostic? : Emission → Option Diagnostic
  | log _ => none
  | report d => some d

namespace Placed

/-- The pieces with their lines, the first of them on `line`. -/
def place (line : Nat) : List Piece → List Placed
  | [] => []
  | piece :: pieces => ⟨piece, line⟩ :: place (line + piece.text.newlines) pieces

/-- The token that a piece stands for. Lines are counted in 32 bits. -/
def token? (p : Placed) : Option Token :=
  match p.piece with
  | .mark m => some (.ofMark m (.ofNat p.line))
  | .string value => some (.ofString value (.ofNat p.line))
  | _ => none

/-- The fault that a piece stands for, and the line on which it is found. -/
def fault? (p : Placed) : Option (UInt32 × Fault) :=
  match p.piece with
  | .stray c => some (.ofNat p.line, .unexpectedCharacter c)
  | .unclosed tail => some (.ofNat (p.line + tail.newlines), .unterminatedString)
  | _ => none

/-- What is said about a piece: a token is logged; a fault is logged and then reported. -/
def emissions (p : Placed) : List Emission :=
  match p.token?, p.fault? with
  | some t, _ => [.log (.token t)]
  | none, some (line, fault) =>
      [.log (.lexicalError line fault), .report (.ofFault line fault)]
  | none, none => []

end Placed

namespace Scan

/-- The pieces of a source with their lines. -/
def placed (source : Text) : List Placed :=
  Placed.place 1 (Piece.cut source)

/-- The line on which a source ends. -/
def lastLine (source : Text) : UInt32 :=
  .ofNat (1 + source.newlines)

/-- The tokens of a source, the end of the source being the last of them. -/
def tokens (source : Text) : List Token :=
  (placed source).filterMap Placed.token? ++ [.eof (lastLine source)]

/-- The faults of a source with their lines. -/
def faults (source : Text) : List (UInt32 × Fault) :=
  (placed source).filterMap Placed.fault?

/-- The diagnostics of a source. -/
def diagnostics (source : Text) : List Diagnostic :=
  (faults source).map fun found => .ofFault found.1 found.2

/-- Everything that is said while a source is scanned, in order. -/
def emissions (source : Text) : List Emission :=
  (placed source).flatMap Placed.emissions ++
    [.log (.finished (tokens source).length (faults source).length (lastLine source))]

end Scan

end LoxTokens
