import LoxTokens.Proofs.Lines
import LoxTokens.Proofs.Reporter

/-!
# The order in which things are said

Log and reporter speak in turns: a token is logged as it is found, a fault is logged and then handed to
the reporter, and nothing comes between the two. Put side by side, what both have said is the source
read from left to right, with a summary at its end that counts what came before it.
-/

namespace LoxTokens

/-- What a listener hears, be it the log's or the reporter. -/
inductive Event where
  | log (level : Log.Level) (message : String) (fields : List (String × Text))
  | report (line : UInt32) (message : Text)
deriving DecidableEq

def Emission.event : Emission → Event
  | log record => .log record.level record.message record.fields
  | report d => .report d.line d.message

/-- The token that is logged, if one is. -/
def Emission.token? : Emission → Option Token
  | log (.token t) => some t
  | _ => none

/-- What a place of a source is worth mentioning for. -/
inductive Finding where
  | token (t : Token)
  | fault (line : UInt32) (what : Fault)
deriving DecidableEq

namespace Finding

def events : Finding → List Event
  | token t => [.log .trace "token" [("token", t.listing), ("line", Text.decimal t.line.toNat)]]
  | fault line what =>
      [.log .debug "lexical error"
          [("line", Text.decimal line.toNat), ("error", what.describe.inline)],
        .report line what.message]

def token? : Finding → Option Token
  | token t => some t
  | fault _ _ => none

def diagnostic? : Finding → Option Diagnostic
  | token _ => none
  | fault line what => some ⟨line, what.message⟩

end Finding

/-- A string that is never closed is found where the source ends. Blanks and comments are nothing. -/
def Located.finding? (l : Located) : Option Finding :=
  match l.piece with
  | .mark m => some (.token ⟨.mark m, l.piece.text, none, .ofNat l.line⟩)
  | .string value => some (.token ⟨.string, l.piece.text, some value, .ofNat l.line⟩)
  | .stray c => some (.fault (.ofNat l.line) (.unexpectedCharacter c))
  | .unclosed tail => some (.fault (.ofNat (l.line + tail.newlines)) .unterminatedString)
  | .comment _ => none
  | .blank _ => none

namespace Located

def placed (l : Located) : Placed :=
  ⟨l.piece, l.line⟩

/-! ### One place -/

theorem map_event_emissions (l : Located) :
    l.placed.emissions.map Emission.event = l.finding?.toList.flatMap Finding.events := by
  obtain ⟨before, piece⟩ := l
  cases piece <;> rfl

theorem map_event_flatMap_emissions (places : List Located) :
    ((places.map placed).flatMap Placed.emissions).map Emission.event =
      (places.filterMap finding?).flatMap Finding.events := by
  rw [List.flatMap_map, List.map_flatMap, List.filterMap_eq_flatMap_toList, List.flatMap_assoc]
  exact List.flatMap_congr fun l _ => l.map_event_emissions

end Located

namespace Placed

theorem filterMap_token?_emissions (p : Placed) :
    p.emissions.filterMap Emission.token? = p.token?.toList := by
  obtain ⟨piece, line⟩ := p
  cases piece <;> rfl

theorem filterMap_token?_flatMap_emissions (places : List Placed) :
    (places.flatMap emissions).filterMap Emission.token? = places.filterMap token? := by
  rw [List.filterMap_flatMap, List.filterMap_eq_flatMap_toList]
  exact List.flatMap_congr fun p _ => p.filterMap_token?_emissions

end Placed

namespace Scan

variable (source : Text)

/-- What is found in a source, from left to right. -/
def findings : List Finding :=
  (Piece.locate [] (Piece.cut source)).filterMap Located.finding?

theorem map_event_emissions :
    (emissions source).map Emission.event =
      (findings source).flatMap Finding.events ++
        [.log .debug "scan finished"
          [("tokens", Text.decimal (tokens source).length),
            ("errors", Text.decimal (diagnostics source).length),
            ("lines", Text.decimal (lastLine source).toNat)]] := by
  have hplaces := Located.map_event_flatMap_emissions (Piece.locate [] (Piece.cut source))
  have herrors : (diagnostics source).length = (faults source).length := List.length_map _
  rw [emissions, List.map_append, placed_eq_map_locate, herrors]
  exact congrArg (· ++ _) hplaces

theorem filterMap_token?_emissions :
    (emissions source).filterMap Emission.token? = (placed source).filterMap Placed.token? := by
  rw [emissions, List.filterMap_append]
  exact (List.append_nil _).trans (Placed.filterMap_token?_flatMap_emissions (placed source))

end Scan

namespace InPlace.State

end InPlace.State

end LoxTokens
