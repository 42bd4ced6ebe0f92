import LoxTokens.Proofs.InPlace.Run

/-!
# Pieces and what is read off them

Lines apart, a scan is a reading of the one tiling of the source: a token for every mark and every
closed string, a report for every stray character and for an unclosed string, and nothing for the
rest. This holds of the scan and of the machine that does it in place, where the lines have numbers.
-/

namespace LoxTokens

/-- What a token says, its line apart. -/
def Token.content (t : Token) : Kind × Text × Option Text :=
  (t.kind, t.lexeme, t.literal)

namespace Piece

def content? (p : Piece) : Option (Kind × Text × Option Text) :=
  match p with
  | mark m => some (.mark m, p.text, none)
  | string value => some (.string, p.text, some value)
  | _ => none

def complaint? : Piece → Option Text
  | stray _ => some "Unexpected character.".toList
  | unclosed _ => some "Unterminated string.".toList
  | _ => none

theorem content?_eq_some {p : Piece} {content : Kind × Text × Option Text}
    (hcontent : p.content? = some content) :
    (∃ m, p = .mark m ∧ content = (.mark m, m.spelling, none)) ∨
      ∃ value, p = .string value ∧ content = (.string, '"' :: (value ++ ['"']), some value) := by
  cases p with
  | mark m =>
      cases hcontent
      exact Or.inl ⟨m, rfl, rfl⟩
  | string value =>
      cases hcontent
      exact Or.inr ⟨value, rfl, rfl⟩
  | _ => cases hcontent

end Piece

namespace Placed

/-- What does not depend on lines can be read off the pieces before they are placed. -/
theorem map_filterMap_place {α β : Type} {f : Placed → Option α} {g : α → β}
    {h : Piece → Option β} (hread : ∀ piece line, (f ⟨piece, line⟩).map g = h piece) (line : Nat)
    (pieces : List Piece) : ((place line pieces).filterMap f).map g = pieces.filterMap h := by
  induction pieces generalizing line with
  | nil => rfl
  | cons piece pieces ih =>
      have hpiece := hread piece line
      rw [place, List.filterMap_cons, List.filterMap_cons, ← hpiece]
      cases f ⟨piece, line⟩ with
      | none => exact ih _
      | some a => exact congrArg (g a :: ·) (ih _)

theorem content_token? (piece : Piece) (line : Nat) :
    (token? ⟨piece, line⟩).map Token.content = piece.content? := by
  cases piece <;> rfl

theorem message_fault? (piece : Piece) (line : Nat) :
    (fault? ⟨piece, line⟩).map (fun found => found.2.message) = piece.complaint? := by
  cases piece <;> rfl

end Placed

namespace Scan

theorem map_content_tokens (source : Text) :
    (tokens source).map Token.content =
      (Piece.cut source).filterMap Piece.content? ++ [(.eof, [], none)] := by
  rw [tokens, List.map_append, placed, Placed.map_filterMap_place Placed.content_token?]
  rfl

theorem map_message_diagnostics (source : Text) :
    (diagnostics source).map Diagnostic.message =
      (Piece.cut source).filterMap Piece.complaint? := by
  rw [diagnostics, List.map_map, faults, placed]
  exact Placed.map_filterMap_place Placed.message_fault? 1 (Piece.cut source)

theorem diagnostics_eq_nil_iff (source : Text) :
    diagnostics source = [] ↔ ∀ p ∈ Piece.cut source, p.complaint? = none := by
  rw [← List.map_eq_nil_iff (f := Diagnostic.message), map_message_diagnostics,
    List.filterMap_eq_nil_iff]

end Scan

/-- A source has one tiling, and the scan is the reading of it: its tokens, and behind them the end of
the source; its complaints, each handed to the reporter once. -/
theorem exists_tiling_scan_reads (source : String) :
    ∃ pieces result,
      (Piece.Tiles pieces source.toList ∧
        ∀ others, Piece.Tiles others source.toList → others = pieces) ∧
      (∀ p ∈ pieces, p.text ≠ []) ∧
      InPlace.scanCounting .wrapping source = .ok result ∧
      (InPlace.scan source =
        if 1 + Text.newlines source.toList < UInt32.size then .ok result
        else .error .lineOverflow) ∧
      result = ⟨Scan.tokens source.toList, Scan.emissions source.toList⟩ ∧
      result.tokens.map Token.content =
        pieces.filterMap Piece.content? ++ [(.eof, [], none)] ∧
      result.diagnostics.map Diagnostic.message = pieces.filterMap Piece.complaint? := by
  refine ⟨Piece.cut source.toList, ⟨Scan.tokens source.toList, Scan.emissions source.toList⟩,
    ⟨Piece.tiles_cut _, ?_⟩, ?_, InPlace.scanCounting_wrapping source, InPlace.scan_eq source, rfl,
    ?_, ?_⟩
  · intro others htiles
    exact Piece.eq_cut_of_tiles htiles
  · intro p _
    exact p.text_ne_nil
  · exact Scan.map_content_tokens source.toList
  · rw [InPlace.Result.diagnostics, Scan.filterMap_diagnostic?_emissions]
    exact Scan.map_message_diagnostics source.toList

end LoxTokens
