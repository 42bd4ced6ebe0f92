import LoxTokens.Proofs.Settled
import LoxTokens.Proofs.Text.Lines

/-!
# Sources read line by line

Only a string can reach over a line feed: a comment ends in front of it, and every other piece is
too short. So a source whose strings are closed on the lines on which they are opened is cut into
the same pieces whether its lines are read together or each for itself. The numbers of the lines are
all that is different, and a line that is read for itself is line 1.
-/

namespace LoxTokens

namespace Piece

variable {p : Piece} {run rest tail source : Text}

end Piece

namespace Scan

variable {source line run rest : Text} {d : Diagnostic}

/-! ### The numbers of the lines -/

theorem newlines_before_eq_zero (hline : line ∈ cutAfter '\n' source) {l : Located}
    (hl : l ∈ Piece.locate [] (Piece.cut line)) : l.before.newlines = 0 := by
  obtain ⟨after, htext, -⟩ := Piece.exists_after_of_mem_locate (Piece.tiles_cut line) hl
  have hne : l.piece.text ++ after ≠ [] :=
    List.append_ne_nil_of_left_ne_nil l.piece.text_ne_nil after
  have hfeed := not_mem_dropLast_of_mem_cutAfter hline
  rw [List.nil_append, List.append_assoc] at htext
  rw [htext, List.dropLast_append_of_ne_nil hne] at hfeed
  exact List.count_eq_zero_of_not_mem fun hmem => hfeed (List.mem_append_left _ hmem)

theorem newlines_of_mem_cutAfter (hline : line ∈ cutAfter '\n' source) :
    line.newlines = if line.getLast? = some '\n' then 1 else 0 := by
  obtain ⟨run, hrun, rfl | rfl⟩ := exists_run_of_mem_cutAfter hline
  · have hlast : line.getLast? ≠ some '\n' := fun hlast => hrun (List.mem_of_getLast? hlast)
    rw [if_neg hlast]
    exact List.count_eq_zero_of_not_mem hrun
  · rw [if_pos List.getLast?_concat, Text.newlines_append]
    exact congrArg (· + 1) (List.count_eq_zero_of_not_mem hrun)

theorem exists_piece_of_mem_diagnostics (hline : line ∈ cutAfter '\n' source)
    (hd : d ∈ diagnostics line) :
    (∃ c, .stray c ∈ Piece.cut line ∧ d = .ofFault 1 (.unexpectedCharacter c)) ∨
      ∃ tail, .unclosed tail ∈ Piece.cut line ∧
        d = .ofFault (.ofNat (1 + line.newlines)) .unterminatedString := by
  obtain ⟨⟨number, fault⟩, hfault, rfl⟩ := List.mem_map.mp hd
  rw [faults, placed_eq_map_locate, List.filterMap_map, List.mem_filterMap] at hfault
  obtain ⟨l, hl, hfault⟩ := hfault
  have hpiece : l.piece ∈ Piece.cut line := by
    rw [← Piece.map_piece_locate [] (Piece.cut line)]
    exact List.mem_map_of_mem hl
  have hzero := newlines_before_eq_zero hline hl
  have hunclosed := (Piece.newlines_of_mem_locate hl).2
  obtain ⟨before, piece⟩ := l
  cases piece with
  | stray c =>
      cases hfault
      refine Or.inl ⟨c, hpiece, ?_⟩
      change Diagnostic.ofFault (.ofNat (1 + before.newlines)) _ = _
      rw [hzero]
      rfl
  | unclosed tail =>
      cases hfault
      refine Or.inr ⟨tail, hpiece, ?_⟩
      change Diagnostic.ofFault (.ofNat (1 + before.newlines + tail.newlines)) _ = _
      rw [Nat.add_assoc, hunclosed tail rfl]
  | mark _ => cases hfault
  | comment _ => cases hfault
  | blank _ => cases hfault
  | string _ => cases hfault

end Scan

end LoxTokens
