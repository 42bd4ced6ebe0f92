import LoxTokens.Scan

/-!
# Placed pieces

A list of pieces is placed part by part: the second part starts on the line that the first has led
to. The reports of a scan are its faults, one for one and in order.
-/

namespace LoxTokens

namespace Text

theorem newlines_cons (c : Char) (s : Text) :
    newlines (c :: s) = newlines s + if c = '\n' then 1 else 0 := by
  simp [newlines, List.count_cons]

theorem newlines_singleton (c : Char) : newlines [c] = if c = '\n' then 1 else 0 := by
  rw [newlines_cons, newlines_nil, Nat.zero_add]

end Text

namespace Piece

def joined (pieces : List Piece) : Text :=
  pieces.flatMap text

@[simp]
theorem joined_nil : joined [] = [] := rfl

@[simp]
theorem joined_cons (piece : Piece) (pieces : List Piece) :
    joined (piece :: pieces) = piece.text ++ joined pieces := rfl

@[simp]
theorem joined_append (done rest : List Piece) : joined (done ++ rest) = joined done ++ joined rest :=
  List.flatMap_append

theorem joined_cut (source : Text) : joined (cut source) = source :=
  flatMap_text_cut source

end Piece

namespace Placed

theorem place_append (line : Nat) (done rest : List Piece) :
    place line (done ++ rest) =
      place line done ++ place (line + (Piece.joined done).newlines) rest := by
  induction done generalizing line with
  | nil => rfl
  | cons piece done ih =>
      simp only [List.cons_append, place, ih, Piece.joined_cons, Text.newlines_append,
        Nat.add_assoc]

theorem fault?_eq_none_of_token? {p : Placed} {t : Token} (htoken : p.token? = some t) :
    p.fault? = none := by
  obtain ⟨piece, line⟩ := p
  cases piece with
  | mark _ | string _ => rfl
  | comment _ | blank _ | stray _ | unclosed _ => cases htoken

/-- A piece is a token or a fault, never both, and only the fault is reported. -/
theorem filterMap_diagnostic?_emissions (p : Placed) :
    p.emissions.filterMap Emission.diagnostic? =
      (p.fault?.map fun found => Diagnostic.ofFault found.1 found.2).toList := by
  obtain ⟨piece, line⟩ := p
  cases piece <;> rfl

theorem filterMap_diagnostic?_flatMap_emissions (places : List Placed) :
    (places.flatMap emissions).filterMap Emission.diagnostic? =
      (places.filterMap fault?).map fun found => Diagnostic.ofFault found.1 found.2 := by
  induction places with
  | nil => rfl
  | cons p places ih =>
      rw [List.flatMap_cons, List.filterMap_append, ih, filterMap_diagnostic?_emissions]
      cases hfault : p.fault? with
      | none => rw [List.filterMap_cons_none hfault]; rfl
      | some found => rw [List.filterMap_cons_some hfault]; rfl

end Placed

namespace Scan

theorem filterMap_diagnostic?_emissions (source : Text) :
    (emissions source).filterMap Emission.diagnostic? = diagnostics source := by
  rw [emissions, List.filterMap_append, Placed.filterMap_diagnostic?_flatMap_emissions]
  exact List.append_nil _

end Scan

end LoxTokens
