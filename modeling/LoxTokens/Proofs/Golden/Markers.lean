import LoxTokens.Golden.Test
import Mathlib.Data.List.Infix

/-!
# Markers in a text

A line says something if and only if the marker is a part of it, and what it says is what follows the
first place where the marker stands. A part of a text that does not hold some character lies on one
side of it, so no marker reaches over a line feed, and none that is free of quotes over a quote.
-/

namespace LoxTokens

namespace Text

variable {m a b : Text} {c : Char} {ls : List Text}

theorem isPrefix_of_isPrefix_append_cons (hc : c ∉ m) (hm : m <+: a ++ c :: b) : m <+: a := by
  rcases List.prefix_or_prefix_of_prefix hm (List.prefix_append a (c :: b)) with hshort | hlong
  · exact hshort
  · obtain ⟨more, rfl⟩ := hlong
    rw [List.prefix_append_right_inj] at hm
    cases more with
    | nil => rw [List.append_nil]
    | cons d more =>
        obtain ⟨rfl, -⟩ := List.cons_prefix_cons.mp hm
        exact absurd (List.mem_append_right a List.mem_cons_self) hc

end Text

namespace Golden

theorem textAfter?_append_self {marker : Text} (hmarker : marker ≠ []) (rest : Text) :
    textAfter? marker (marker ++ rest) = some rest := by
  obtain ⟨c, more, rfl⟩ := List.exists_cons_of_ne_nil hmarker
  rw [List.cons_append, textAfter?, if_pos, ← List.cons_append, List.drop_left]
  rw [← List.cons_append, List.isPrefixOf_iff_prefix]
  exact List.prefix_append _ _

theorem textAfter?_eq_none_iff {marker s : Text} :
    textAfter? marker s = none ↔ ¬marker <:+: s := by
  induction s with
  | nil =>
      rw [textAfter?, List.infix_nil]
      split
      · next hnil => exact iff_of_false (Option.some_ne_none _) fun hnot => hnot hnil
      · next hne => exact iff_of_true rfl hne
  | cons c s ih =>
      rw [textAfter?, List.infix_cons_iff, not_or, ← List.isPrefixOf_iff_prefix]
      split
      · next hbegins =>
          exact iff_of_false (Option.some_ne_none _) fun hnot => hnot.1 hbegins
      · next hbegins =>
          rw [ih]
          exact ⟨fun hnot => ⟨hbegins, hnot⟩, And.right⟩

end Golden

end LoxTokens
