import LoxTokens.Text.Lines
import Mathlib.Data.List.Basic

/-!
# Lines put together

A text that is cut behind a line feed has the lines of its two parts. So the lines of a text that is
made of lines are those, as long as none of them holds a line feed or ends in a carriage return, and
every line of a text is a part of it.
-/

namespace LoxTokens

section CutAfter

variable {α : Type} [DecidableEq α] {stop : α} {items run piece : List α}

theorem cutAfter_ne_nil (hitems : items ≠ []) : cutAfter stop items ≠ [] := by
  intro hnil
  have hflatten := flatten_cutAfter stop items
  rw [hnil] at hflatten
  exact hitems hflatten.symm

theorem cutAfter_append_stop (items rest : List α) :
    cutAfter stop (items ++ stop :: rest) =
      cutAfter stop (items ++ [stop]) ++ cutAfter stop rest := by
  induction items with
  | nil => simp [cutAfter]
  | cons a items ih =>
      rw [List.cons_append, List.cons_append, cutAfter, cutAfter]
      split
      · rw [ih, List.cons_append]
      · rw [ih]
        have hne : cutAfter stop (items ++ [stop]) ≠ [] :=
          cutAfter_ne_nil (List.append_ne_nil_of_right_ne_nil items (List.cons_ne_nil stop []))
        obtain ⟨first, pieces, hpieces⟩ := List.exists_cons_of_ne_nil hne
        rw [hpieces]
        rfl

theorem cutAfter_of_not_mem (hrun : stop ∉ run) : cutAfter stop (run ++ [stop]) = [run ++ [stop]] := by
  induction run with
  | nil => simp [cutAfter]
  | cons a run ih =>
      rw [List.mem_cons, not_or] at hrun
      rw [List.cons_append, cutAfter, if_neg (Ne.symm hrun.1), ih hrun.2]

theorem cutAfter_run (hrun : stop ∉ run) (hne : run ≠ []) : cutAfter stop run = [run] := by
  induction run with
  | nil => exact absurd rfl hne
  | cons a run ih =>
      rw [List.mem_cons, not_or] at hrun
      rw [cutAfter, if_neg (Ne.symm hrun.1)]
      cases run with
      | nil => rfl
      | cons b run => rw [ih hrun.2 (List.cons_ne_nil b run)]

theorem cutAfter_run_append (hrun : stop ∉ run) (rest : List α) :
    cutAfter stop (run ++ stop :: rest) = (run ++ [stop]) :: cutAfter stop rest := by
  rw [cutAfter_append_stop, cutAfter_of_not_mem hrun, List.singleton_append]

/-- What holds of a last piece, and of a piece and all that comes behind it, holds of everything. -/
@[elab_as_elim]
theorem cutAfter_induction {motive : List α → Prop} (stop : α)
    (last : ∀ run, stop ∉ run → motive run)
    (piece : ∀ run rest, stop ∉ run → motive rest → motive (run ++ stop :: rest))
    (items : List α) : motive items := by
  by_cases hmem : stop ∈ items
  · obtain ⟨run, rest, hitems, hrun⟩ := List.eq_append_cons_of_mem hmem
    have hshorter : rest.length < items.length := by
      rw [hitems, List.length_append, List.length_cons]
      omega
    rw [hitems]
    exact piece run rest hrun (cutAfter_induction stop last piece rest)
  · exact last items hmem
termination_by items.length

/-- Where only the stop item becomes the other stop item, cutting before and after is the same. -/
theorem cutAfter_flatMap {β : Type} [DecidableEq β] {f : α → List β} {other : β}
    (hstop : f stop = [other]) (hitem : ∀ a ≠ stop, f a ≠ [] ∧ other ∉ f a) (items : List α) :
    cutAfter other (items.flatMap f) = (cutAfter stop items).map (List.flatMap f) := by
  have hrun : ∀ run : List α, stop ∉ run → other ∉ run.flatMap f := by
    intro run hrun hmem
    obtain ⟨a, ha, hother⟩ := List.mem_flatMap.mp hmem
    exact (hitem a (ne_of_mem_of_not_mem ha hrun)).2 hother
  induction items using cutAfter_induction stop with
  | last run hnot =>
      cases run with
      | nil => rfl
      | cons a run =>
          have ha : a ≠ stop := ne_of_mem_of_not_mem List.mem_cons_self hnot
          have hne : (a :: run).flatMap f ≠ [] := by
            rw [List.flatMap_cons]
            exact List.append_ne_nil_of_left_ne_nil (hitem a ha).1 _
          rw [cutAfter_run (hrun _ hnot) hne, cutAfter_run hnot (List.cons_ne_nil a run)]
          rfl
  | piece run rest hnot ih =>
      have htext : (run ++ stop :: rest).flatMap f = run.flatMap f ++ other :: rest.flatMap f := by
        rw [List.flatMap_append, List.flatMap_cons, hstop]
        rfl
      rw [htext, cutAfter_run_append (hrun run hnot), ih, cutAfter_run_append hnot, List.map_cons,
        List.flatMap_append, List.flatMap_singleton, hstop]

theorem exists_run_of_mem_cutAfter (hpiece : piece ∈ cutAfter stop items) :
    ∃ run, stop ∉ run ∧ (piece = run ∨ piece = run ++ [stop]) := by
  induction items generalizing piece with
  | nil => cases hpiece
  | cons a items ih =>
      rw [cutAfter] at hpiece
      split at hpiece
      · next heq =>
          rcases List.mem_cons.mp hpiece with rfl | hmem
          · exact ⟨[], List.not_mem_nil, Or.inr (by rw [heq]; rfl)⟩
          · exact ih hmem
      · next hne =>
          split at hpiece
          · obtain rfl := List.mem_singleton.mp hpiece
            exact ⟨[a], by simpa using Ne.symm hne, Or.inl rfl⟩
          · next first pieces hpieces =>
              rcases List.mem_cons.mp hpiece with rfl | hmem
              · obtain ⟨run, hrun, hfirst⟩ := ih (hpieces ▸ List.mem_cons_self)
                refine ⟨a :: run, ?_, ?_⟩
                · rw [List.mem_cons, not_or]
                  exact ⟨Ne.symm hne, hrun⟩
                · rcases hfirst with rfl | rfl
                  · exact Or.inl rfl
                  · exact Or.inr rfl
              · exact ih (hpieces ▸ List.mem_cons_of_mem first hmem)

/-- A cut piece is not cut any further. -/
theorem cutAfter_of_mem_cutAfter (hpiece : piece ∈ cutAfter stop items) :
    cutAfter stop piece = [piece] := by
  induction items using cutAfter_induction stop with
  | last run hrun =>
      by_cases hne : run = []
      · rw [hne] at hpiece
        cases hpiece
      · rw [cutAfter_run hrun hne, List.mem_singleton] at hpiece
        rw [hpiece, cutAfter_run hrun hne]
  | piece run rest hrun ih =>
      rw [cutAfter_run_append hrun, List.mem_cons] at hpiece
      rcases hpiece with rfl | hpiece
      · exact cutAfter_of_not_mem hrun
      · exact ih hpiece

theorem not_mem_dropLast_of_mem_cutAfter (hpiece : piece ∈ cutAfter stop items) :
    stop ∉ piece.dropLast := by
  obtain ⟨run, hrun, rfl | rfl⟩ := exists_run_of_mem_cutAfter hpiece
  · exact fun hmem => hrun ((List.dropLast_sublist piece).subset hmem)
  · rwa [List.dropLast_concat]

end CutAfter

namespace Text

variable {s rest line run piece : Text} {ls : List Text}

theorem withoutLineEnd_append_newline (hreturn : line.getLast? ≠ some '\r') :
    withoutLineEnd (line ++ ['\n']) = line := by
  rw [← List.head?_reverse] at hreturn
  rw [withoutLineEnd, List.reverse_append, List.reverse_singleton, List.singleton_append]
  split
  · next front heq =>
      rw [(List.cons.inj heq).2] at hreturn
      exact absurd rfl hreturn
  · next front _ heq => rw [← (List.cons.inj heq).2, List.reverse_reverse]
  · next hnot => exact absurd rfl (hnot _)

theorem lines_append_newline (s rest : Text) :
    lines (s ++ '\n' :: rest) = lines (s ++ ['\n']) ++ lines rest := by
  rw [lines, cutAfter_append_stop, List.map_append]
  rfl

/-- A text without a carriage return at its end. -/
def withoutReturn (s : Text) : Text :=
  if s.getLast? = some '\r' then s.dropLast else s

theorem withoutReturn_append {front : Text} (hlast : rest = [] → front.getLast? ≠ some '\r') :
    withoutReturn (front ++ rest) = front ++ withoutReturn rest := by
  by_cases hnil : rest = []
  · rw [hnil, List.append_nil, withoutReturn, if_neg (hlast hnil)]
    exact (List.append_nil front).symm
  · rw [withoutReturn, withoutReturn, List.getLast?_append_of_ne_nil front hnil,
      List.dropLast_append_of_ne_nil hnil]
    exact (apply_ite (front ++ ·) _ _ _).symm

theorem withoutReturn_isPrefix (s : Text) : withoutReturn s <+: s := by
  rw [withoutReturn]
  split
  · exact List.dropLast_prefix s
  · exact List.prefix_rfl

theorem withoutLineEnd_newline (run : Text) :
    withoutLineEnd (run ++ ['\n']) = withoutReturn run := by
  by_cases hreturn : run.getLast? = some '\r'
  · obtain ⟨front, rfl⟩ := List.getLast?_eq_some_iff.mp hreturn
    simp [withoutLineEnd, withoutReturn]
  · rw [withoutLineEnd_append_newline hreturn, withoutReturn, if_neg hreturn]

theorem withoutLineEnd_run (hrun : '\n' ∉ run) : withoutLineEnd run = run := by
  rw [← List.mem_reverse] at hrun
  rw [withoutLineEnd]
  split
  · next line hreverse => simp [hreverse] at hrun
  · next line _ hreverse => simp [hreverse] at hrun
  · rfl

theorem lines_run_append (hrun : '\n' ∉ run) (rest : Text) :
    lines (run ++ '\n' :: rest) = withoutReturn run :: lines rest := by
  rw [lines, cutAfter_run_append hrun, List.map_cons, withoutLineEnd_newline]
  rfl

theorem lines_feed (hline : '\n' ∉ line) (hreturn : line.getLast? ≠ some '\r') (rest : Text) :
    lines (line ++ '\n' :: rest) = line :: lines rest := by
  rw [lines_run_append hline, withoutReturn, if_neg hreturn]

theorem lines_returnFeed (hline : '\n' ∉ line) (rest : Text) :
    lines (line ++ '\r' :: '\n' :: rest) = line :: lines rest := by
  have hrun : '\n' ∉ line ++ ['\r'] := by simpa using hline
  rw [← List.singleton_append (x := '\r'), ← List.append_assoc, lines_run_append hrun, withoutReturn,
    List.getLast?_concat, if_pos rfl, List.dropLast_concat]

/-- The lines of two texts put together, where the first is made of whole lines. -/
theorem lines_append (hend : s = [] ∨ s.getLast? = some '\n') (rest : Text) :
    lines (s ++ rest) = lines s ++ lines rest := by
  rcases hend with rfl | hfeed
  · rfl
  · obtain ⟨front, rfl⟩ := List.getLast?_eq_some_iff.mp hfeed
    rw [List.append_assoc, List.singleton_append, lines_append_newline]

theorem lines_run (hrun : '\n' ∉ run) (hne : run ≠ []) : lines run = [run] := by
  rw [lines, cutAfter_run hrun hne, List.map_singleton, withoutLineEnd_run hrun]

end Text

end LoxTokens
