import LoxTokens.Proofs.Golden.Comparison
import LoxTokens.Proofs.Text.Lines

/-!
# What a comparison finds

A comparison goes through two lists at once and then through what is left of one of them. What it
finds is settled place by place: a mismatch where both lists have a line and the two differ, and one
for every line that is left over. As only the longer list has lines left over, they are all surplus or
all missing.
-/

namespace LoxTokens

namespace Text

variable {s line run rest : Text} {ls : List Text}

/-- The lines of a text, said without a cut: each ends in a line feed or in a carriage return and a line
feed, and what stands behind the last line feed is a line if there is anything. -/
inductive Lined : Text → List Text → Prop where
  | nil : Lined [] []
  | last {run : Text} (hrun : '\n' ∉ run) (hne : run ≠ []) : Lined run [run]
  | feed {line rest : Text} {ls : List Text} (hline : '\n' ∉ line)
      (hreturn : line.getLast? ≠ some '\r') (hrest : Lined rest ls) :
      Lined (line ++ '\n' :: rest) (line :: ls)
  | returnFeed {line rest : Text} {ls : List Text} (hline : '\n' ∉ line) (hrest : Lined rest ls) :
      Lined (line ++ '\r' :: '\n' :: rest) (line :: ls)

theorem lined_lines (s : Text) : Lined s s.lines := by
  induction s using cutAfter_induction '\n' with
  | last run hrun =>
      by_cases hne : run = []
      · rw [hne]
        exact .nil
      · rw [lines_run hrun hne]
        exact .last hrun hne
  | piece run rest hrun ih =>
      by_cases hreturn : run.getLast? = some '\r'
      · obtain ⟨line, rfl⟩ := List.getLast?_eq_some_iff.mp hreturn
        have hline : '\n' ∉ line := fun hmem => hrun (List.mem_append_left _ hmem)
        rw [List.append_assoc, List.singleton_append, lines_returnFeed hline]
        exact .returnFeed hline ih
      · rw [lines_feed hrun hreturn]
        exact .feed hrun hreturn ih

theorem lined_iff : Lined s ls ↔ ls = s.lines := by
  constructor
  · intro hlined
    induction hlined with
    | nil => rfl
    | last hrun hne => exact (lines_run hrun hne).symm
    | feed hline hreturn _ ih => rw [lines_feed hline hreturn, ih]
    | returnFeed hline _ ih => rw [lines_returnFeed hline, ih]
  · rintro rfl
    exact lined_lines s

end Text

namespace Golden

variable {stream : Text} {wants lines : List Text}

/-- What two lists have at the places where both have something and do not agree, in order. -/
def differences (wants lines : List Text) : List (Text × Text) :=
  (wants.zip lines).filter fun pair => pair.1 ≠ pair.2

namespace Mismatch

theorem between_eq (stream : Text) (wants lines : List Text) :
    between stream wants lines =
      (differences wants lines).map (fun pair => differs stream pair.1 pair.2) ++
        (lines.drop wants.length).map (unexpected stream) ++
        (wants.drop lines.length).map (missing stream) := by
  fun_induction between stream wants lines with
  | case1 wants line lines ih =>
      rw [ih, differences, differences, List.zip_cons_cons, List.filter_cons_of_neg (by simp)]
      rfl
  | case2 want wants line lines hne ih =>
      rw [ih, differences, differences, List.zip_cons_cons, List.filter_cons_of_pos (by simpa using hne)]
      rfl
  | case3 lines => simp [differences]
  | case4 wants _ => simp [differences]

/-- No more than one of the lists has anything left over. -/
theorem drop_eq_nil_or_drop_eq_nil (wants lines : List Text) :
    lines.drop wants.length = [] ∨ wants.drop lines.length = [] := by
  rw [List.drop_eq_nil_iff, List.drop_eq_nil_iff]
  exact Nat.le_total _ _

theorem length_between (stream : Text) (wants lines : List Text) :
    (between stream wants lines).length =
      (differences wants lines).length + ((lines.length : Int) - wants.length).natAbs := by
  rw [between_eq, List.length_append, List.length_append, List.length_map, List.length_map,
    List.length_map, List.length_drop, List.length_drop]
  omega

theorem map_listing_between (stream : Text) (wants lines : List Text) :
    (between stream wants lines).map listing =
      (differences wants lines).map (fun pair =>
          stream ++ ": Expected: ".toList ++ pair.1 ++ ", Actual: ".toList ++ pair.2) ++
        (lines.drop wants.length).map (stream ++ ": Unexpected output: ".toList ++ ·) ++
        (wants.drop lines.length).map (stream ++ ": Expected, not found: ".toList ++ ·) := by
  rw [between_eq, List.map_append, List.map_append, List.map_map, List.map_map, List.map_map]
  rfl

end Mismatch

/-- A comparison adds to the failures found before, whatever their texts, one mismatch for every place at
which a line is not the expected one, and then one for every line that is surplus or for every line that
is missing, each of them under the name of the stream. -/
theorem compare_accounts (stream : Text) (expected : List Text) (actual : Text) :
    ∃ lines found,
      (Text.Lined actual lines ∧ ∀ others, Text.Lined actual others → others = lines) ∧
      (∀ earlier : List Text,
        compare stream expected actual earlier = earlier ++ found.map Mismatch.listing) ∧
      found = (differences expected lines).map (fun pair => .differs stream pair.1 pair.2) ++
        (lines.drop expected.length).map (.unexpected stream) ++
        (expected.drop lines.length).map (.missing stream) ∧
      found.map Mismatch.listing =
        (differences expected lines).map (fun pair =>
            stream ++ ": Expected: ".toList ++ pair.1 ++ ", Actual: ".toList ++ pair.2) ++
          (lines.drop expected.length).map (stream ++ ": Unexpected output: ".toList ++ ·) ++
          (expected.drop lines.length).map (stream ++ ": Expected, not found: ".toList ++ ·) ∧
      (lines.drop expected.length = [] ∨ expected.drop lines.length = []) ∧
      (found = [] ↔ lines = expected) ∧
      found.length =
        (differences expected lines).length + ((lines.length : Int) - expected.length).natAbs := by
  refine ⟨actual.lines, Mismatch.between stream expected actual.lines,
    ⟨Text.lined_lines actual, fun others => Text.lined_iff.mp⟩, fun earlier => rfl,
    Mismatch.between_eq stream expected actual.lines,
    Mismatch.map_listing_between stream expected actual.lines,
    Mismatch.drop_eq_nil_or_drop_eq_nil expected actual.lines, ?_,
    Mismatch.length_between stream expected actual.lines⟩
  rw [between_eq_nil_iff]
  exact eq_comm

end Golden

end LoxTokens
