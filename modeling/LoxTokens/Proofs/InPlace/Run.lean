import LoxTokens.Proofs.InPlace.Step

/-!
# The run comes to the scan

A machine on course stays on course, so when it is done it has taken the whole cut, and what it has
found and said is the scan of the source. A wrapping machine always gets there; a checked one does if
and only if every line has a number.
-/

namespace LoxTokens.InPlace

namespace State

variable {counting : Counting} {source : String} {s s' : State}

/-- What may come of a step from `s`, the last one included. -/
def Goes (counting : Counting) (source : String) (s : State) :
    Except Breach (Option State) → Prop
  | .ok none => s.mode = .between ∧ s.current = source.utf8ByteSize
  | .ok (some s') => s'.OnCourse counting source
  | .error breach => breach = .lineOverflow ∧ counting = .checked ∧
      s.line.toNat + 1 = UInt32.size ∧ s.line.toNat ≤ Text.newlines source.toList

theorem goes_map_some {result : Except Breach State} (hleads : Leads counting source s result) :
    Goes counting source s (result.map some) := by
  cases result with
  | error breach => exact hleads
  | ok s' => exact hleads

theorem goes_step? (hcourse : s.OnCourse counting source) :
    Goes counting source s (s.step? counting source) := by
  obtain ⟨done, taken, rest, hstands⟩ := hcourse
  have hbegun := hstands.begun
  have hsize := hstands.utf8ByteSize_eq
  unfold step?
  generalize hmode : s.mode = mode at hbegun
  cases hbegun with
  | between =>
      cases rest with
      | nil =>
          rw [Utf8.size_nil, Nat.add_zero] at hsize
          rw [if_neg (by omega)]
          exact ⟨hmode, hsize.symm⟩
      | cons c after =>
          rw [if_pos (hstands.current_lt_iff.mpr (List.cons_ne_nil c after))]
          exact goes_map_some (leads_stepBetween hstands)
  | comment hbody => exact goes_map_some (leads_stepComment hstands hbody hmode)
  | string hvalue => exact goes_map_some (leads_stepString hstands hvalue hmode)

theorem onCourse_of_step? (hcourse : s.OnCourse counting source)
    (hstep : s.step? counting source = .ok (some s')) : s'.OnCourse counting source := by
  have hgoes := goes_step? hcourse
  rwa [hstep] at hgoes

theorem end_of_step? (hcourse : s.OnCourse counting source)
    (hstep : s.step? counting source = .ok none) :
    s.mode = .between ∧ s.current = source.utf8ByteSize := by
  have hgoes := goes_step? hcourse
  rwa [hstep] at hgoes

theorem overflow_of_step? {breach : Breach} (hcourse : s.OnCourse counting source)
    (hstep : s.step? counting source = .error breach) :
    breach = .lineOverflow ∧ counting = .checked ∧ s.line.toNat + 1 = UInt32.size ∧
      s.line.toNat ≤ Text.newlines source.toList := by
  have hgoes := goes_step? hcourse
  rwa [hstep] at hgoes

theorem stands_cut_of_end (hcourse : s.OnCourse counting source) (hmode : s.mode = .between)
    (hend : s.current = source.utf8ByteSize) :
    s.Stands counting source (Piece.cut source.toList) [] [] := by
  obtain ⟨done, taken, rest, hstands⟩ := hcourse
  have hsize := hstands.utf8ByteSize_eq
  cases rest with
  | cons c after =>
      have hpos := Utf8.size_pos (List.cons_ne_nil c after)
      omega
  | nil =>
      have hbegun := hstands.begun
      rw [hmode] at hbegun
      cases hbegun
      have hcut := hstands.cut_eq
      rw [List.append_nil, Piece.cut_nil, List.append_nil] at hcut
      rwa [hcut]

def Ends (counting : Counting) (source : String) : Except Breach State → Prop
  | .ok s => s.Stands counting source (Piece.cut source.toList) [] []
  | .error breach => breach = .lineOverflow ∧ counting = .checked ∧
      UInt32.size ≤ 1 + Text.newlines source.toList

theorem ends_run (hcourse : s.OnCourse counting source) :
    Ends counting source (s.run counting source) := by
  fun_induction run counting source s with
  | case1 s breach hstep =>
      obtain ⟨hbreach, hcounting, hfull, hnewlines⟩ := overflow_of_step? hcourse hstep
      exact ⟨hbreach, hcounting, by omega⟩
  | case2 s hstep =>
      obtain ⟨hmode, hend⟩ := end_of_step? hcourse hstep
      exact stands_cut_of_end hcourse hmode hend
  | case3 s s' hstep ih => exact ih (onCourse_of_step? hcourse hstep)

end State

/-- What the machine has found and said at the end is the scan of the source. -/
theorem ofState_of_stands {counting : Counting} {source : String} {s : State}
    (hstands : s.Stands counting source (Piece.cut source.toList) [] []) :
    Result.ofState s = ⟨Scan.tokens source.toList, Scan.emissions source.toList⟩ := by
  have hline : s.line = Scan.lastLine source.toList := by
    rw [hstands.line_eq_of_between, Piece.joined_cut]
    rfl
  have htokens : (Token.eof s.line :: s.found).reverse = Scan.tokens source.toList := by
    rw [hstands.found_eq, hline, List.reverse_cons, List.reverse_reverse]
    rfl
  have herrors : s.errors = (Scan.faults source.toList).length := by
    rw [hstands.errors_eq, hstands.said_eq, List.filterMap_reverse, List.length_reverse,
      Placed.filterMap_diagnostic?_flatMap_emissions, List.length_map]
    rfl
  unfold Result.ofState
  dsimp only
  rw [htokens, herrors, hline, List.reverse_cons, hstands.said_eq, List.reverse_reverse]
  rfl

theorem scanCounting_wrapping (source : String) :
    scanCounting .wrapping source =
      .ok ⟨Scan.tokens source.toList, Scan.emissions source.toList⟩ := by
  have hends := State.ends_run (State.onCourse_initial .wrapping source)
  unfold scanCounting
  cases hrun : State.initial.run .wrapping source with
  | error breach =>
      rw [hrun] at hends
      obtain ⟨-, hcounting, -⟩ := hends
      cases hcounting
  | ok s =>
      rw [hrun] at hends
      exact congrArg Except.ok (ofState_of_stands hends)

/-- A checked machine comes to the scan of the source as well, as long as every line has a number. -/
theorem scan_eq (source : String) :
    scan source =
      if 1 + Text.newlines source.toList < UInt32.size then
        .ok ⟨Scan.tokens source.toList, Scan.emissions source.toList⟩
      else
        .error .lineOverflow := by
  have hends := State.ends_run (State.onCourse_initial .checked source)
  unfold scan scanCounting
  cases hrun : State.initial.run .checked source with
  | error breach =>
      rw [hrun] at hends
      obtain ⟨rfl, -, hfull⟩ := hends
      rw [if_neg (by omega)]
      rfl
  | ok s =>
      rw [hrun] at hends
      have hstands : s.Stands .checked source (Piece.cut source.toList) [] [] := hends
      have hnumbered := hstands.numbered rfl
      rw [List.append_nil, Piece.joined_cut] at hnumbered
      rw [if_pos hnumbered]
      exact congrArg Except.ok (ofState_of_stands hstands)

/-- The machine comes to the result: always if the count wraps, and with a checked count if every line
has a number. -/
structure Yields (source : String) (result : Result) : Prop where
  wrapping : scanCounting .wrapping source = .ok result
  checked : scan source =
    if 1 + Text.newlines source.toList < UInt32.size then .ok result else .error .lineOverflow

/-- Where the lines have numbers, it makes no difference how they are counted. -/
theorem scanCounting_of_numbered {counting : Counting} {source : String}
    (hlines : counting = .wrapping ∨ 1 + Text.newlines source.toList < UInt32.size) :
    scanCounting counting source =
      .ok ⟨Scan.tokens source.toList, Scan.emissions source.toList⟩ := by
  cases counting with
  | wrapping => exact scanCounting_wrapping source
  | checked =>
      rcases hlines with hwrapping | hlines
      · cases hwrapping
      · exact (scan_eq source).trans (if_pos hlines)

theorem scanCounting_ofList_of_numbered {text : Text} (counting : Counting)
    (hlines : counting = .wrapping ∨ 1 + text.newlines < UInt32.size) :
    scanCounting counting (.ofList text) = .ok ⟨Scan.tokens text, Scan.emissions text⟩ := by
  rw [← String.toList_ofList (l := text)] at hlines
  rw [scanCounting_of_numbered hlines, String.toList_ofList]

theorem yields_scan (source : String) :
    Yields source ⟨Scan.tokens source.toList, Scan.emissions source.toList⟩ :=
  ⟨scanCounting_wrapping source, scan_eq source⟩

end LoxTokens.InPlace
