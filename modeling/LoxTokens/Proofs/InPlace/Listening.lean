import LoxTokens.Proofs.InPlace.Run

/-!
# A machine that is listened to

The machine can hand over its reports as it makes them, instead of keeping them until it is done. A
listener has no way to answer, so the machine goes the same way whoever listens, and in the end the
listener has been handed what the machine would have kept.
-/

namespace LoxTokens.InPlace

namespace State

variable {α : Type} {counting : Counting} {source : String} {kind : Kind} {literal : Option Text}
  {m : Mark} {c expected : Char} {hit : Bool} {s t s' : State}

/-! ### Nothing that was said is taken back -/

theorem said_eq_of_accept (haccept : s.accept source expected = .ok (hit, s')) :
    s'.said = s.said := by
  simp only [accept, bind, Except.bind, pure, Except.pure] at haccept
  split at haccept
  · split at haccept
    · cases haccept
    · split at haccept <;> cases haccept <;> rfl
  · cases haccept
    rfl

theorem said_eq_of_countLine (hcount : s.countLine counting = .ok s') : s'.said = s.said := by
  unfold countLine at hcount
  split at hcount <;> cases hcount
  rfl

theorem said_suffix_of_find (hfind : s.find source kind literal = .ok s') :
    s.said <:+ s'.said := by
  simp only [find, bind, Except.bind] at hfind
  split at hfind <;> cases hfind
  exact List.suffix_cons _ _

theorem said_suffix_complain (fault : Fault) (s : State) : s.said <:+ (s.complain fault).said :=
  (List.suffix_cons _ _).trans (List.suffix_cons _ _)

theorem said_suffix_of_stepMark (hstep : s.stepMark source m = .ok s') : s.said <:+ s'.said := by
  simp only [stepMark, bind, Except.bind, pure, Except.pure] at hstep
  split at hstep
  · split at hstep
    · cases hstep
    · next haccept =>
        rw [← said_eq_of_accept haccept]
        split at hstep
        · cases hstep
          exact List.suffix_rfl
        · exact said_suffix_of_find hstep
  · split at hstep
    · exact said_suffix_of_find hstep
    · split at hstep
      · cases hstep
      · next haccept =>
          rw [← said_eq_of_accept haccept]
          exact said_suffix_of_find hstep

theorem said_suffix_of_stepFirst (hstep : s.stepFirst counting source c = .ok s') :
    s.said <:+ s'.said := by
  unfold stepFirst at hstep
  split at hstep
  · cases hstep
    exact List.suffix_rfl
  · split at hstep
    · exact ⟨[], (said_eq_of_countLine hstep).symm⟩
    · split at hstep
      · cases hstep
        exact List.suffix_rfl
      · split at hstep
        · exact said_suffix_of_stepMark hstep
        · cases hstep
          exact said_suffix_complain _ s

theorem said_suffix_of_stepBetween (hstep : s.stepBetween counting source = .ok s') :
    s.said <:+ s'.said := by
  simp only [stepBetween, bind, Except.bind] at hstep
  split at hstep
  · cases hstep
  · next htake =>
      have hsuffix := said_suffix_of_stepFirst hstep
      rwa [eq_skip_of_take htake] at hsuffix

theorem said_suffix_of_stepComment (hstep : s.stepComment source = .ok s') :
    s.said <:+ s'.said := by
  simp only [stepComment, bind, Except.bind, pure, Except.pure] at hstep
  split at hstep
  · cases hstep
  · split at hstep
    · split at hstep
      · cases hstep
      · next htake =>
          cases hstep
          rw [eq_skip_of_take htake]
          exact List.suffix_rfl
    · cases hstep
      exact List.suffix_rfl

theorem said_suffix_of_closeString (hclose : s.closeString source = .ok s') :
    s.said <:+ s'.said := by
  simp only [closeString, bind, Except.bind] at hclose
  split at hclose
  · cases hclose
  · next htake =>
      split at hclose
      · cases hclose
      · have hsuffix := said_suffix_of_find hclose
        rwa [eq_skip_of_take htake] at hsuffix

theorem said_suffix_of_stepString (hstep : s.stepString counting source = .ok s') :
    s.said <:+ s'.said := by
  simp only [stepString, bind, Except.bind, pure, Except.pure] at hstep
  split at hstep
  · cases hstep
  · split at hstep
    · split at hstep
      · cases hstep
      · next htake =>
          have hskip := eq_skip_of_take htake
          split at hstep
          · rw [said_eq_of_countLine hstep, hskip]
            exact List.suffix_rfl
          · cases hstep
            rw [hskip]
            exact List.suffix_rfl
    · split at hstep
      · exact said_suffix_of_closeString hstep
      · cases hstep
        exact said_suffix_complain _ (s.enter .between)

theorem said_suffix_of_step? (hstep : s.step? counting source = .ok (some s')) :
    s.said <:+ s'.said := by
  unfold step? at hstep
  split at hstep
  · split at hstep
    · exact said_suffix_of_stepBetween (eq_ok_of_map_some hstep)
    · cases hstep
  · exact said_suffix_of_stepComment (eq_ok_of_map_some hstep)
  · exact said_suffix_of_stepString (eq_ok_of_map_some hstep)

theorem run_of_error {breach : Breach} (hstep : s.step? counting source = .error breach) :
    s.run counting source = .error breach := by
  rw [run]
  split <;> simp_all

theorem run_of_none (hstep : s.step? counting source = .ok none) :
    s.run counting source = .ok s := by
  rw [run]
  split <;> simp_all

theorem run_of_some (hstep : s.step? counting source = .ok (some s')) :
    s.run counting source = s'.run counting source := by
  rw [run]
  split <;> simp_all

theorem said_suffix_of_run (hrun : s.run counting source = .ok s') : s.said <:+ s'.said := by
  fun_induction run counting source s with
  | case1 s breach hstep => cases hrun
  | case2 s hstep =>
      cases hrun
      exact List.suffix_rfl
  | case3 s t hstep ih => exact (said_suffix_of_step? hstep).trans (ih hrun)

/-! ### Handing over -/

/-- The reports made on the way from one state to another, in the order in which they are made. -/
def reportsSince (s s' : State) : List Diagnostic :=
  (s'.said.take (s'.said.length - s.said.length)).reverse.filterMap Emission.diagnostic?

theorem reportsSince_of_said_eq {news : List Emission} (hsaid : s'.said = news ++ s.said) :
    s.reportsSince s' = news.reverse.filterMap Emission.diagnostic? := by
  simp [reportsSince, hsaid]

theorem reportsSince_self (s : State) : s.reportsSince s = [] :=
  reportsSince_of_said_eq (List.nil_append s.said).symm

theorem reportsSince_append (hfirst : s.said <:+ t.said) (hthen : t.said <:+ s'.said) :
    s.reportsSince t ++ t.reportsSince s' = s.reportsSince s' := by
  obtain ⟨news, hnews⟩ := hfirst
  obtain ⟨later, hlater⟩ := hthen
  have hall : s'.said = later ++ news ++ s.said := by
    rw [List.append_assoc, hnews, hlater]
  rw [reportsSince_of_said_eq hnews.symm, reportsSince_of_said_eq hlater.symm,
    reportsSince_of_said_eq hall, List.reverse_append, List.filterMap_append]

/-- The run of a machine that hands over what a step reports before it takes the next step. -/
def runOn (hand : α → Diagnostic → α) (counting : Counting) (source : String) (s : State)
    (listener : α) : Except Breach (State × α) :=
  match _hstep : s.step? counting source with
  | .error breach => .error breach
  | .ok none => .ok (s, listener)
  | .ok (some s') => runOn hand counting source s' ((s.reportsSince s').foldl hand listener)
termination_by s.remaining source
decreasing_by
  exact remaining_lt_of_step? _hstep

theorem runOn_eq (hand : α → Diagnostic → α) (counting : Counting) (source : String) (s : State)
    (listener : α) :
    s.runOn hand counting source listener =
      (s.run counting source).map fun s' => (s', (s.reportsSince s').foldl hand listener) := by
  fun_induction runOn hand counting source s listener with
  | case1 s listener breach hstep =>
      rw [run_of_error hstep]
      rfl
  | case2 s listener hstep =>
      rw [run_of_none hstep]
      change _ = Except.ok (s, (s.reportsSince s).foldl hand listener)
      rw [reportsSince_self, List.foldl_nil]
  | case3 s listener t hstep ih =>
      rw [run_of_some hstep, ih]
      cases hrun : t.run counting source with
      | error breach => rfl
      | ok s' =>
          have happend := reportsSince_append (said_suffix_of_step? hstep) (said_suffix_of_run hrun)
          change Except.ok (s', _) = Except.ok (s', _)
          rw [← happend, List.foldl_append]

end State

/-- A scan with a listener, who is handed each report as it is made; the tokens, and what the listener
has come to. -/
def scanOn {α : Type} (hand : α → Diagnostic → α) (counting : Counting) (source : String)
    (listener : α) : Except Breach (List Token × α) :=
  (State.initial.runOn hand counting source listener).map fun ended =>
    ((Result.ofState ended.1).tokens, ended.2)

theorem diagnostics_ofState (s : State) :
    (Result.ofState s).diagnostics = State.initial.reportsSince s := by
  have hsaid : s.said = s.said ++ State.initial.said := (List.append_nil s.said).symm
  rw [State.reportsSince_of_said_eq hsaid]
  simp [Result.diagnostics, Result.ofState, Emission.diagnostic?]

theorem scanOn_eq {α : Type} (hand : α → Diagnostic → α) (counting : Counting) (source : String)
    (listener : α) :
    scanOn hand counting source listener =
      (scanCounting counting source).map fun result =>
        (result.tokens, result.diagnostics.foldl hand listener) := by
  rw [scanOn, scanCounting, State.runOn_eq]
  cases State.initial.run counting source with
  | error breach => rfl
  | ok s =>
      change Except.ok (_, _) = Except.ok (_, _)
      rw [diagnostics_ofState]

end LoxTokens.InPlace
