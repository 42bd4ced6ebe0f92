import LoxTokens.Proofs.InPlace.Run
import Mathlib.Logic.Relation

/-!
# The machine stays in bounds

Whatever the source, both offsets are at all times inside it, in order and between characters, also
in the middle of a step. No slice fails and no character is taken behind the end; the one thing that
can stop the machine before the end is the count of lines. From one place between two pieces to any
later one the machine has moved on.
-/

namespace LoxTokens.InPlace.State

def Steps (counting : Counting) (source : String) (s s' : State) : Prop :=
  s.step? counting source = .ok (some s')

/-- The machine comes through a state on its way over the source. -/
def Passes (counting : Counting) (source : String) (s : State) : Prop :=
  Relation.ReflTransGen (Steps counting source) initial s

/-- The states that a step goes through: the one it begins in, a piece begun, the next character
taken, and the one behind it accepted or not. -/
inductive Within (source : String) (s : State) : State → Prop where
  | entry : Within source s s
  | begun : Within source s s.beginPiece
  | took {c : Char} {t : State} (htake : s.take source = .ok (c, t)) : Within source s t
  | tookFirst {c : Char} {t : State} (htake : s.beginPiece.take source = .ok (c, t)) :
      Within source s t
  | accepted {c expected : Char} {t u : State} {hit : Bool}
      (htake : s.beginPiece.take source = .ok (c, t))
      (haccept : t.accept source expected = .ok (hit, u)) : Within source s u

/-- The offsets are in order and inside the source, and lie between characters. -/
structure InBounds (source : String) (s : State) : Prop where
  start_le : s.start ≤ s.current
  current_le : s.current ≤ source.utf8ByteSize
  start_isValid : (⟨s.start⟩ : String.Pos.Raw).IsValid source
  current_isValid : (⟨s.current⟩ : String.Pos.Raw).IsValid source

variable {counting : Counting} {source : String} {c expected : Char} {hit : Bool}
  {s s' t : State}

/-! ### Bounds inside a step -/

theorem InBounds.beginPiece (hbounds : s.InBounds source) : s.beginPiece.InBounds source where
  start_le := Nat.le_refl _
  current_le := hbounds.current_le
  start_isValid := hbounds.current_isValid
  current_isValid := hbounds.current_isValid

theorem InBounds.skip (hbounds : s.InBounds source)
    (hpeek : peek source s.current = .ok (some c)) : (s.skip c).InBounds source := by
  obtain ⟨u, w, hsource, hcurrent⟩ := isValid_iff.mp hbounds.current_isValid
  rw [hcurrent, peek_size hsource] at hpeek
  obtain ⟨rest, rfl⟩ := List.head?_eq_some_iff.mp (Except.ok.inj hpeek)
  have hskip : (s.skip c).current = Utf8.size (u ++ [c]) := by
    change s.current + c.utf8Size = _
    rw [hcurrent]
    simp
  refine ⟨?_, ?_, hbounds.start_isValid, ?_⟩
  · exact Nat.le_trans hbounds.start_le (Nat.le_of_lt (s.current_lt_skip c))
  · rw [hskip, Utf8.utf8ByteSize_eq, hsource]
    simp
  · rw [hskip]
    exact isValid_iff.mpr ⟨u ++ [c], rest, by simpa using hsource, rfl⟩

theorem peek_of_take (htake : s.take source = .ok (c, t)) :
    peek source s.current = .ok (some c) := by
  simp only [take, bind, Except.bind] at htake
  split at htake
  · cases htake
  · next next hpeek =>
      split at htake
      · cases htake
        exact hpeek
      · cases htake

theorem InBounds.of_take (hbounds : s.InBounds source) (htake : s.take source = .ok (c, t)) :
    t.InBounds source := by
  rw [eq_skip_of_take htake]
  exact hbounds.skip (peek_of_take htake)

theorem InBounds.of_accept (hbounds : s.InBounds source)
    (haccept : s.accept source expected = .ok (hit, t)) : t.InBounds source := by
  simp only [accept, bind, Except.bind, pure, Except.pure] at haccept
  split at haccept
  · split at haccept
    · cases haccept
    · next next hpeek =>
        split at haccept
        · next hnext =>
            cases haccept
            subst hnext
            exact hbounds.skip hpeek
        · cases haccept
          exact hbounds
  · cases haccept
    exact hbounds

theorem InBounds.of_within (hbounds : s.InBounds source) (hwithin : s.Within source t) :
    t.InBounds source := by
  cases hwithin with
  | entry => exact hbounds
  | begun => exact hbounds.beginPiece
  | took htake => exact hbounds.of_take htake
  | tookFirst htake => exact hbounds.beginPiece.of_take htake
  | accepted htake haccept => exact (hbounds.beginPiece.of_take htake).of_accept haccept

/-! ### Bounds along a run -/

theorem OnCourse.inBounds (hcourse : s.OnCourse counting source) : s.InBounds source := by
  obtain ⟨done, taken, rest, hstands⟩ := hcourse
  obtain ⟨u, v, hsplit, hstart⟩ := hstands.start_mem
  have hsource := hstands.source_eq
  refine ⟨?_, ?_, ?_, ?_⟩
  · rw [hstart, hstands.current_eq, hsplit, Utf8.size_append]
    exact Nat.le_add_right _ _
  · rw [hstands.utf8ByteSize_eq]
    exact Nat.le_add_right _ _
  · refine isValid_iff.mpr ⟨u, v ++ rest, ?_, hstart⟩
    rw [hsource, hsplit, List.append_assoc]
  · exact isValid_iff.mpr ⟨_, rest, hsource, hstands.current_eq⟩

theorem Passes.onCourse (hpasses : s.Passes counting source) : s.OnCourse counting source := by
  induction hpasses with
  | refl => exact onCourse_initial counting source
  | tail _ hstep ih => exact onCourse_of_step? ih hstep

theorem current_le_of_steps (hstep : Steps counting source s s') : s.current ≤ s'.current := by
  rcases ahead_of_step? hstep with ⟨-, hlt⟩ | ⟨heq, -, -⟩
  · exact Nat.le_of_lt hlt
  · exact Nat.le_of_eq heq

theorem current_lt_of_steps (hmode : s.mode = .between) (hstep : Steps counting source s s') :
    s.current < s'.current := by
  rcases ahead_of_step? hstep with ⟨-, hlt⟩ | ⟨-, hne, -⟩
  · exact hlt
  · exact absurd hmode hne

/-- From between two pieces, every number of steps leads further. -/
theorem current_lt_of_transGen (hmode : s.mode = .between)
    (hsteps : Relation.TransGen (Steps counting source) s s') : s.current < s'.current := by
  induction hsteps with
  | single hstep => exact current_lt_of_steps hmode hstep
  | tail _ hstep ih => exact Nat.lt_of_lt_of_le ih (current_le_of_steps hstep)

theorem passes_of_run (hpasses : s.Passes counting source)
    (hrun : s.run counting source = .ok s') :
    s'.Passes counting source ∧ s'.step? counting source = .ok none := by
  fun_induction run counting source s with
  | case1 s breach hstep => cases hrun
  | case2 s hstep =>
      cases hrun
      exact ⟨hpasses, hstep⟩
  | case3 s t hstep ih => exact ih (hpasses.tail hstep) hrun

theorem run_initial_cases (counting : Counting) (source : String) :
    (∃ s, initial.run counting source = .ok s ∧ s.Passes counting source ∧
      s.current = source.utf8ByteSize) ∨
    counting = .checked ∧ UInt32.size ≤ 1 + Text.newlines source.toList ∧
      initial.run counting source = .error .lineOverflow := by
  cases hrun : initial.run counting source with
  | ok s =>
      obtain ⟨hpasses, hstep⟩ := passes_of_run .refl hrun
      exact Or.inl ⟨s, rfl, hpasses, (end_of_step? hpasses.onCourse hstep).2⟩
  | error breach =>
      have hends := ends_run (onCourse_initial counting source)
      rw [hrun] at hends
      obtain ⟨rfl, hcounting, hfull⟩ := hends
      exact Or.inr ⟨hcounting, hfull, rfl⟩

/-- Slices and looks fail out of range, out of order and inside a character. The machine takes none
that fails, takes no character behind the end, moves on with every piece, and ends at the end. -/
theorem machine_in_bounds (counting : Counting) (source : String) :
    (∀ start stop, (∃ text, slice source start stop = .ok text) ↔
      start ≤ stop ∧ (⟨start⟩ : String.Pos.Raw).IsValid source ∧
        (⟨stop⟩ : String.Pos.Raw).IsValid source) ∧
    (∀ offset, (∃ next, peek source offset = .ok next) ↔
      (⟨offset⟩ : String.Pos.Raw).IsValid source) ∧
    (∀ s, Passes counting source s →
      (∀ t, Within source s t → t.InBounds source) ∧
      (∀ start stop, s.step? counting source ≠ .error (.badSlice start stop)) ∧
      (∀ offset, s.step? counting source ≠ .error (.pastEnd offset)) ∧
      (s.mode = .between → ∀ s', Relation.TransGen (Steps counting source) s s' →
        s.current < s'.current) ∧
      (s.step? counting source = .ok none → s.current = source.utf8ByteSize)) ∧
    ((∃ s, initial.run counting source = .ok s ∧ Passes counting source s ∧
        s.current = source.utf8ByteSize) ∨
      counting = .checked ∧ UInt32.size ≤ 1 + Text.newlines source.toList ∧
        initial.run counting source = .error .lineOverflow) := by
  refine ⟨fun _ _ => exists_slice_iff, fun _ => exists_peek_iff, ?_, run_initial_cases counting source⟩
  intro s hpasses
  have hcourse := hpasses.onCourse
  refine ⟨?_, ?_, ?_, ?_, ?_⟩
  · intro t hwithin
    exact hcourse.inBounds.of_within hwithin
  · intro start stop hstep
    have hbreach := (overflow_of_step? hcourse hstep).1
    cases hbreach
  · intro offset hstep
    have hbreach := (overflow_of_step? hcourse hstep).1
    cases hbreach
  · intro hmode s' hsteps
    exact current_lt_of_transGen hmode hsteps
  · intro hstep
    exact (end_of_step? hcourse hstep).2

end LoxTokens.InPlace.State
