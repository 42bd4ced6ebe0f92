import LoxTokens.Text.Basic

/-!
# Runs read off the front

A run of characters of one class is read off a text in one way only, if what follows it does not begin
with a character of the class. A numeral is such a run, and it names one number only.
-/

namespace LoxTokens

namespace Text

variable {run other after rest : Text} {class? : Char → Bool} {stop : Char}

/-- The text does not begin with a character of the class. -/
def Leaves (class? : Char → Bool) (s : Text) : Prop :=
  ∀ c ∈ s.head?, class? c = false

theorem takeWhile_append_of_leaves (hrun : ∀ c ∈ run, class? c = true)
    (hafter : Leaves class? after) : (run ++ after).takeWhile class? = run := by
  rw [List.takeWhile_append_of_pos hrun]
  cases after with
  | nil => exact List.append_nil run
  | cons c after => rw [List.takeWhile_cons_of_neg (by simp [hafter c rfl]), List.append_nil]

theorem eq_of_class_append (hrun : ∀ c ∈ run, class? c = true)
    (hother : ∀ c ∈ other, class? c = true) (hafter : Leaves class? after)
    (hrest : Leaves class? rest) (heq : run ++ after = other ++ rest) :
    run = other ∧ after = rest := by
  have hruns : run = other := by
    rw [← takeWhile_append_of_leaves hrun hafter, heq, takeWhile_append_of_leaves hother hrest]
  rw [hruns] at heq
  exact ⟨hruns, List.append_cancel_left heq⟩

theorem eq_of_run_append (hrun : stop ∉ run) (hother : stop ∉ other)
    (heq : run ++ stop :: after = other ++ stop :: rest) : run = other ∧ after = rest := by
  have hclass : ∀ s : Text, stop ∉ s → ∀ c ∈ s, (c != stop) = true := by
    intro s hs c hc
    simpa using ne_of_mem_of_not_mem hc hs
  have hstop : ∀ s : Text, Leaves (· != stop) (stop :: s) := by
    intro s c hc
    cases hc
    simp
  obtain ⟨hruns, htail⟩ :=
    eq_of_class_append (hclass run hrun) (hclass other hother) (hstop after) (hstop rest) heq
  exact ⟨hruns, (List.cons.inj htail).2⟩

/-! ### Hexadecimal numerals -/

theorem digitChar_injective {m n : Nat} (hm : m < 16) (hn : n < 16)
    (hdigit : m.digitChar = n.digitChar) : m = n := by
  have hall : ∀ m n : Fin 16, m.val.digitChar = n.val.digitChar → m.val = n.val := by decide
  exact hall ⟨m, hm⟩ ⟨n, hn⟩ hdigit

theorem hexadecimal_injective {m n : Nat} (hdigits : Nat.toDigits 16 m = Nat.toDigits 16 n) :
    m = n := by
  induction m using Nat.strongRecOn generalizing n with
  | ind m ih =>
      rw [Nat.toDigits_eq_if (by decide), Nat.toDigits_eq_if (n := n) (by decide)] at hdigits
      split at hdigits
      · next hm =>
          split at hdigits
          · next hn => exact digitChar_injective hm hn (List.singleton_inj.mp hdigits)
          · exact absurd (List.append_eq_singleton_iff.mp hdigits.symm) (by simp [Nat.toDigits_ne_nil])
      · next hm =>
          split at hdigits
          · exact absurd (List.append_eq_singleton_iff.mp hdigits) (by simp [Nat.toDigits_ne_nil])
          · obtain ⟨hfront, hlast⟩ := List.append_inj' hdigits rfl
            have hquotient : m / 16 = n / 16 := ih (m / 16) (by omega) hfront
            have hremainder : m % 16 = n % 16 :=
              digitChar_injective (by omega) (by omega) (List.singleton_inj.mp hlast)
            omega

theorem exists_digit_of_mem_hexadecimal {n : Nat} {c : Char} (hc : c ∈ Nat.toDigits 16 n) :
    ∃ digit < 16, c = digit.digitChar := by
  induction n using Nat.strongRecOn with
  | ind n ih =>
      rw [Nat.toDigits_eq_if (by decide)] at hc
      split at hc
      · next hn => exact ⟨n, hn, List.mem_singleton.mp hc⟩
      · rcases List.mem_append.mp hc with hc | hc
        · exact ih (n / 16) (by omega) hc
        · exact ⟨n % 16, by omega, List.mem_singleton.mp hc⟩

theorem not_mem_hexadecimal {c : Char} (hc : ∀ digit : Fin 16, c ≠ digit.val.digitChar) (n : Nat) :
    c ∉ Nat.toDigits 16 n := by
  intro hmem
  obtain ⟨digit, hdigit, hchar⟩ := exists_digit_of_mem_hexadecimal hmem
  exact hc ⟨digit, hdigit⟩ hchar

end Text

end LoxTokens
