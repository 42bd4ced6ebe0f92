import LoxTokens.Proofs.Text.Runs
import LoxTokens.Text.Quoted
import Mathlib.Logic.Function.Basic
import Mathlib.Tactic.SplitIfs

/-!
# Quoted texts read back

A character stands in a quoted text as it is, or by a letter of its own, or by its number. No matter
which of the three is chosen for it, the character and its end can be told: the backslash and the quote
never stand as they are, no letter is the one that announces a number, and a number ends in a bracket.
So a quoted text ends at the first quote that is not spelled, and only one text is quoted that way.
-/

namespace LoxTokens.Quoted

variable {c d : Char} {s t spelling other after rest : Text}

/-- The characters that are spelled by a letter, each with its letter. -/
def letters : List (Char × Char) :=
  [('\x00', '0'), ('\t', 't'), ('\n', 'n'), ('\r', 'r'), ('\\', '\\'), ('"', '"')]

/-- What may stand for a character between quotes. -/
inductive Spells : Char → Text → Prop where
  | plain {c : Char} (hbackslash : c ≠ '\\') (hquote : c ≠ '"') : Spells c [c]
  | letter {c letter : Char} (hletter : (c, letter) ∈ letters) : Spells c ['\\', letter]
  | number (c : Char) :
      Spells c (['\\', 'u', '\x7b'] ++ Nat.toDigits 16 c.toNat ++ ['\x7d'])

theorem spells_escape (c : Char) : Spells c (escape '"' c) := by
  unfold escape
  split_ifs with hnul htab hfeed hreturn hbackslash hquote
  · exact .letter (by simp [letters, hnul])
  · exact .letter (by simp [letters, htab])
  · exact .letter (by simp [letters, hfeed])
  · exact .letter (by simp [letters, hreturn])
  · exact .letter (by simp [letters, hbackslash])
  · exact .letter (by simp [letters, hquote])
  · exact .plain hbackslash hquote
  · exact .number c

theorem eq_of_letter {letter : Char} (hc : (c, letter) ∈ letters) (hd : (d, letter) ∈ letters) :
    c = d := by
  have hletters : ∀ p ∈ letters, ∀ q ∈ letters, p.2 = q.2 → p.1 = q.1 := by decide
  exact hletters _ hc _ hd rfl

theorem letter_ne_u {letter : Char} (hc : (c, letter) ∈ letters) : letter ≠ 'u' := by
  have hletters : ∀ p ∈ letters, p.2 ≠ 'u' := by decide
  exact hletters _ hc

theorem eq_of_number_append
    (heq : Nat.toDigits 16 c.toNat ++ '\x7d' :: after = Nat.toDigits 16 d.toNat ++ '\x7d' :: rest) :
    c = d ∧ after = rest := by
  have hbracket : ∀ n, '\x7d' ∉ Nat.toDigits 16 n := Text.not_mem_hexadecimal (by decide)
  obtain ⟨hdigits, htail⟩ := Text.eq_of_run_append (hbracket _) (hbracket _) heq
  exact ⟨Char.toNat_inj.mp (Text.hexadecimal_injective hdigits), htail⟩

theorem Spells.eq_of_append (hc : Spells c spelling) (hd : Spells d other)
    (heq : spelling ++ after = other ++ rest) : c = d ∧ after = rest := by
  cases hc with
  | plain hbackslash _ =>
      cases hd with
      | plain _ _ => exact List.cons.inj heq
      | letter _ => exact absurd (List.cons.inj heq).1 hbackslash
      | number => exact absurd (List.cons.inj heq).1 hbackslash
  | letter hletter =>
      cases hd with
      | plain hbackslash _ => exact absurd (List.cons.inj heq).1.symm hbackslash
      | letter hletter' =>
          obtain ⟨rfl, htail⟩ := List.cons.inj (List.cons.inj heq).2
          exact ⟨eq_of_letter hletter hletter', htail⟩
      | number => exact absurd (List.cons.inj (List.cons.inj heq).2).1 (letter_ne_u hletter)
  | number =>
      cases hd with
      | plain hbackslash _ => exact absurd (List.cons.inj heq).1.symm hbackslash
      | letter hletter => exact absurd (List.cons.inj (List.cons.inj heq).2).1.symm (letter_ne_u hletter)
      | number =>
          simp only [List.append_assoc, List.cons_append, List.nil_append, List.cons.injEq,
            true_and] at heq
          exact eq_of_number_append heq

theorem Spells.append_ne_quote (hc : Spells c spelling) (after rest : Text) :
    spelling ++ after ≠ '"' :: rest := by
  intro heq
  cases hc with
  | plain _ hquote => exact hquote (List.cons.inj heq).1
  | letter _ => exact absurd (List.cons.inj heq).1 (by decide)
  | number => exact absurd (List.cons.inj heq).1 (by decide)

/-- What is quoted ends at the quote, and nothing else is quoted like it. -/
theorem eq_of_flatMap_escape_append
    (heq : s.flatMap (escape '"') ++ '"' :: after = t.flatMap (escape '"') ++ '"' :: rest) :
    s = t ∧ after = rest := by
  induction s generalizing t with
  | nil =>
      cases t with
      | nil => exact ⟨rfl, (List.cons.inj heq).2⟩
      | cons d t =>
          rw [List.flatMap_cons, List.append_assoc] at heq
          exact absurd heq.symm ((spells_escape d).append_ne_quote _ _)
  | cons c s ih =>
      cases t with
      | nil =>
          rw [List.flatMap_cons, List.append_assoc] at heq
          exact absurd heq ((spells_escape c).append_ne_quote _ _)
      | cons d t =>
          rw [List.flatMap_cons, List.flatMap_cons, List.append_assoc, List.append_assoc] at heq
          obtain ⟨rfl, htail⟩ := (spells_escape c).eq_of_append (spells_escape d) heq
          obtain ⟨rfl, hafter⟩ := ih htail
          exact ⟨rfl, hafter⟩

theorem eq_of_text_append (heq : text s ++ after = text t ++ rest) : s = t ∧ after = rest := by
  simp only [text, between, List.cons_append, List.append_assoc, List.nil_append, List.cons.injEq,
    true_and] at heq
  exact eq_of_flatMap_escape_append heq

theorem text_injective : Function.Injective text := by
  intro s t heq
  have hfront : text s ++ [] = text t ++ [] := congrArg (· ++ []) heq
  exact (eq_of_text_append hfront).1

end LoxTokens.Quoted
