import LoxTokens.Diagnostic
import LoxTokens.Proofs.Description
import LoxTokens.Token.Basic
import Mathlib.Data.List.Basic

/-!
# Values told by their descriptions

The description of a token names every part of it, and so does that of a diagnostic: kinds have titles
of their own, texts are quoted and numbers written out. So a token, and a list of diagnostics, can be
told by its description, whatever texts they hold.
-/

namespace LoxTokens

namespace Kind

theorem isWord_title (k : Kind) : Description.IsWord k.title.toList := by
  have hall : ∀ k ∈ all, Description.IsWord k.title.toList := by decide
  exact hall k k.mem_all

theorem title_injective : Function.Injective title := by
  have hall : ∀ k ∈ all, ∀ l ∈ all, k.title = l.title → k = l := by decide +kernel
  intro k l
  exact hall k k.mem_all l l.mem_all

end Kind

namespace Token

theorem legible_describe (t : Token) : t.describe.Legible := by
  apply Description.legible_record (by decide)
  · simp only [List.forall_mem_cons]
    exact ⟨by decide, by decide, by decide, by decide, nofun⟩
  · simp only [List.forall_mem_cons]
    refine ⟨.word t.kind.isWord_title, .quoted t.lexeme, Description.legible_optional ?_,
      Description.legible_number _, nofun⟩
    intro part hpart
    obtain ⟨value, -, rfl⟩ := Option.map_eq_some_iff.mp hpart
    exact Description.legible_applied (by decide) (.quoted value)

theorem describe_injective : Function.Injective describe := by
  intro t u heq
  obtain ⟨kind, lexeme, literal, line⟩ := t
  obtain ⟨kind', lexeme', literal', line'⟩ := u
  simp only [describe, Description.record, List.map_cons, List.map_nil,
    Description.group.injEq, List.cons.injEq, Description.labelled.injEq, true_and, and_true] at heq
  obtain ⟨hkind, hlexeme, hliteral, hline⟩ := heq
  have hvalue : Function.Injective fun value => Description.applied "String" (.quoted value) :=
    (Description.applied_injective "String").comp Description.quoted_injective
  rw [Kind.title_injective (String.toList_inj.mp (Description.word.inj hkind)),
    Description.quoted_injective hlexeme,
    Option.map_injective hvalue (Description.optional_injective hliteral),
    Description.number_toNat_injective hline]

end Token

namespace Diagnostic

theorem legible_describe (d : Diagnostic) : d.describe.Legible := by
  apply Description.legible_record (by decide)
  · simp only [List.forall_mem_cons]
    exact ⟨by decide, by decide, nofun⟩
  · simp only [List.forall_mem_cons]
    exact ⟨Description.legible_number _, .quoted d.message, nofun⟩

theorem describe_injective : Function.Injective describe := by
  intro d e heq
  obtain ⟨line, message⟩ := d
  obtain ⟨line', message'⟩ := e
  simp only [describe, Description.record, List.map_cons, List.map_nil,
    Description.group.injEq, List.cons.injEq, Description.labelled.injEq, true_and, and_true] at heq
  obtain ⟨hline, hmessage⟩ := heq
  rw [Description.number_toNat_injective hline, Description.quoted_injective hmessage]

theorem legible_list_describe (ds : List Diagnostic) :
    (Description.list (ds.map describe)).Legible := by
  apply Description.legible_list
  intro item hitem
  obtain ⟨d, -, rfl⟩ := List.mem_map.mp hitem
  exact d.legible_describe

theorem list_describe_injective :
    Function.Injective fun ds : List Diagnostic => Description.list (ds.map describe) :=
  fun _ _ heq => List.map_injective_iff.mpr describe_injective (Description.list_injective heq)

end Diagnostic

/-- Two tokens are the same if their descriptions are the same text, on one line or spread out, and so
are two lists of diagnostics. -/
theorem descriptions_tell_values :
    (∀ t u : Token, (t = u ↔ t.describe.inline = u.describe.inline) ∧
      (t = u ↔ t.describe.outline = u.describe.outline)) ∧
    ∀ ds es : List Diagnostic,
      (ds = es ↔ (Description.list (ds.map Diagnostic.describe)).inline =
          (Description.list (es.map Diagnostic.describe)).inline) ∧
        (ds = es ↔ (Description.list (ds.map Diagnostic.describe)).outline =
          (Description.list (es.map Diagnostic.describe)).outline) := by
  have htokens := Description.eq_iff_text_eq Token.legible_describe Token.describe_injective
  have hdiagnostics :=
    Description.eq_iff_text_eq Diagnostic.legible_list_describe Diagnostic.list_describe_injective
  exact ⟨fun t u => ⟨htokens .inline t u, htokens (.spread 0) t u⟩,
    fun ds es => ⟨hdiagnostics .inline ds es, hdiagnostics (.spread 0) ds es⟩⟩

end LoxTokens
