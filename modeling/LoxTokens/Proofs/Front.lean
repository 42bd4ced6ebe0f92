import Mathlib.Data.List.Basic

/-!
# The front of a list

A run that goes through a list and breaks off comes as far as the list consists of what it can go
through. That much of a list is the image of another list, and what comes next is no image at all.
-/

namespace LoxTokens

theorem exists_map_append {α β : Type} (f : β → α) (items : List α) :
    ∃ (front : List β) (rest : List α),
      items = front.map f ++ rest ∧ ∀ a ∈ rest.head?, ∀ b, a ≠ f b := by
  induction items with
  | nil => exact ⟨[], [], rfl, nofun⟩
  | cons a items ih =>
      by_cases ha : ∃ b, a = f b
      · obtain ⟨b, rfl⟩ := ha
        obtain ⟨front, rest, rfl, hrest⟩ := ih
        exact ⟨b :: front, rest, rfl, hrest⟩
      · exact ⟨[], a :: items, rfl, by simpa using ha⟩

end LoxTokens
